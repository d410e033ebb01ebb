import JavacLauncher.Launch
import JavacLauncher.Snapshot
import JavacLauncher.Proofs.Text.Pieces
import Mathlib.Data.List.TakeWhile

/-!
# Greetings

A runtime greets on two streams, and the version stands in double quotes somewhere in the greeting. The
two streams are put behind each other with a newline between them, and that newline is what keeps them
apart: cutting at newlines, the joined text falls into the pieces of the one and those of the other
(`announced?_append`). So a quote left open at the end of the error stream stays open.

Lines and the pieces between newlines are not quite the same. A line loses the carriage return at its
end, and no line follows the last newline. Neither matters to what is in quotes, for a carriage return
at the end stands behind the second quote and an empty piece has no quotes (`announced?_eq_findSome?`).
It does matter to a greeting without a version, which is reported by its first line
(`lines_append_cons`).
-/

namespace JavacLauncher

/-! ## Lines -/

namespace Text

/-- `bare` is `line` without the one carriage return it may end with. -/
def WithoutReturn (line bare : Text) : Prop :=
  line = bare ++ ['\r'] ∨ line = bare ∧ line.getLast? ≠ some '\r'

theorem withoutReturn_dropReturn (line : Text) : WithoutReturn line line.dropReturn := by
  unfold dropReturn
  split
  · rename_i rest hrest
    refine Or.inl ?_
    rw [← List.reverse_reverse line, hrest, List.reverse_cons]
  · rename_i hrest
    refine Or.inr ⟨rfl, fun hlast => ?_⟩
    obtain ⟨front, rfl⟩ := List.getLast?_eq_some_iff.mp hlast
    exact hrest front.reverse List.reverse_concat

/-- A line with something to drop does not go without dropping it, and the other way round. -/
theorem withoutReturn_iff {line bare : Text} : WithoutReturn line bare ↔ bare = line.dropReturn := by
  constructor
  · rintro (hdropped | ⟨hsame, hlast⟩) <;>
      rcases withoutReturn_dropReturn line with hdropped' | ⟨hsame', hlast'⟩
    · exact List.append_cancel_right (hdropped.symm.trans hdropped')
    · exact absurd (by rw [hdropped, List.getLast?_concat]) hlast'
    · exact absurd (by rw [hdropped', List.getLast?_concat]) hlast
    · exact hsame.symm.trans hsame'
  · rintro rfl
    exact withoutReturn_dropReturn line

/-- The first line ends at the first newline. -/
theorem lines_append_cons {first : Text} (h : '\n' ∉ first) (rest : Text) :
    (first ++ '\n' :: rest).lines = first.dropReturn :: rest.lines := by
  have hne : rest.splitOn '\n' ≠ [] := List.splitOn_ne_nil _ _
  unfold lines
  dsimp only
  rw [splitOn_append_cons h, List.dropLast_cons_of_ne_nil hne, List.getLast?_cons_of_ne_nil hne]
  rfl

theorem takeWhile_of_notMem {t : Text} (h : '\n' ∉ t) : t.takeWhile (· ≠ '\n') = t := by
  rw [List.takeWhile_eq_self_iff]
  exact fun c hc => decide_eq_true (ne_of_mem_of_not_mem hc h)

theorem takeWhile_append_cons {first : Text} (h : '\n' ∉ first) (rest : Text) :
    (first ++ '\n' :: rest).takeWhile (· ≠ '\n') = first := by
  rw [List.takeWhile_append_of_pos fun c hc => decide_eq_true (ne_of_mem_of_not_mem hc h),
    List.takeWhile_cons_of_neg (by decide), List.append_nil]

/-- What is put behind a text and a newline does not change the first line. -/
theorem headD_lines_append (t rest : Text) :
    (t ++ '\n' :: rest).lines.headD [] = dropReturn (t.takeWhile (· ≠ '\n')) := by
  -- the first newline is the one put behind the text, unless the text has one of its own
  rcases hcut : cut? '\n' t with _ | ⟨first, behind⟩
  · have ht := cut?_eq_none_iff.mp hcut
    rw [lines_append_cons ht, List.headD_cons, takeWhile_of_notMem ht]
  · obtain ⟨rfl, hfirst⟩ := cut?_eq_some_iff.mp hcut
    rw [List.append_assoc, List.cons_append, lines_append_cons hfirst, List.headD_cons,
      takeWhile_append_cons hfirst]

end Text

namespace Version

/-! ## One line -/

/-- `quoted` stands between the first two double quotes of `line`. -/
def Quotes (line quoted : Text) : Prop :=
  ∃ before after, line = before ++ '"' :: (quoted ++ '"' :: after) ∧ '"' ∉ before ∧ '"' ∉ quoted

theorem quotedPart?_eq_some_iff {line quoted : Text} :
    quotedPart? line = some quoted ↔ Quotes line quoted := by
  unfold quotedPart?
  constructor
  · intro h
    obtain ⟨⟨before, opened⟩, hopened, h⟩ := Option.bind_eq_some_iff.mp h
    obtain ⟨⟨_, after⟩, hclosed, h⟩ := Option.bind_eq_some_iff.mp h
    obtain rfl := Option.some.inj h
    obtain ⟨rfl, hbefore⟩ := cut?_eq_some_iff.mp hopened
    obtain ⟨rfl, hquoted⟩ := cut?_eq_some_iff.mp hclosed
    exact ⟨before, after, rfl, hbefore, hquoted⟩
  · rintro ⟨before, after, rfl, hbefore, hquoted⟩
    rw [cut?_eq_some_iff.mpr ⟨rfl, hbefore⟩]
    dsimp only [Option.bind_eq_bind, Option.bind_some]
    rw [cut?_eq_some_iff.mpr ⟨rfl, hquoted⟩]
    rfl

/-- The search fails at the first quote of a line or at the second one. -/
theorem quotedPart?_eq_none_iff {line : Text} :
    quotedPart? line = none ↔ line.count '"' < 2 := by
  unfold quotedPart?
  rcases hopened : cut? '"' line with _ | ⟨before, opened⟩
  · have hline := cut?_eq_none_iff.mp hopened
    rw [List.count_eq_zero_of_not_mem hline]
    exact iff_of_true rfl Nat.two_pos
  · obtain ⟨rfl, hbefore⟩ := cut?_eq_some_iff.mp hopened
    rw [List.count_append, List.count_eq_zero_of_not_mem hbefore, List.count_cons_self]
    rcases hclosed : cut? '"' opened with _ | ⟨quoted, after⟩
    · -- a quote is left open
      rw [List.count_eq_zero_of_not_mem (cut?_eq_none_iff.mp hclosed)]
      refine iff_of_true ?_ Nat.one_lt_two
      simp [hclosed]
    · obtain ⟨rfl, -⟩ := cut?_eq_some_iff.mp hclosed
      rw [List.count_append, List.count_cons_self]
      refine iff_of_false ?_ (by omega)
      simp [hclosed]

/-- What is in quotes ends before the end of the line. -/
theorem quotes_append_return_iff {bare quoted : Text} :
    Quotes (bare ++ ['\r']) quoted ↔ Quotes bare quoted := by
  constructor
  · rintro ⟨before, after, hline, hbefore, hquoted⟩
    rw [← List.cons_append, ← List.append_assoc] at hline
    rcases List.eq_nil_or_concat after with rfl | ⟨after, last, rfl⟩
    · -- the line ends with a carriage return, not with the second quote
      have hlast := List.append_inj_right' hline rfl
      exact absurd hlast (by decide)
    · rw [List.concat_eq_append, ← List.cons_append, ← List.append_assoc] at hline
      obtain ⟨rfl, -⟩ := List.append_inj' hline rfl
      exact ⟨before, after, by rw [List.append_assoc, List.cons_append], hbefore, hquoted⟩
  · rintro ⟨before, after, rfl, hbefore, hquoted⟩
    exact ⟨before, after ++ ['\r'], by simp, hbefore, hquoted⟩

theorem quotedPart?_dropReturn (line : Text) : quotedPart? line.dropReturn = quotedPart? line := by
  rcases Text.withoutReturn_dropReturn line with hline | ⟨hline, -⟩
  · ext quoted
    rw [quotedPart?_eq_some_iff, quotedPart?_eq_some_iff, ← quotes_append_return_iff, ← hline]
  · rw [← hline]

/-! ## The lines of a greeting -/

/-- `quoted` is what is in quotes on the first line that holds two double quotes. -/
inductive FirstQuoted : List Text → Text → Prop where
  | here {line quoted : Text} (h : Quotes line quoted) (lines : List Text) :
      FirstQuoted (line :: lines) quoted
  | later {line quoted : Text} {lines : List Text} (hline : line.count '"' < 2)
      (h : FirstQuoted lines quoted) : FirstQuoted (line :: lines) quoted

theorem firstQuoted_iff {lines : List Text} {quoted : Text} :
    FirstQuoted lines quoted ↔ lines.findSome? quotedPart? = some quoted := by
  constructor
  · intro h
    induction h with
    | here h lines => rw [List.findSome?_cons, quotedPart?_eq_some_iff.mpr h]
    | later hline h ih => rw [List.findSome?_cons, quotedPart?_eq_none_iff.mpr hline, ih]
  · intro h
    induction lines with
    | nil => cases h
    | cons line lines ih =>
      rw [List.findSome?_cons] at h
      split at h
      · rename_i hline
        obtain rfl := Option.some.inj h
        exact .here (quotedPart?_eq_some_iff.mp hline) lines
      · rename_i hline
        exact .later (quotedPart?_eq_none_iff.mp hline) (ih h)

/-- What is found stands on one of the lines. -/
theorem FirstQuoted.exists_quotes {lines : List Text} {quoted : Text} (h : FirstQuoted lines quoted) :
    ∃ line ∈ lines, Quotes line quoted := by
  induction h with
  | here h lines => exact ⟨_, List.mem_cons_self, h⟩
  | later _ _ ih =>
    obtain ⟨line, hmem, hquotes⟩ := ih
    exact ⟨line, List.mem_cons_of_mem _ hmem, hquotes⟩

/-- The pieces between the newlines of what a process writes. -/
def linesOf (written : Bytes) : List Text := (Utf8.decodeLossy written).splitOn '\n'

/-- **What is in quotes on a line is in quotes between two newlines**, and the other way round. -/
theorem announced?_eq_findSome? (t : Text) :
    announced? t = (t.splitOn '\n').findSome? quotedPart? := by
  have hne : t.splitOn '\n' ≠ [] := List.splitOn_ne_nil _ _
  obtain ⟨front, last, hpieces⟩ : ∃ front last, t.splitOn '\n' = front ++ [last] :=
    ⟨_, _, (List.dropLast_concat_getLast hne).symm⟩
  have hfront : quotedPart? ∘ Text.dropReturn = quotedPart? := funext quotedPart?_dropReturn
  unfold announced? Text.lines
  dsimp only
  rw [hpieces, List.dropLast_concat, List.getLast?_concat, List.findSome?_append,
    List.findSome?_append, List.findSome?_map, hfront]
  -- only the last piece may be no line, and then it is empty
  cases last with
  | nil => rfl
  | cons c last => rfl

/-- A text behind a newline is searched on its own. -/
theorem announced?_append (errors output : Text) :
    announced? (errors ++ '\n' :: output) = (announced? errors).or (announced? output) := by
  rw [announced?_eq_findSome?, announced?_eq_findSome?, announced?_eq_findSome?,
    List.splitOn_append_cons_self, List.findSome?_append]

theorem announced?_banner_eq_findSome? (errors output : Bytes) :
    announced? (banner errors output) =
      (linesOf errors ++ linesOf output).findSome? quotedPart? := by
  rw [announced?_eq_findSome?, banner, List.splitOn_append_cons_self]
  rfl

theorem newline_notMem_of_mem_linesOf {written : Bytes} {line : Text} (h : line ∈ linesOf written) :
    '\n' ∉ line :=
  notMem_of_mem_splitOn h

theorem announced_eq_ok_iff {t quoted : Text} :
    announced t = .ok quoted ↔ announced? t = some quoted := by
  unfold announced
  cases announced? t <;> simp

theorem announced_eq_error_iff {t : Text} {e : LaunchError} :
    announced t = .error e ↔ announced? t = none ∧ e = .unreadableVersion (t.lines.headD []) := by
  unfold announced
  cases announced? t <;> simp [eq_comm]

end Version

namespace Launch

open Version

variable {σ : Type}

/-- **A runtime's version is the first text in quotes that it writes**, looked for on each line of the
error stream and then on each line of the other one. If there is none, the first line of the error
stream is reported. -/
theorem askVersion_firstQuoted {host : Host σ} {java : Path} {s s' : σ} {out : Output}
    (h : host.collect [java.bytes, Bytes.ofString "-version"] s = (.ok out, s')) :
    ∃ answer, askVersion host java s = (answer, s') ∧
      (∀ quoted, answer = .ok quoted ↔
        FirstQuoted (linesOf out.errors ++ linesOf out.output) quoted) ∧
      answer.toOption = announced? (banner out.errors out.output) ∧
      announced? (banner out.errors out.output) =
        (announced? (Utf8.decodeLossy out.errors)).or (announced? (Utf8.decodeLossy out.output)) ∧
      (∀ quoted, answer = .ok quoted → '"' ∉ quoted ∧ '\n' ∉ quoted) ∧
      (∀ e, answer = .error e ↔
        (∀ line ∈ linesOf out.errors ++ linesOf out.output, line.count '"' < 2) ∧
          ∃ first, Text.WithoutReturn ((Utf8.decodeLossy out.errors).takeWhile (· ≠ '\n')) first ∧
            e = .unreadableVersion first) ∧
      (Utf8.decodeLossy out.errors = [] → ∀ e, answer = .error e → e = .unreadableVersion []) := by
  have hok : ∀ quoted, announced (banner out.errors out.output) = .ok quoted ↔
      FirstQuoted (linesOf out.errors ++ linesOf out.output) quoted := fun quoted => by
    rw [announced_eq_ok_iff, announced?_banner_eq_findSome?, firstQuoted_iff]
  have herror : ∀ e, announced (banner out.errors out.output) = .error e ↔
      (∀ line ∈ linesOf out.errors ++ linesOf out.output, line.count '"' < 2) ∧
        e = .unreadableVersion
          (Text.dropReturn ((Utf8.decodeLossy out.errors).takeWhile (· ≠ '\n'))) := by
    intro e
    rw [announced_eq_error_iff, announced?_banner_eq_findSome?, List.findSome?_eq_none_iff, banner,
      Text.headD_lines_append]
    simp only [quotedPart?_eq_none_iff]
  refine ⟨announced (banner out.errors out.output), ?_, hok, ?_, ?_, ?_, ?_, ?_⟩
  · unfold askVersion
    rw [h]
  · unfold announced
    cases announced? (banner out.errors out.output) <;> rfl
  · exact announced?_append _ _
  · intro quoted hquoted
    obtain ⟨line, hmem, before, after, rfl, -, hnoQuote⟩ := ((hok quoted).mp hquoted).exists_quotes
    -- what is quoted is a part of one line
    have hnewline : '\n' ∉ before ++ '"' :: (quoted ++ '"' :: after) :=
      (List.mem_append.mp hmem).elim newline_notMem_of_mem_linesOf newline_notMem_of_mem_linesOf
    exact ⟨hnoQuote, fun hin => hnewline (by simp [hin])⟩
  · intro e
    rw [herror]
    simp only [Text.withoutReturn_iff, exists_eq_left]
  · intro hempty e he
    rw [((herror e).mp he).2, hempty]
    rfl

/-- A quote left open at the end of the error stream is closed by none on the other stream, and a quote
left open on a line by none on the next line. -/
theorem askVersion_openQuotes :
    ∃ (host : Host Snapshot) (s : Snapshot) (out : Output),
      host.collect [Bytes.ofString "java", Bytes.ofString "-version"] s = (.ok out, s) ∧
      linesOf out.errors = ["java version \"".toList] ∧
      linesOf out.output = ["1.7.0\"\r".toList, "build \"1.6.0\"".toList] ∧
      askVersion host ⟨Bytes.ofString "java"⟩ s = (.ok "1.6.0".toList, s) := by
  let out : Output :=
    ⟨Bytes.ofString "1.7.0\"\r\nbuild \"1.6.0\"", Bytes.ofString "java version \""⟩
  let host : Host Snapshot := { Snapshot.host with collect := fun _ s => (.ok out, s) }
  let java : Path := ⟨Bytes.ofString "java"⟩
  let s : Snapshot := ⟨[], .error .noEntry, .error .noEntry, [], [], []⟩
  have herrors : linesOf out.errors = ["java version \"".toList] := by decide
  have houtput : linesOf out.output = ["1.7.0\"\r".toList, "build \"1.6.0\"".toList] := by decide
  have hcollect : host.collect [java.bytes, Bytes.ofString "-version"] s = (.ok out, s) := rfl
  refine ⟨host, s, out, hcollect, herrors, houtput, ?_⟩
  obtain ⟨answer, hanswer, hok, -⟩ := askVersion_firstQuoted hcollect
  rw [herrors, houtput] at hok
  have hbuild : Quotes "build \"1.6.0\"".toList "1.6.0".toList :=
    ⟨"build ".toList, [], by decide, by decide, by decide⟩
  rw [hanswer, (hok _).mpr (.later (by decide) (.later (by decide) (.here hbuild [])))]

end Launch

end JavacLauncher
