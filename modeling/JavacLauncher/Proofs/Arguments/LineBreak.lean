import JavacLauncher.Proofs.Arguments.Classpath
import JavacLauncher.Proofs.Arguments.Extraction

/-!
# Options that span lines

What begins like an option for the launcher should not reach the compiler. The rules recognise such
tokens by their beginning, but they also ask that the token is a single line
(`kind_eq_plain_iff_spansLines`), and a token that spans lines is left with the compiler's own.

From there it may still go as the value of a class path flag, and in no other way
(`mem_toolOptions_iff`). So the compiler gets none of these tokens exactly if each one that spans
lines stands where a flag waits for a value (`launcherOption_stays_iff`).
-/

namespace JavacLauncher.Arguments

/-! ## Tokens that begin like an option for the launcher -/

/-- A text that begins with the mark of runtime options or with the option for the boot class path. -/
def BeginsOption (t : Text) : Prop := "-J".toList <+: t ∨ "-Xbootclasspath/p:".toList <+: t

instance (t : Text) : Decidable (BeginsOption t) := inferInstanceAs (Decidable (_ ∨ _))

/-- A token that begins like an option for the launcher, whatever follows. -/
def IsLauncherOption (token : Bytes) : Prop := ∃ t ∈ Utf8.decode? token, BeginsOption t

instance (token : Bytes) : Decidable (IsLauncherOption token) :=
  inferInstanceAs (Decidable (∃ t ∈ Utf8.decode? token, BeginsOption t))

/-- A token with a line break in it. -/
def SpansLines (token : Bytes) : Prop := ∃ t ∈ Utf8.decode? token, '\n' ∈ t

instance (token : Bytes) : Decidable (SpansLines token) :=
  inferInstanceAs (Decidable (∃ t ∈ Utf8.decode? token, '\n' ∈ t))

theorem isSome_optionText?_iff {start : Text} (hstart : '\n' ∉ start) {token : Bytes} {t : Text}
    (ht : Utf8.decode? token = some t) :
    (optionText? start token).isSome = true ↔ start <+: t ∧ '\n' ∉ t := by
  obtain rfl := Utf8.decode?_eq_some_iff.mp ht
  rw [Option.isSome_iff_exists]
  simp only [optionText?_eq_some_iff]
  constructor
  · rintro ⟨rest, htoken, hline⟩
    rw [Utf8.encode_injective htoken]
    exact ⟨List.prefix_append _ _, fun h => (List.mem_append.mp h).elim hstart hline⟩
  · rintro ⟨⟨rest, rfl⟩, hline⟩
    exact ⟨rest, rfl, fun h => hline (List.mem_append_right _ h)⟩

/-- The rules see single lines only. -/
theorem kind_eq_plain_iff_spansLines {token : Bytes} (h : IsLauncherOption token) :
    kind token = .plain ↔ SpansLines token := by
  obtain ⟨t, ht, hbegins⟩ := h
  have hspans : SpansLines token ↔ '\n' ∈ t := by
    unfold SpansLines
    rw [ht]
    simp
  have hmark : '\n' ∉ "-J".toList := by decide
  have hplain : '\n' ∉ "-Xbootclasspath/p:".toList := by decide
  have hmarked : '\n' ∉ "-J-Xbootclasspath/p:".toList := by decide
  rw [kind_eq_plain_iff, hspans, jvmText?, bootText?, ← Option.not_isSome_iff_eq_none,
    ← Option.not_isSome_iff_eq_none, Option.isSome_or, Bool.or_eq_true,
    isSome_optionText?_iff hmark ht, isSome_optionText?_iff hplain ht,
    isSome_optionText?_iff hmarked ht]
  constructor
  · rintro ⟨hnojvm, hnoboot⟩
    refine Decidable.byContradiction fun hline => ?_
    rcases hbegins with hbegins | hbegins
    · exact hnojvm ⟨hbegins, hline⟩
    · exact hnoboot (Or.inl ⟨hbegins, hline⟩)
  · intro hline
    exact ⟨fun h => h.2 hline, fun h => h.elim (·.2 hline) (·.2 hline)⟩

theorem notMem_classpathFlags {token : Bytes} (h : IsLauncherOption token) :
    token ∉ classpathFlags := by
  have hflags : ∀ flag ∈ classpathFlags, ¬IsLauncherOption flag := by decide
  exact fun hflag => hflags token hflag h

/-! ## What becomes of them -/

/-- A token that no rule takes stands among the others of its kind where it stands among all. -/
theorem plainTokens_eq_append_cons_iff {tokens front' back' : List Bytes} {token : Bytes} :
    plainTokens tokens = front' ++ token :: back' ↔ kind token = .plain ∧
      ∃ front back, tokens = front ++ token :: back ∧ plainTokens front = front' ∧
        plainTokens back = back' := by
  constructor
  · intro h
    obtain ⟨first, rest, rfl, hfirst, hrest⟩ := List.filter_eq_append_iff.mp h
    obtain ⟨skipped, back, rfl, hskipped, htoken, hback⟩ := List.filter_eq_cons_iff.mp hrest
    refine ⟨of_decide_eq_true htoken, first ++ skipped, back, ?_, ?_, hback⟩
    · rw [List.append_assoc]
    · have hnone : plainTokens skipped = [] := List.filter_eq_nil_iff.mpr hskipped
      rw [plainTokens_append, hnone, List.append_nil]
      exact hfirst
  · rintro ⟨htoken, front, back, rfl, rfl, rfl⟩
    rw [plainTokens_append, plainTokens_cons, if_pos htoken]

/-- **An option for the launcher stays exactly if it spans lines and no flag waits for it.** -/
theorem mem_toolOptions_iff (inherited? : Option Bytes) {token : Bytes} (h : IsLauncherOption token)
    (tokens : List Bytes) :
    token ∈ (ofTokens inherited? tokens).toolOptions ↔ SpansLines token ∧
      ∃ front back, tokens = front ++ token :: back ∧
        ¬EndsInFlag (ofTokens inherited? front).toolOptions := by
  simp only [ofTokens_eq]
  rw [mem_takeClasspath_iff (notMem_classpathFlags h), ← kind_eq_plain_iff_spansLines h]
  simp only [plainTokens_eq_append_cons_iff]
  constructor
  · rintro ⟨_, _, ⟨hkind, front, back, rfl, rfl, rfl⟩, hwaits⟩
    exact ⟨hkind, front, back, rfl, hwaits⟩
  · rintro ⟨hkind, front, back, rfl, hwaits⟩
    exact ⟨_, _, ⟨hkind, front, back, rfl, rfl, rfl⟩, hwaits⟩

/-- **No option for the launcher reaches the compiler exactly if those that span lines are values of
class path flags.** The ones that reach it span lines. -/
theorem launcherOption_stays_iff (inherited? : Option Bytes) (tokens : List Bytes) :
    (∀ token ∈ (ofTokens inherited? tokens).toolOptions, IsLauncherOption token →
      SpansLines token) ∧
    ((∀ token ∈ (ofTokens inherited? tokens).toolOptions, ¬IsLauncherOption token) ↔
      ∀ front token back, tokens = front ++ token :: back → IsLauncherOption token →
        SpansLines token → EndsInFlag (ofTokens inherited? front).toolOptions) := by
  refine ⟨?_, ?_, ?_⟩
  · intro token htoken hoption
    exact ((mem_toolOptions_iff inherited? hoption tokens).mp htoken).1
  · intro hnone front token back hsplit hoption hspans
    refine Decidable.byContradiction fun hwaits => ?_
    have hmem := (mem_toolOptions_iff inherited? hoption tokens).mpr
      ⟨hspans, front, back, hsplit, hwaits⟩
    exact hnone token hmem hoption
  · intro hvalues token htoken hoption
    obtain ⟨hspans, front, back, hsplit, hwaits⟩ :=
      (mem_toolOptions_iff inherited? hoption tokens).mp htoken
    exact hwaits (hvalues front token back hsplit hoption hspans)

/-- An option that spans lines is the value of a flag, and the other one is a single line. -/
theorem launcherOption_stays_iff_value :
    let tokens := ["-cp", "-J-Dx=a\nb", "-J-ea"].map Bytes.ofString
    (∃ token ∈ tokens, IsLauncherOption token ∧ SpansLines token) ∧
    ∀ token ∈ (ofTokens none tokens).toolOptions, ¬IsLauncherOption token := by
  intro tokens
  refine ⟨by decide, (launcherOption_stays_iff none tokens).2.mpr ?_⟩
  intro front token back hsplit hoption hspans
  match front, hsplit with
  | [], hsplit =>
    obtain ⟨rfl, _⟩ := List.cons.inj hsplit
    exact absurd hoption (by decide)
  | [_], hsplit =>
    obtain ⟨rfl, _⟩ := List.cons.inj hsplit
    decide
  | [_, _], hsplit =>
    obtain ⟨_, hrest⟩ := List.cons.inj (List.cons.inj hsplit).2
    obtain ⟨rfl, _⟩ := List.cons.inj hrest
    exact absurd hspans (by decide)
  | _ :: _ :: _ :: front, hsplit =>
    have hlength := congrArg List.length hsplit
    simp [tokens] at hlength

/-- One line break hides an option for the runtime from the rules, and the compiler gets it. -/
theorem lineBreak_hides_option :
    ¬∀ (inherited? : Option Bytes) (tokens : List Bytes),
      ∀ token ∈ (ofTokens inherited? tokens).toolOptions, ¬IsLauncherOption token := by
  intro h
  exact h none [Bytes.ofString "-J-Dx=a\nb"] (Bytes.ofString "-J-Dx=a\nb") (by decide) (by decide)

end JavacLauncher.Arguments
