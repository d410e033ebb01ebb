import JavacLauncher.Shell.Pattern
import Mathlib.Data.List.Induction
import Mathlib.Data.Nat.Find

/-!
# What a pattern matches

A pattern matches a text item by item: `*` takes any part of it, also none, and every other item one
character that fits it (`Fits`). That leaves many ways to try. The matcher tries none of them: it reads
the text once and keeps the ends of the pattern that the rest may still have to match.

Such an end takes the next character with its first item, or there is nothing left of it (`FitsNow`),
and a pattern matches a text if one of its idle ends does so at once (`fits_iff`). A character turns the
ends that are kept into those that are left behind it (`exists_nextEnds`). Two of them with the same
length are the same, because both are ends of one pattern; that is why the matcher may tell them apart
by their lengths.

So one pass tells of each front of the text whether it is matched (`getElem?_matchedFronts`), and with
it which is the shortest one and which the longest (`matchedLength?_eq_some_iff`). Patterns can be read
backwards (`fits_reverse_iff`), and what is dropped from the end of a text is what the pattern read
backwards drops from its front (`dropBack_eq`).
-/

namespace JavacLauncher.Shell

/-- A pattern and a text that it matches. -/
inductive Fits : List PatternItem → Text → Prop where
  | nil : Fits [] []
  | anyText {front back : Text} {is : List PatternItem} (rest : Fits is back) :
      Fits (.anyText :: is) (front ++ back)
  | one {i : PatternItem} {c : Char} {is : List PatternItem} {t : Text} (first : i.fits c = true)
      (rest : Fits is t) : Fits (i :: is) (c :: t)

variable {p q is : List PatternItem} {i : PatternItem} {c : Char} {t : Text}

@[simp] theorem fits_nil_iff : Fits [] t ↔ t = [] := by
  constructor
  · rintro ⟨⟩
    rfl
  · rintro rfl
    exact .nil

theorem fits_anyText_iff :
    Fits (.anyText :: is) t ↔ ∃ front back, t = front ++ back ∧ Fits is back := by
  constructor
  · intro h
    cases h with
    | anyText rest => exact ⟨_, _, rfl, rest⟩
    | one first rest => cases first
  · rintro ⟨front, back, rfl, rest⟩
    exact .anyText rest

theorem fits_cons_iff (h : i ≠ .anyText) :
    Fits (i :: is) t ↔ ∃ c rest, t = c :: rest ∧ i.fits c = true ∧ Fits is rest := by
  constructor
  · intro h'
    cases h' with
    | anyText rest => exact absurd rfl h
    | one first rest => exact ⟨_, _, rfl, first, rest⟩
  · rintro ⟨c, rest, rfl, first, hrest⟩
    exact .one first hrest

/-- A `*` is over, or takes one character more. -/
theorem fits_anyText_cons_iff :
    Fits (.anyText :: is) (c :: t) ↔ Fits is (c :: t) ∨ Fits (.anyText :: is) t := by
  simp only [fits_anyText_iff]
  constructor
  · rintro ⟨_ | ⟨d, front⟩, back, heq, rest⟩
    · exact .inl (heq ▸ rest)
    · obtain ⟨rfl, rfl⟩ := List.cons.inj heq
      exact .inr ⟨front, back, rfl, rest⟩
  · rintro (rest | ⟨front, back, rfl, rest⟩)
    · exact ⟨[], c :: t, rfl, rest⟩
    · exact ⟨c :: front, back, rfl, rest⟩

theorem Fits.append {s : Text} (hp : Fits p s) (hq : Fits q t) : Fits (p ++ q) (s ++ t) := by
  induction hp with
  | nil => exact hq
  | anyText rest ih =>
    rw [List.append_assoc]
    exact .anyText ih
  | one first rest ih => exact .one first ih

theorem Fits.reverse (h : Fits p t) : Fits p.reverse t.reverse := by
  induction h with
  | nil => exact .nil
  | @anyText front back is rest ih =>
    have hany : Fits [.anyText] (front.reverse ++ []) := .anyText .nil
    rw [List.reverse_cons, List.reverse_append, ← List.append_nil front.reverse]
    exact ih.append hany
  | one first rest ih =>
    rw [List.reverse_cons, List.reverse_cons]
    exact ih.append (.one first .nil)

/-- A pattern read backwards matches the texts read backwards. -/
theorem fits_reverse_iff : Fits p.reverse t.reverse ↔ Fits p t := by
  constructor
  · intro h
    have h' := h.reverse
    rwa [List.reverse_reverse, List.reverse_reverse] at h'
  · exact Fits.reverse

/-! ## Quoted text -/

theorem patternItems_quoted (t : Text) {n : Nat} (h : t.length < n) :
    patternItems n (mark true t) = t.map .literal := by
  induction t generalizing n with
  | nil => cases n <;> rfl
  | cons c t ih =>
    cases n with
    | zero => exact absurd h (Nat.not_lt_zero _)
    | succ n =>
      have hcons : mark true (c :: t) = (c, true) :: mark true t := rfl
      rw [hcons, patternItems.eq_def]
      dsimp only
      rw [if_pos rfl, ih (Nat.lt_of_succ_lt_succ h), List.map_cons]

theorem fits_literals_iff {word : Text} : Fits (word.map .literal) t ↔ t = word := by
  induction word generalizing t with
  | nil => exact fits_nil_iff
  | cons c word ih =>
    rw [List.map_cons, fits_cons_iff (PatternItem.noConfusion)]
    simp only [PatternItem.fits, decide_eq_true_eq, ih]
    constructor
    · rintro ⟨_, _, rfl, rfl, rfl⟩
      rfl
    · rintro rfl
      exact ⟨c, word, rfl, rfl, rfl⟩

/-- **What is quoted matches itself and nothing else.** -/
theorem fits_pattern_quoted_iff {word : Text} : Fits (pattern (mark true word)) t ↔ t = word := by
  have hlength : word.length < (mark true word).length + 1 := by simp [mark]
  rw [pattern, patternItems_quoted word hlength, fits_literals_iff]

/-! ## The ends of a pattern -/

/-- The end of a pattern that matches a text with its first item, or with nothing to match. -/
inductive FitsNow : List PatternItem → Text → Prop where
  | nil : FitsNow [] []
  | anyText {c : Char} {is : List PatternItem} {t : Text} (rest : Fits (.anyText :: is) t) :
      FitsNow (.anyText :: is) (c :: t)
  | one {i : PatternItem} {c : Char} {is : List PatternItem} {t : Text} (first : i.fits c = true)
      (rest : Fits is t) : FitsNow (i :: is) (c :: t)

theorem FitsNow.fits (h : FitsNow p t) : Fits p t := by
  cases h with
  | nil => exact .nil
  | anyText rest => exact fits_anyText_cons_iff.2 (.inr rest)
  | one first rest => exact .one first rest

theorem idleEnds_of_ne (h : i ≠ .anyText) (is : List PatternItem) : idleEnds (i :: is) = [i :: is] := by
  cases i with
  | anyText => exact absurd rfl h
  | literal _ | anyChar | set _ _ => rfl

/-- A pattern matches if one of its idle ends does at once. -/
theorem fits_iff : Fits p t ↔ ∃ e ∈ idleEnds p, FitsNow e t := by
  constructor
  · intro h
    induction h with
    | nil => exact ⟨[], List.mem_singleton_self [], .nil⟩
    | @anyText front back is rest ih =>
      cases front with
      | nil =>
        obtain ⟨e, he, hnow⟩ := ih
        exact ⟨e, List.mem_cons_of_mem _ he, hnow⟩
      | cons d front => exact ⟨_, List.mem_cons_self, .anyText (.anyText rest)⟩
    | @one i c is t first rest _ =>
      have hne : i ≠ .anyText := by
        rintro rfl
        cases first
      exact ⟨i :: is, by simp [idleEnds_of_ne hne], .one first rest⟩
  · rintro ⟨e, he, hnow⟩
    induction p with
    | nil => exact List.mem_singleton.1 he ▸ hnow.fits
    | cons i is ih =>
      by_cases hany : i = .anyText
      · subst hany
        rcases List.mem_cons.1 he with rfl | he
        · exact hnow.fits
        · exact fits_anyText_iff.2 ⟨[], t, rfl, ih he⟩
      · rw [idleEnds_of_ne hany] at he
        exact List.mem_singleton.1 he ▸ hnow.fits

theorem suffix_of_mem_idleEnds {e : List PatternItem} (h : e ∈ idleEnds p) : e <:+ p := by
  induction p with
  | nil => exact List.mem_singleton.1 h ▸ List.suffix_rfl
  | cons i is ih =>
    by_cases hany : i = .anyText
    · subst hany
      rcases List.mem_cons.1 h with rfl | h
      · exact List.suffix_rfl
      · exact (ih h).trans (List.suffix_cons _ _)
    · rw [idleEnds_of_ne hany] at h
      exact List.mem_singleton.1 h ▸ List.suffix_rfl

/-- The ends that one end leaves behind a character. -/
def endsBehind (c : Char) : List PatternItem → List (List PatternItem)
  | .anyText :: is => idleEnds (.anyText :: is)
  | i :: is => if i.fits c then idleEnds is else []
  | [] => []

theorem endsBehind_of_ne (h : i ≠ .anyText) (c : Char) (is : List PatternItem) :
    endsBehind c (i :: is) = if i.fits c then idleEnds is else [] := by
  cases i with
  | anyText => exact absurd rfl h
  | literal _ | anyChar | set _ _ => rfl

theorem suffix_of_mem_endsBehind {e : List PatternItem} (h : e ∈ endsBehind c p) : e <:+ p := by
  cases p with
  | nil => exact absurd h List.not_mem_nil
  | cons i is =>
    by_cases hany : i = .anyText
    · subst hany
      exact suffix_of_mem_idleEnds h
    · rw [endsBehind_of_ne hany] at h
      split at h
      · exact (suffix_of_mem_idleEnds h).trans (List.suffix_cons _ _)
      · exact absurd h List.not_mem_nil

/-- One end matches what begins with a character if an end that is left behind it matches the rest. -/
theorem exists_endsBehind : (∃ e ∈ endsBehind c p, FitsNow e t) ↔ FitsNow p (c :: t) := by
  cases p with
  | nil => simpa [endsBehind] using nofun
  | cons i is =>
    by_cases hany : i = .anyText
    · subst hany
      refine fits_iff.symm.trans ⟨.anyText, fun h => ?_⟩
      cases h with
      | anyText rest => exact rest
      | one first rest => cases first
    · rw [endsBehind_of_ne hany]
      split
      · rename_i hfits
        refine fits_iff.symm.trans ⟨.one hfits, fun h => ?_⟩
        cases h with
        | anyText rest => exact absurd rfl hany
        | one first rest => exact rest
      · rename_i hfits
        refine ⟨fun ⟨_, he, _⟩ => absurd he List.not_mem_nil, fun h => ?_⟩
        cases h with
        | anyText rest => exact absurd rfl hany
        | one first rest => exact absurd first hfits

/-- The first ones of each length. -/
def perLength (ends : List (List PatternItem)) : List (List PatternItem) :=
  ends.foldr (fun e es => if es.any fun e' => e'.length = e.length then es else e :: es) []

theorem nextEnds_eq (c : Char) (ends : List (List PatternItem)) :
    nextEnds c ends = perLength (ends.flatMap (endsBehind c)) := by
  unfold nextEnds perLength
  congr 2

/-- Ends of one pattern are told apart by their lengths. -/
theorem mem_perLength {ends : List (List PatternItem)} (h : ∀ e ∈ ends, e <:+ p)
    {e : List PatternItem} : e ∈ perLength ends ↔ e ∈ ends := by
  induction ends generalizing e with
  | nil => rfl
  | cons first ends ih =>
    obtain ⟨hfirst, hends⟩ := List.forall_mem_cons.1 h
    have ih (e : List PatternItem) : e ∈ perLength ends ↔ e ∈ ends := ih hends
    have hstep : perLength (first :: ends) =
        if (perLength ends).any fun e' => e'.length = first.length then perLength ends
        else first :: perLength ends := rfl
    rw [hstep, List.mem_cons]
    split
    · rename_i hany
      obtain ⟨same, hsame, hlength⟩ := List.any_eq_true.1 hany
      have hsuffix : same <:+ first :=
        List.suffix_of_suffix_length_le (hends same ((ih same).1 hsame)) hfirst
          (Nat.le_of_eq (of_decide_eq_true hlength))
      have heq : same = first := hsuffix.eq_of_length (of_decide_eq_true hlength)
      rw [ih]
      exact ⟨.inr, fun h => h.elim (fun h => h ▸ heq ▸ (ih same).1 hsame) id⟩
    · rw [List.mem_cons, ih]

theorem mem_nextEnds {ends : List (List PatternItem)} (h : ∀ e ∈ ends, e <:+ p)
    {e : List PatternItem} : e ∈ nextEnds c ends ↔ ∃ e' ∈ ends, e ∈ endsBehind c e' := by
  have hbehind : ∀ e ∈ ends.flatMap (endsBehind c), e <:+ p := by
    intro e he
    obtain ⟨e', he', he⟩ := List.mem_flatMap.1 he
    exact (suffix_of_mem_endsBehind he).trans (h e' he')
  rw [nextEnds_eq, mem_perLength hbehind, List.mem_flatMap]

theorem suffix_of_mem_nextEnds {ends : List (List PatternItem)} (h : ∀ e ∈ ends, e <:+ p) :
    ∀ e ∈ nextEnds c ends, e <:+ p := by
  intro e he
  obtain ⟨e', he', he⟩ := (mem_nextEnds h).1 he
  exact (suffix_of_mem_endsBehind he).trans (h e' he')

theorem exists_nextEnds {ends : List (List PatternItem)} (h : ∀ e ∈ ends, e <:+ p) :
    (∃ e ∈ nextEnds c ends, FitsNow e t) ↔ ∃ e ∈ ends, FitsNow e (c :: t) := by
  simp only [mem_nextEnds h, ← exists_endsBehind]
  grind

/-! ## Reading a text -/

theorem any_isEmpty_iff {ends : List (List PatternItem)} :
    ends.any List.isEmpty = true ↔ ∃ e ∈ ends, FitsNow e [] := by
  rw [List.any_eq_true]
  refine exists_congr fun e => and_congr_right fun _ => ?_
  rw [List.isEmpty_iff]
  constructor
  · rintro rfl
    exact .nil
  · intro h
    cases h
    rfl

/-- **The matcher matches what the pattern matches.** -/
theorem isMatch_iff : isMatch p t = true ↔ Fits p t := by
  have hrun : ∀ (t : Text) (ends : List (List PatternItem)), (∀ e ∈ ends, e <:+ p) →
      ((t.foldl (fun ends c => if ends.isEmpty then ends else nextEnds c ends) ends).any List.isEmpty =
        true ↔ ∃ e ∈ ends, FitsNow e t) := by
    intro t
    induction t with
    | nil => exact fun ends _ => any_isEmpty_iff
    | cons c t ih =>
      intro ends hends
      rw [List.foldl_cons, ← exists_nextEnds hends, ← ih _ (suffix_of_mem_nextEnds hends)]
      cases ends <;> rfl
  rw [isMatch, hrun t _ fun e => suffix_of_mem_idleEnds, ← fits_iff]

/-- Of each front it is told whether it is matched. -/
theorem getElem?_matchedFronts {ends : List (List PatternItem)} (h : ∀ e ∈ ends, e <:+ p) {n : Nat} :
    (matchedFronts ends t)[n]? = some true ↔ n ≤ t.length ∧ ∃ e ∈ ends, FitsNow e (t.take n) := by
  induction t generalizing ends n with
  | nil =>
    rw [matchedFronts]
    cases n with
    | zero => simpa using any_isEmpty_iff
    | succ n => simp
  | cons c t ih =>
    rw [matchedFronts]
    split
    · rename_i hnone
      subst hnone
      cases n <;> simp
    · cases n with
      | zero => simpa using any_isEmpty_iff
      | succ n =>
        rw [List.getElem?_cons_succ, ih (suffix_of_mem_nextEnds h), List.take_succ_cons,
          exists_nextEnds h, List.length_cons, Nat.succ_le_succ_iff]

/-! ## The shortest front and the longest -/

/-- The front of a text of some length is matched. -/
def FrontFits (p : List PatternItem) (t : Text) (n : Nat) : Prop := n ≤ t.length ∧ Fits p (t.take n)

theorem getElem?_matchedFronts_idleEnds {n : Nat} :
    (matchedFronts (idleEnds p) t)[n]? = some true ↔ FrontFits p t n := by
  rw [getElem?_matchedFronts fun e => suffix_of_mem_idleEnds, ← fits_iff]
  rfl

/-- The first place at which a list of answers says yes. -/
theorem find?_zipIdx_eq_some_iff {answers : List Bool} {n : Nat} :
    (answers.zipIdx.find? (·.1)).map (·.2) = some n ↔
      answers[n]? = some true ∧ ∀ k, answers[k]? = some true → n ≤ k := by
  rw [Option.map_eq_some_iff]
  constructor
  · rintro ⟨⟨_, _⟩, hfound, rfl⟩
    obtain ⟨rfl, i, hi, hat, hbefore⟩ := List.find?_eq_some_iff_getElem.1 hfound
    simp only [List.getElem_zipIdx, Nat.zero_add, Prod.mk.injEq, List.length_zipIdx] at hat hi
    obtain ⟨hat, rfl⟩ := hat
    refine ⟨List.getElem?_eq_some_iff.2 ⟨hi, hat⟩, fun k hk => Nat.le_of_not_lt fun hlt => ?_⟩
    obtain ⟨_, hk⟩ := List.getElem?_eq_some_iff.1 hk
    simpa [hk] using hbefore k hlt
  · rintro ⟨htrue, hfirst⟩
    obtain ⟨hn, hat⟩ := List.getElem?_eq_some_iff.1 htrue
    refine ⟨(true, n), List.find?_eq_some_iff_getElem.2 ⟨rfl, n, ?_, ?_, fun j hj => ?_⟩, rfl⟩
    · rwa [List.length_zipIdx]
    · simp [hat]
    · have hfalse : answers[j] ≠ true := fun h =>
        Nat.not_le_of_lt hj (hfirst j (List.getElem?_eq_some_iff.2 ⟨Nat.lt_trans hj hn, h⟩))
      simpa using hfalse

/-- The last place at which a list of answers says yes. -/
theorem foldl_zipIdx_eq_some_iff {answers : List Bool} {n : Nat} :
    answers.zipIdx.foldl (fun found? (isMatched, n) => if isMatched then some n else found?) none =
        some n ↔
      answers[n]? = some true ∧ ∀ k, answers[k]? = some true → k ≤ n := by
  induction answers using List.reverseRecOn with
  | nil => simp
  | append_singleton answers last ih =>
    have hat (k : Nat) : (answers ++ [last])[k]? = some true ↔
        answers[k]? = some true ∨ k = answers.length ∧ last = true := by grind
    rw [List.zipIdx_append, List.foldl_append]
    simp only [hat]
    cases last with
    | true =>
      have hlt (k : Nat) (hk : answers[k]? = some true) : k < answers.length :=
        (List.getElem?_eq_some_iff.1 hk).1
      simp
      grind
    | false => simpa using ih

/-- The length that is found is that of the shortest front that is matched, or of the longest one. -/
theorem matchedLength?_eq_some_iff {isLongest : Bool} {n : Nat} :
    matchedLength? isLongest p t = some n ↔
      FrontFits p t n ∧ ∀ k, FrontFits p t k → if isLongest then k ≤ n else n ≤ k := by
  simp only [← getElem?_matchedFronts_idleEnds]
  cases isLongest with
  | true => exact foldl_zipIdx_eq_some_iff
  | false => exact find?_zipIdx_eq_some_iff

/-- No length is found only if no front is matched. -/
theorem matchedLength?_eq_none_iff {isLongest : Bool} :
    matchedLength? isLongest p t = none ↔ ∀ n, ¬ FrontFits p t n := by
  classical
  constructor
  · intro hnone n hn
    have hfound : ∃ n, FrontFits p t n ∧ ∀ k, FrontFits p t k → if isLongest then k ≤ n else n ≤ k := by
      cases isLongest with
      | true =>
        exact ⟨Nat.findGreatest (FrontFits p t) t.length, Nat.findGreatest_spec hn.1 hn,
          fun k hk => Nat.le_findGreatest hk.1 hk⟩
      | false => exact ⟨Nat.find ⟨n, hn⟩, Nat.find_spec ⟨n, hn⟩, fun k hk => Nat.find_min' ⟨n, hn⟩ hk⟩
    obtain ⟨m, hm⟩ := hfound
    rw [matchedLength?_eq_some_iff.2 hm] at hnone
    cases hnone
  · intro hnone
    rw [Option.eq_none_iff_forall_ne_some]
    exact fun n hn => hnone n (matchedLength?_eq_some_iff.1 hn).1

/-! ## What is left of a text -/

/-- Which of the parts that a pattern matches is taken: none is shorter than it, or none is longer. -/
def IsChosen (isLongest : Bool) (parts : Text → Prop) (part : Text) : Prop :=
  parts part ∧ ∀ other, parts other →
    if isLongest then other.length ≤ part.length else part.length ≤ other.length

/-- **The shortest, or longest, matched front is dropped, or nothing if there is none.** -/
theorem dropFront_eq (isLongest : Bool) (p : List PatternItem) (t : Text) :
    (∃ front, t = front ++ dropFront isLongest p t ∧
      IsChosen isLongest (fun part => part <+: t ∧ Fits p part) front) ∨
    (dropFront isLongest p t = t ∧ ∀ part, part <+: t → ¬ Fits p part) := by
  unfold dropFront
  cases h : matchedLength? isLongest p t with
  | none =>
    refine .inr ⟨rfl, fun part hpart hfits => ?_⟩
    refine matchedLength?_eq_none_iff.1 h part.length ⟨hpart.length_le, ?_⟩
    rwa [← List.prefix_iff_eq_take.1 hpart]
  | some n =>
    obtain ⟨⟨hn, hfits⟩, hchosen⟩ := matchedLength?_eq_some_iff.1 h
    refine .inl ⟨t.take n, (List.take_append_drop n t).symm, ⟨List.take_prefix n t, hfits⟩, ?_⟩
    rintro other ⟨hother, hfits'⟩
    have hlength := hchosen other.length ⟨hother.length_le, List.prefix_iff_eq_take.1 hother ▸ hfits'⟩
    rwa [List.length_take, Nat.min_eq_left hn]

/-- **The shortest, or longest, matched end is dropped, or nothing if there is none.** -/
theorem dropBack_eq (isLongest : Bool) (p : List PatternItem) (t : Text) :
    (∃ back, t = dropBack isLongest p t ++ back ∧
      IsChosen isLongest (fun part => part <:+ t ∧ Fits p part) back) ∨
    (dropBack isLongest p t = t ∧ ∀ part, part <:+ t → ¬ Fits p part) := by
  unfold dropBack
  rcases dropFront_eq isLongest p.reverse t.reverse with
    ⟨front, heq, ⟨hstart, hfits⟩, hchosen⟩ | ⟨heq, hnone⟩
  · refine .inl ⟨front.reverse, ?_, ⟨?_, ?_⟩, ?_⟩
    · rw [← List.reverse_append, ← heq, List.reverse_reverse]
    · simpa using List.reverse_suffix.2 hstart
    · exact fits_reverse_iff.1 (by rwa [List.reverse_reverse])
    · rintro other ⟨hother, hfits'⟩
      simpa using hchosen other.reverse ⟨List.reverse_prefix.2 hother, hfits'.reverse⟩
  · refine .inr ⟨by rw [heq, List.reverse_reverse], fun part hpart hfits => ?_⟩
    exact hnone part.reverse (List.reverse_prefix.2 hpart) hfits.reverse

end JavacLauncher.Shell
