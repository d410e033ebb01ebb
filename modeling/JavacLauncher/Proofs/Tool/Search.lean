import JavacLauncher.Proofs.Regex.Reading
import JavacLauncher.Tool.Search
import Mathlib.Data.List.Infix

/-!
# Which lines a search shows

A mere text that is looked for is an expression of literals in a row, which spans the places where they
stand (`spans_literals`); so a line fits it exactly if the text stands in the line (`fits_fixed`), and a
search for whole lines compares them (`fits_fixed_line`). Any other expression is one that is read, perhaps
between two edges (`isFor_of_matcher`).

The search goes from line to line. Whether it finds anything does not depend on what it shows: it does
exactly if a line is chosen (`count_run_pos`). If it shows plain lines, it shows those that are chosen, in
their order, and no more than it is asked for (`IsPlain.run`).
-/

namespace JavacLauncher

/-! ## Texts without operators -/

namespace Regex

variable {m : Matcher} {t : Array Char}

theorem spans_ofList_cons {r : Regex} {rs : List Regex} {i k : Nat} :
    (ofList (r :: rs)).Spans m t i k ↔ ∃ j, r.Spans m t i j ∧ (ofList rs).Spans m t j k := by
  induction rs generalizing r i with
  | nil =>
    constructor
    · exact fun h => ⟨k, h, rfl⟩
    · rintro ⟨j, h, rfl⟩
      exact h
  | cons r' rs ih =>
    -- expressions are put together from the left, so the first two become one
    have hfold : ofList (r :: r' :: rs) = ofList (.sequence r r' :: rs) := rfl
    rw [hfold, ih]
    constructor
    · rintro ⟨j, ⟨l, hr, hr'⟩, hrs⟩
      exact ⟨l, hr, ih.2 ⟨j, hr', hrs⟩⟩
    · rintro ⟨l, hr, hrest⟩
      obtain ⟨j, hr', hrs⟩ := ih.1 hrest
      exact ⟨j, ⟨l, hr, hr'⟩, hrs⟩

theorem spans_literal (hcase : m.ignoresCase = false) {c : Char} {i j : Nat} :
    (literal c).Spans m t i j ↔ t[i]? = some c ∧ j = i + 1 := by
  unfold Spans Matcher.takes
  simp [hcase]

theorem spans_lineStart (hlines : m.hasLines = false) {i j : Nat} :
    (edge .lineStart).Spans m t i j ↔ i = 0 ∧ j = i := by
  simp [Spans, Matcher.isEdge, hlines]

theorem spans_lineEnd (hlines : m.hasLines = false) {i j : Nat} :
    (edge .lineEnd).Spans m t i j ↔ i = t.size ∧ j = i := by
  simp [Spans, Matcher.isEdge, hlines]

theorem cons_prefix_drop {α : Type} {l w : List α} {c : α} {i : Nat} :
    c :: w <+: l.drop i ↔ l[i]? = some c ∧ w <+: l.drop (i + 1) := by
  rw [← List.head?_drop, ← List.tail_drop]
  cases l.drop i with
  | nil => simp
  | cons d l => simp [List.cons_prefix_cons, eq_comm]

/-- Characters in a row span the places where they stand. -/
theorem spans_literals (hcase : m.ignoresCase = false) {w : Text} {i j : Nat} :
    (ofList (w.map .literal)).Spans m t i j ↔ j = i + w.length ∧ w <+: t.toList.drop i := by
  induction w generalizing i with
  | nil => simp [ofList, Spans]
  | cons c w ih =>
    simp only [List.map_cons, spans_ofList_cons, spans_literal hcase, ih, cons_prefix_drop]
    constructor
    · rintro ⟨_, ⟨hc, rfl⟩, rfl, hw⟩
      exact ⟨by simp; omega, by simpa using hc, hw⟩
    · rintro ⟨rfl, hc, hw⟩
      exact ⟨i + 1, ⟨by simpa using hc, rfl⟩, by simp; omega, hw⟩

theorem looksBack_ofList (rs : List Regex) : (ofList rs).looksBack = rs.any looksBack := by
  have hfold (first : Regex) (rs : List Regex) :
      (rs.foldl Regex.sequence first).looksBack = (first.looksBack || rs.any looksBack) := by
    induction rs generalizing first with
    | nil => simp
    | cons r rs ih => rw [List.foldl_cons, ih, List.any_cons, looksBack, Bool.or_assoc]
  cases rs with
  | nil => rfl
  | cons r rs => exact hfold r rs

theorem looksBack_literals (w : Text) : (ofList (w.map .literal)).looksBack = false := by
  simp [looksBack_ofList, looksBack]

/-- A text fits if an expression that does not look back spans a part of it. -/
theorem fits_matcher_iff {r : Regex} (hlooks : r.looksBack = false) (groups : Nat) (ignoresCase : Bool)
    {t : Text} : (r.matcher groups ignoresCase).fits t = true ↔
      ∃ a b, a ≤ t.length ∧ r.Spans (r.matcher groups ignoresCase) t.toArray a b :=
  Matcher.fits_iff (Matcher.isFor_matcher r groups ignoresCase) hlooks

end Regex

namespace Tool.Search

open Regex

/-- **A mere text is looked for as it stands.** -/
theorem fits_fixed (w : Text) : ∃ m, matcher .fixed false false false w = .ok m ∧
    ∀ t, m.fits t = true ↔ w <:+: t := by
  refine ⟨(ofList (w.map .literal)).matcher 0 false, rfl, fun t => ?_⟩
  rw [fits_matcher_iff (looksBack_literals w)]
  constructor
  · rintro ⟨a, b, -, hspans⟩
    obtain ⟨-, hw⟩ := (spans_literals rfl).1 hspans
    exact hw.isInfix.trans (List.drop_suffix a t).isInfix
  · rintro ⟨before, behind, rfl⟩
    exact ⟨before.length, before.length + w.length, by simp, (spans_literals rfl).2 ⟨rfl, by simp⟩⟩

/-- An expression for whole lines is to span the line. -/
theorem fits_line_iff {r : Regex} (hlooks : r.looksBack = false) (groups : Nat) (ignoresCase : Bool) {t : Text} :
    ((ofList [.edge .lineStart, r, .edge .lineEnd]).matcher groups ignoresCase).fits t = true ↔
      r.Spans ((ofList [.edge .lineStart, r, .edge .lineEnd]).matcher groups ignoresCase) t.toArray
        0 t.length := by
  rw [fits_matcher_iff (by simp [looksBack_ofList, looksBack, hlooks])]
  simp only [spans_ofList_cons, spans_lineStart (rfl : (Regex.matcher _ _ _).hasLines = false),
    spans_lineEnd (rfl : (Regex.matcher _ _ _).hasLines = false)]
  constructor
  · rintro ⟨_, _, -, _, ⟨rfl, rfl⟩, _, hr, _, ⟨rfl, rfl⟩, -⟩
    exact hr
  · exact fun hr => ⟨0, t.length, Nat.zero_le _, 0, ⟨rfl, rfl⟩, t.length, hr, t.length, ⟨rfl, rfl⟩, rfl⟩

/-- **A whole line is compared with it.** -/
theorem fits_fixed_line (w : Text) : ∃ m, matcher .fixed false false true w = .ok m ∧
    ∀ t, m.fits t = true ↔ t = w := by
  refine ⟨_, rfl, fun t => (fits_line_iff (looksBack_literals w) 0 false).trans ?_⟩
  rw [spans_literals rfl]
  constructor
  · rintro ⟨hlength, hw⟩
    exact (hw.eq_of_length (by simpa using hlength.symm)).symm
  · rintro rfl
    simp

/-- **Any other expression is one that is read,** for a whole line or for words if that is asked for. -/
theorem isFor_of_matcher {kind : SearchKind} (hkind : kind ≠ .fixed) {ignoresCase isWord isLine : Bool}
    {w : Text} {m : Matcher} (h : matcher kind ignoresCase isWord isLine w = .ok m) :
    ∃ r groups, Regex.read (if kind = .extended then .extended else .basic) w = .ok (r, groups) ∧
      m.IsFor (if isLine then ofList [.edge .lineStart, r, .edge .lineEnd]
        else if isWord then ofList [.edge .noWordBefore, r, .edge .noWordBehind] else r) := by
  unfold matcher at h
  dsimp only at h
  rw [if_neg hkind] at h
  split at h
  · cases h
  · cases hread : Regex.read (if kind = .extended then .extended else .basic) w with
    | error e =>
      rw [hread] at h
      cases h
    | ok x =>
      obtain ⟨r, groups⟩ := x
      rw [hread] at h
      refine ⟨r, groups, rfl, ?_⟩
      dsimp only [pure, bind, Except.pure, Except.bind] at h
      cases hbounded : Regex.boundedMatcher (if isLine then ofList [.edge .lineStart, r, .edge .lineEnd]
        else if isWord then ofList [.edge .noWordBefore, r, .edge .noWordBehind] else r) groups ignoresCase with
      | error e =>
        rw [hbounded] at h
        cases h
      | ok m' =>
        rw [hbounded] at h
        obtain rfl := Except.ok.inj h
        obtain rfl := eq_matcher_of_boundedMatcher hbounded
        exact Matcher.isFor_matcher _ _ _

/-! ## The lines of a text -/

theorem map_text_numbered (ending : Char) (t : Text) :
    (numbered ending t).map Line.text = linesOf ending t := by
  have hfold (lines : List Text) (ls : List Line) (number offset : Nat) :
      ((lines.foldl (fun p l => (⟨l, p.2.1, p.2.2⟩ :: p.1, p.2.1 + 1, p.2.2 + l.length + 1))
        (ls, number, offset)).1.reverse).map Line.text = ls.reverse.map Line.text ++ lines := by
    induction lines generalizing ls number offset with
    | nil => simp
    | cons l lines ih =>
      rw [List.foldl_cons, ih]
      simp
  exact hfold (linesOf ending t) [] 1 0

/-! ## One line after another -/

variable (s : Search) (name : Text) (isBinary : Bool) {p : Progress}

/-- No more lines are chosen. -/
def isFull (p : Progress) : Bool := s.most?.any fun n => p.count ≥ n

/-- A line is counted if it is chosen, whatever is shown of it. -/
theorem count_step (h : p.isOver = false) (l : Line) : (s.step name isBinary p l).2.count =
    if !s.isFull p && s.chooses l.text then p.count + 1 else p.count := by
  unfold step isFull
  rw [if_neg (ne_true_of_eq_false h)]
  by_cases hchosen : (!(s.most?.any fun n => p.count ≥ n) && s.chooses l.text) = true
  · rw [if_pos hchosen, if_pos hchosen]
    dsimp only
    split <;> first | rfl | (split <;> rfl)
  · rw [if_neg hchosen, if_neg hchosen]
    split
    · rfl
    · split <;> rfl

/-- With a line that is not chosen the search ends only if it is full and owes no more lines. -/
theorem isOver_step (h : p.isOver = false) {l : Line} (hnot : (!s.isFull p && s.chooses l.text) = false) :
    (s.step name isBinary p l).2.isOver = (decide (p.pending = 0) && s.isFull p) := by
  unfold step
  unfold isFull at hnot ⊢
  rw [if_neg (ne_true_of_eq_false h), if_neg (ne_true_of_eq_false hnot)]
  dsimp only
  by_cases hpending : p.pending = 0
  · rw [if_neg (by omega), decide_eq_true hpending, Bool.true_and]
    split
    · rename_i hfull
      exact hfull.symm
    · rename_i hfull
      exact h.trans (eq_false_of_ne_true hfull).symm
  · rw [if_pos (by omega), decide_eq_false hpending]
    exact h

theorem le_count_run (h : p.isOver = false) (ls : List Line) (out : List Text) :
    p.count ≤ (s.run name isBinary ls p out).2.count := by
  induction ls generalizing p out with
  | nil => exact Nat.le_refl _
  | cons l ls ih =>
    have hle : p.count ≤ (s.step name isBinary p l).2.count := by
      rw [count_step s name isBinary h]
      split <;> omega
    rw [run]
    dsimp only
    split
    · exact hle
    · rename_i hover
      exact Nat.le_trans hle (ih (eq_false_of_ne_true hover) _)

/-- **A search finds something exactly if a line is chosen,** whatever it shows. -/
theorem count_run_pos (hmost : s.most? ≠ some 0) (h : p.isOver = false) (hcount : p.count = 0) (ls : List Line)
    (out : List Text) :
    0 < (s.run name isBinary ls p out).2.count ↔ ∃ l ∈ ls, s.chooses l.text = true := by
  have hfull {p : Progress} (hcount : p.count = 0) : s.isFull p = false := by
    rw [isFull, hcount]
    cases hm : s.most? with
    | none => rfl
    | some n =>
      have hne : n ≠ 0 := by
        rintro rfl
        exact hmost hm
      simp [hne]
  induction ls generalizing p out with
  | nil => simp [run, hcount]
  | cons l ls ih =>
    have hstep := count_step s name isBinary h l
    rw [hfull hcount, Bool.not_false, Bool.true_and] at hstep
    rw [run]
    dsimp only
    cases hchosen : s.chooses l.text with
    | true =>
      rw [if_pos hchosen, hcount] at hstep
      -- it has been counted, and counts do not fall
      refine iff_of_true ?_ ⟨l, List.mem_cons_self, hchosen⟩
      split
      · rw [hstep]
        exact Nat.one_pos
      · rename_i hover
        have hle := le_count_run s name isBinary (eq_false_of_ne_true hover) ls
          ((s.step name isBinary p l).1.reverse ++ out)
        omega
    | false =>
      have hover : (s.step name isBinary p l).2.isOver = false := by
        rw [isOver_step s name isBinary h (by simp [hchosen]), hfull hcount, Bool.and_false]
      rw [if_neg (ne_true_of_eq_false hchosen), hcount] at hstep
      rw [if_neg (ne_true_of_eq_false hover)]
      refine (ih hover hstep _).trans ?_
      simp [hchosen]

/-! ## Searches that show the lines they choose -/

variable {s}

/-- Lines are shown, without those around them. -/
structure IsPlain (s : Search) : Prop where
  view : s.view = .lines
  before : s.before = 0
  after : s.after = 0

/-- How a line that is chosen is shown. -/
def shown (s : Search) (name : Text) (l : Line) : Text :=
  s.front name l.number l.offset ':' ++ l.text ++ [s.ending]

/-- The first ones of a list, if there is a bound. -/
def upTo {α : Type} (most? : Option Nat) (xs : List α) : List α :=
  match most? with
  | none => xs
  | some n => xs.take n

theorem upTo_full {α : Type} (h : s.isFull p = true) (xs : List α) :
    upTo (s.most?.map (· - p.count)) xs = [] := by
  rw [isFull] at h
  cases hm : s.most? with
  | none => simp [hm] at h
  | some n =>
    have hle : n ≤ p.count := by simpa [hm] using h
    simp [upTo, Nat.sub_eq_zero_of_le hle]

theorem upTo_cons {α : Type} (h : (!s.isFull p) = true) (x : α) (xs : List α) :
    upTo (s.most?.map (· - p.count)) (x :: xs) = x :: upTo (s.most?.map (· - (p.count + 1))) xs := by
  rw [isFull] at h
  cases hm : s.most? with
  | none => rfl
  | some n =>
    have hlt : p.count < n := by simpa [hm] using h
    have hroom : n - p.count = n - (p.count + 1) + 1 := by omega
    simp [upTo, hroom]

theorem IsPlain.step_chosen (hs : s.IsPlain) (h : p.isOver = false) {l : Line}
    (hchosen : (!s.isFull p && s.chooses l.text) = true) :
    (s.step name false p l).1 = [s.shown name l] ∧ (s.step name false p l).2.isOver = false ∧
      (s.step name false p l).2.pending = 0 := by
  unfold step
  unfold isFull at hchosen
  rw [if_neg (ne_true_of_eq_false h), if_pos hchosen]
  obtain ⟨hview, hbefore, hafter⟩ := hs
  cases hseparator : s.separator? <;> simp [hview, hbefore, hafter, shown, h]

theorem step_other (h : p.isOver = false) (hpending : p.pending = 0) {l : Line}
    (hnot : (!s.isFull p && s.chooses l.text) = false) :
    (s.step name false p l).1 = [] ∧ (s.step name false p l).2.pending = 0 := by
  unfold step
  unfold isFull at hnot
  rw [if_neg (ne_true_of_eq_false h), if_neg (ne_true_of_eq_false hnot)]
  dsimp only
  rw [if_neg (by omega)]
  split <;> exact ⟨rfl, hpending⟩

/-- **The lines that are chosen are shown, in their order,** up to the most lines that are asked for. -/
theorem IsPlain.run (hs : s.IsPlain) (h : p.isOver = false) (hpending : p.pending = 0) (ls : List Line)
    (out : List Text) :
    (s.run name false ls p out).1 = out.reverse ++
      (upTo (s.most?.map (· - p.count)) (ls.filter fun l => s.chooses l.text)).map (s.shown name) := by
  induction ls generalizing p out with
  | nil =>
    rw [Search.run]
    cases s.most? <;> simp [upTo]
  | cons l ls ih =>
    have hcount := count_step s name false h l
    rw [Search.run]
    dsimp only
    cases hchosen : !s.isFull p && s.chooses l.text with
    | true =>
      obtain ⟨hout, hover, hpending'⟩ := hs.step_chosen name h hchosen
      rw [if_pos hchosen] at hcount
      rw [if_neg (ne_true_of_eq_false hover), ih hover hpending', hout, hcount, List.reverse_singleton]
      obtain ⟨hfull, hchosen⟩ := Bool.and_eq_true_iff.1 hchosen
      rw [List.filter_cons, if_pos hchosen, upTo_cons hfull]
      simp
    | false =>
      obtain ⟨hout, hpending'⟩ := step_other name h hpending hchosen
      have hover := isOver_step s name false h hchosen
      rw [decide_eq_true hpending, Bool.true_and] at hover
      rw [if_neg (ne_true_of_eq_false hchosen)] at hcount
      rw [hover, hout]
      cases hfull : s.isFull p with
      | true =>
        -- the search is over, and no room was left for the lines that follow
        simp [upTo_full hfull]
      | false =>
        have hnot : s.chooses l.text = false := by simpa [hfull] using hchosen
        rw [if_neg Bool.false_ne_true, ih (hover.trans hfull) hpending', hcount, List.filter_cons,
          if_neg (ne_true_of_eq_false hnot)]
        rfl

/-- **A search for a text** writes the lines in which the text stands, each with its line break. -/
theorem IsPlain.run_fixed (hs : s.IsPlain) {w : Text} {m : Matcher}
    (hm : matcher .fixed false false false w = .ok m) (hmatchers : s.matchers = [m])
    (hnegated : s.isNegated = false) (hmost : s.most? = none)
    (hfront : s.showsNames = false ∧ s.numbersLines = false ∧ s.showsOffsets = false)
    (h : p.isOver = false) (hpending : p.pending = 0) (t : Text) :
    (s.run name false (numbered s.ending t) p []).1 =
      ((linesOf s.ending t).filter fun l => decide (w <:+: l)).map (· ++ [s.ending]) := by
  obtain ⟨m', hm', hfits⟩ := fits_fixed w
  obtain rfl := Except.ok.inj (hm.symm.trans hm')
  have hchooses (l : Text) : s.chooses l = decide (w <:+: l) := by
    rw [chooses, hmatchers, hnegated, Bool.eq_iff_iff, decide_eq_true_iff, ← hfits l]
    simp
  have hshown : s.shown name = fun l => l.text ++ [s.ending] := by
    obtain ⟨hnames, hnumbers, hoffsets⟩ := hfront
    funext l
    simp [shown, front, hnames, hnumbers, hoffsets]
  rw [hs.run name h hpending, hmost, hshown, ← map_text_numbered, List.filter_map]
  simp [upTo, hchooses, Function.comp_def]

end Tool.Search

end JavacLauncher
