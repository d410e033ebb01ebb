import JavacLauncher.Regex.Match

/-!
# The steps of a regular expression

What an expression matches is said by its form, without any steps (`Spans`): a repetition matches so many
parts in a row, an alternative what one of its sides does. The matcher does not look at the expression but
at its steps, and goes from step to step and from character to character (`Move`).

Each part of an expression has its steps in one piece, and a way into such a piece at its first step can
leave it only behind its last one (`IsBlock`). On its way through the piece it has matched what the
part matches, and there is a way through for every part of a text that is matched. Blocks are put together
as expressions are (`IsBlock.sequence`, `IsBlock.either`, `IsBlock.star`, `IsBlock.choices`), so the
steps of a whole expression lead to the accepting step exactly over what the expression matches
(`reaches_accept_iff`).
-/

namespace JavacLauncher

namespace Regex

/-- So many parts one after another, in a row from one place to another. -/
def Times (R : Nat → Nat → Prop) : Nat → Nat → Nat → Prop
  | 0, i, j => j = i
  | n + 1, i, k => ∃ j, R i j ∧ Times R n j k

theorem times_succ {R : Nat → Nat → Prop} {n i k : Nat} :
    Times R (n + 1) i k ↔ ∃ j, Times R n i j ∧ R j k := by
  induction n generalizing i with
  | zero => simp [Times]
  | succ n ih =>
    constructor
    · rintro ⟨j, hr, hrest⟩
      obtain ⟨l, hn, hr'⟩ := ih.1 hrest
      exact ⟨l, ⟨j, hr, hn⟩, hr'⟩
    · rintro ⟨l, ⟨j, hr, hn⟩, hr'⟩
      exact ⟨j, hr, ih.2 ⟨l, hn, hr'⟩⟩

theorem times_add {R : Nat → Nat → Prop} {n n' i k : Nat} :
    Times R (n + n') i k ↔ ∃ j, Times R n i j ∧ Times R n' j k := by
  induction n' generalizing k with
  | zero => simp [Times]
  | succ n' ih =>
    rw [← Nat.add_assoc, times_succ]
    simp only [ih, times_succ]
    constructor
    · rintro ⟨j, ⟨l, hn, hn'⟩, hr⟩
      exact ⟨l, hn, j, hn', hr⟩
    · rintro ⟨l, hn, j, hn', hr⟩
      exact ⟨j, ⟨l, hn, hn'⟩, hr⟩

/-- What an expression matches in a text, from one place to another. Upper and lower case, and what
counts as the edge of a line, are as the matcher has it. What a group has matched is not asked for. -/
def Spans (m : Matcher) (t : Array Char) : Regex → Nat → Nat → Prop
  | .empty, i, j => j = i
  | .literal c, i, j => ∃ d, t[i]? = some d ∧ m.takes (.literal c) d = true ∧ j = i + 1
  | .any, i, j => ∃ d, t[i]? = some d ∧ j = i + 1
  | .set isNegated members, i, j =>
    ∃ d, t[i]? = some d ∧ m.takes (.oneOf isNegated members) d = true ∧ j = i + 1
  | .edge e, i, j => m.isEdge t i e = true ∧ j = i
  | .sequence a b, i, k => ∃ j, Spans m t a i j ∧ Spans m t b j k
  | .either a b, i, j => Spans m t a i j ∨ Spans m t b i j
  | .repeated a least none, i, j => ∃ n, least ≤ n ∧ Times (Spans m t a) n i j
  | .repeated a least (some most), i, j =>
    ∃ n, least ≤ n ∧ n ≤ max least most ∧ Times (Spans m t a) n i j
  | .group _ a, i, j => Spans m t a i j
  | .again _, _, _ => False

end Regex

namespace Matcher

open Regex

/-- One step to another without a character, at a place of the text. -/
inductive Silent (m : Matcher) (t : Array Char) (i : Nat) : Nat → Nat → Prop where
  | jump {p q : Nat} (step : m.steps[p]? = some (.jump q)) : Silent m t i p q
  | first {p q r : Nat} (step : m.steps[p]? = some (.fork q r)) : Silent m t i p q
  | second {p q r : Nat} (step : m.steps[p]? = some (.fork q r)) : Silent m t i p r
  | note {p slot : Nat} (step : m.steps[p]? = some (.note slot)) : Silent m t i p (p + 1)
  | edge {p : Nat} {e : Edge} (step : m.steps[p]? = some (.edge e)) (here : m.isEdge t i e = true) :
      Silent m t i p (p + 1)

/-- One step to another: where a way stands among the steps, and where in the text. -/
inductive Move (m : Matcher) (t : Array Char) : Nat × Nat → Nat × Nat → Prop where
  | silent {i p q : Nat} (h : Silent m t i p q) : Move m t (p, i) (q, i)
  | take {i p : Nat} {s : MatchStep} {c : Char} (step : m.steps[p]? = some s) (char : t[i]? = some c)
      (takes : m.takes s c = true) : Move m t (p, i) (p + 1, i + 1)

/-- So many moves. -/
inductive Moves (m : Matcher) (t : Array Char) : Nat → Nat × Nat → Nat × Nat → Prop where
  | none {a : Nat × Nat} : Moves m t 0 a a
  | more {n : Nat} {a b c : Nat × Nat} (first : Move m t a b) (rest : Moves m t n b c) : Moves m t (n + 1) a c

variable {m : Matcher} {t : Array Char}

theorem Moves.trans {n n' : Nat} {a b c : Nat × Nat} (h : Moves m t n a b) (h' : Moves m t n' b c) :
    Moves m t (n + n') a c := by
  induction h with
  | none => rwa [Nat.zero_add]
  | more first rest ih =>
    rw [Nat.succ_add]
    exact .more first (ih h')

/-- A way that goes on has a first move. -/
theorem Moves.cases_ne {n : Nat} {a b : Nat × Nat} (h : Moves m t n a b) (hne : a.1 ≠ b.1) :
    ∃ n' c, n = n' + 1 ∧ Move m t a c ∧ Moves m t n' c b := by
  cases h with
  | none => exact absurd rfl hne
  | more first rest => exact ⟨_, _, rfl, first, rest⟩

/-- Where the step of a number leads. -/
theorem move_iff {p i : Nat} {s : MatchStep} {b : Nat × Nat} (h : m.steps[p]? = some s) :
    Move m t (p, i) b ↔
      match s with
      | .jump q => b = (q, i)
      | .fork q r => b = (q, i) ∨ b = (r, i)
      | .note _ => b = (p + 1, i)
      | .edge e => m.isEdge t i e = true ∧ b = (p + 1, i)
      | s => ∃ c, t[i]? = some c ∧ m.takes s c = true ∧ b = (p + 1, i + 1) := by
  constructor
  · rintro (⟨⟨step⟩ | ⟨step⟩ | ⟨step⟩ | ⟨step⟩ | ⟨step, here⟩⟩ | ⟨step, char, takes⟩)
    all_goals obtain rfl := Option.some.inj (h.symm.trans step)
    · rfl
    · exact .inl rfl
    · exact .inr rfl
    · rfl
    · exact ⟨here, rfl⟩
    · cases s with
      | literal _ | any | oneOf _ _ => exact ⟨_, char, takes, rfl⟩
      | edge _ | jump _ | fork _ _ | note _ | again _ | accept => cases takes
  · intro hb
    cases s with
    | jump q => exact hb ▸ .silent (.jump h)
    | fork q r => exact hb.elim (fun hb => hb ▸ .silent (.first h)) fun hb => hb ▸ .silent (.second h)
    | note slot => exact hb ▸ .silent (.note h)
    | edge e => exact hb.2 ▸ .silent (.edge h hb.1)
    | literal _ | any | oneOf _ _ | again _ | accept =>
      obtain ⟨c, char, takes, rfl⟩ := hb
      exact .take h char takes

/-! ## Blocks -/

/-- The steps from `first` up to `last` are a block for a relation between places: whatever is related
can be gone through, and a way out of the block leads over what is related and leaves it at `last`. -/
structure IsBlock (m : Matcher) (t : Array Char) (first last : Nat) (R : Nat → Nat → Prop) : Prop where
  le : first ≤ last
  through : ∀ {i j}, R i j → ∃ n, Moves m t n (first, i) (last, j)
  out : ∀ {n i x k}, x < first ∨ last ≤ x → Moves m t n (first, i) (x, k) →
    ∃ j n', n' ≤ n ∧ R i j ∧ Moves m t n' (last, j) (x, k)

namespace IsBlock

variable {first mid last : Nat} {R S : Nat → Nat → Prop}

theorem congr (h : IsBlock m t first last R) (heq : ∀ i j, R i j ↔ S i j) : IsBlock m t first last S where
  le := h.le
  through hs := h.through ((heq _ _).2 hs)
  out hx hmoves := by
    obtain ⟨j, n', hn', hr, hrest⟩ := h.out hx hmoves
    exact ⟨j, n', hn', (heq _ _).1 hr, hrest⟩

/-- No steps match nothing. -/
protected theorem empty (m : Matcher) (t : Array Char) (first : Nat) :
    IsBlock m t first first fun i j => j = i where
  le := Nat.le_refl _
  through := by
    rintro i _ rfl
    exact ⟨0, .none⟩
  out _ hmoves := ⟨_, _, Nat.le_refl _, rfl, hmoves⟩

/-- A single step, all of whose moves are known. -/
theorem single (hthrough : ∀ {i j}, R i j → Move m t (first, i) (first + 1, j))
    (hout : ∀ {i b}, Move m t (first, i) b → b.1 = first + 1 ∧ R i b.2) :
    IsBlock m t first (first + 1) R where
  le := Nat.le_succ _
  through hr := ⟨1, .more (hthrough hr) .none⟩
  out hx hmoves := by
    obtain ⟨n', ⟨q, j⟩, rfl, hmove, hrest⟩ := hmoves.cases_ne (by simp; omega)
    obtain ⟨rfl, hr⟩ := hout hmove
    exact ⟨j, n', Nat.le_succ _, hr, hrest⟩

/-- A step that notes a place matches nothing. -/
theorem note {slot : Nat} (h : m.steps[first]? = some (.note slot)) :
    IsBlock m t first (first + 1) fun i j => j = i :=
  .single (fun hr => hr ▸ (move_iff h).2 rfl) fun hmove => by
    obtain rfl := (move_iff h).1 hmove
    exact ⟨rfl, rfl⟩

/-- One block behind another. -/
theorem sequence (h : IsBlock m t first mid R) (h' : IsBlock m t mid last S) :
    IsBlock m t first last fun i k => ∃ j, R i j ∧ S j k where
  le := Nat.le_trans h.le h'.le
  through := by
    rintro i k ⟨j, hr, hs⟩
    obtain ⟨n, hn⟩ := h.through hr
    obtain ⟨n', hn'⟩ := h'.through hs
    exact ⟨n + n', hn.trans hn'⟩
  out hx hmoves := by
    have := h.le
    have := h'.le
    obtain ⟨j, n', hn', hr, hmoves'⟩ := h.out (by omega) hmoves
    obtain ⟨k, n'', hn'', hs, hrest⟩ := h'.out (by omega) hmoves'
    exact ⟨k, n'', by omega, ⟨j, hr, hs⟩, hrest⟩

/-- A block that may be passed over, and another one behind it. -/
theorem optional (hfork : m.steps[first]? = some (.fork (first + 1) last))
    (h : IsBlock m t (first + 1) mid R) (h' : IsBlock m t mid last S) :
    IsBlock m t first last fun i k => k = i ∨ ∃ j, R i j ∧ S j k where
  le := by
    have := h.le
    have := h'.le
    omega
  through := by
    rintro i k (rfl | hrs)
    · exact ⟨1, .more ((move_iff hfork).2 (.inr rfl)) .none⟩
    · obtain ⟨n, hn⟩ := (h.sequence h').through hrs
      exact ⟨n + 1, .more ((move_iff hfork).2 (.inl rfl)) hn⟩
  out {n i x k} hx hmoves := by
    have := h.le
    have := h'.le
    obtain ⟨n', b, rfl, hmove, hrest⟩ := hmoves.cases_ne (by simp; omega)
    rcases (move_iff hfork).1 hmove with rfl | rfl
    · obtain ⟨j, n'', hn'', hrs, hrest⟩ := (h.sequence h').out (by omega) hrest
      exact ⟨j, n'', by omega, .inr hrs, hrest⟩
    · exact ⟨i, n', Nat.le_succ _, .inl rfl, hrest⟩

/-- Two blocks of which one is gone through. -/
theorem either (hfork : m.steps[first]? = some (.fork (first + 1) (mid + 1)))
    (h : IsBlock m t (first + 1) mid R) (hjump : m.steps[mid]? = some (.jump last))
    (h' : IsBlock m t (mid + 1) last S) : IsBlock m t first last fun i j => R i j ∨ S i j where
  le := by
    have := h.le
    have := h'.le
    omega
  through := by
    rintro i j (hr | hs)
    · obtain ⟨n, hn⟩ := h.through hr
      exact ⟨_, .more ((move_iff hfork).2 (.inl rfl)) (hn.trans (.more ((move_iff hjump).2 rfl) .none))⟩
    · obtain ⟨n, hn⟩ := h'.through hs
      exact ⟨_, .more ((move_iff hfork).2 (.inr rfl)) hn⟩
  out {n i x k} hx hmoves := by
    have := h.le
    have := h'.le
    obtain ⟨n', b, rfl, hmove, hrest⟩ := hmoves.cases_ne (by simp; omega)
    rcases (move_iff hfork).1 hmove with rfl | rfl
    · -- behind the first block only the jump leads on
      obtain ⟨j, n'', hn'', hr, hrest⟩ := h.out (by omega) hrest
      obtain ⟨n₃, c, rfl, hmove, hrest⟩ := hrest.cases_ne (by simp; omega)
      obtain rfl := (move_iff hjump).1 hmove
      exact ⟨j, n₃, by omega, .inl hr, hrest⟩
    · obtain ⟨j, n'', hn'', hs, hrest⟩ := h'.out (by omega) hrest
      exact ⟨j, n'', by omega, .inr hs, hrest⟩

/-- A block that is gone through any number of times. -/
theorem star (hfork : m.steps[first]? = some (.fork (first + 1) (mid + 1)))
    (h : IsBlock m t (first + 1) mid R) (hjump : m.steps[mid]? = some (.jump first)) :
    IsBlock m t first (mid + 1) fun i j => ∃ n, Times R n i j where
  le := by
    have := h.le
    omega
  through := by
    rintro i j ⟨n, hn⟩
    induction n generalizing i with
    | zero => exact hn ▸ ⟨1, .more ((move_iff hfork).2 (.inr rfl)) .none⟩
    | succ n ih =>
      obtain ⟨k, hr, hn⟩ := hn
      obtain ⟨n₁, hin⟩ := h.through hr
      obtain ⟨n₂, hrest⟩ := ih hn
      exact ⟨_, .more ((move_iff hfork).2 (.inl rfl)) (hin.trans (.more ((move_iff hjump).2 rfl) hrest))⟩
  out {n i x k} hx hmoves := by
    have hle := h.le
    -- each time around takes moves, so the number of moves bounds the number of times
    induction n using Nat.strongRecOn generalizing i with
    | ind n ih =>
      obtain ⟨n', b, rfl, hmove, hrest⟩ := hmoves.cases_ne (by simp; omega)
      rcases (move_iff hfork).1 hmove with rfl | rfl
      · obtain ⟨j, n₁, hn₁, hr, hrest⟩ := h.out (by omega) hrest
        obtain ⟨n₂, c, rfl, hmove, hrest⟩ := hrest.cases_ne (by simp; omega)
        obtain rfl := (move_iff hjump).1 hmove
        obtain ⟨l, n₃, hn₃, ⟨times, htimes⟩, hrest⟩ := ih n₂ (by omega) hrest
        exact ⟨l, n₃, by omega, ⟨times + 1, j, hr, htimes⟩, hrest⟩
      · exact ⟨i, n', Nat.le_succ _, ⟨0, rfl⟩, hrest⟩

/-- Blocks of one length in a row. -/
theorem times {n width : Nat}
    (h : ∀ k < n, IsBlock m t (first + k * width) (first + k * width + width) R) :
    IsBlock m t first (first + n * width) (Times R n) := by
  induction n with
  | zero =>
    rw [Nat.zero_mul]
    exact .empty m t first
  | succ n ih =>
    have hlast := h n (Nat.lt_succ_self n)
    rw [Nat.succ_mul, ← Nat.add_assoc]
    exact ((ih fun k hk => h k (Nat.lt_succ_of_lt hk)).sequence hlast).congr fun i k => times_succ.symm

/-- Blocks of one length in a row, from each of which one may go to the end. -/
theorem choices {n width : Nat} (hlast : last = first + n * (width + 1))
    (hfork : ∀ k < n, m.steps[first + k * (width + 1)]? =
      some (.fork (first + k * (width + 1) + 1) last))
    (h : ∀ k < n, IsBlock m t (first + k * (width + 1) + 1) (first + k * (width + 1) + 1 + width) R) :
    IsBlock m t first last fun i j => ∃ k ≤ n, Times R k i j := by
  induction n generalizing first with
  | zero =>
    rw [Nat.zero_mul, Nat.add_zero] at hlast
    subst hlast
    exact (IsBlock.empty m t _).congr fun i j => by simp [Times]
  | succ n ih =>
    have hplace (k : Nat) : first + (k + 1) * (width + 1) = first + (width + 1) + k * (width + 1) := by
      rw [Nat.succ_mul]
      omega
    have hrest := ih (hlast.trans (hplace n))
      (fun k hk => hplace k ▸ hfork (k + 1) (Nat.succ_lt_succ hk))
      (fun k hk => hplace k ▸ h (k + 1) (Nat.succ_lt_succ hk))
    have hfirst := hfork 0 (Nat.succ_pos n)
    have hblock := h 0 (Nat.succ_pos n)
    rw [Nat.zero_mul, Nat.add_zero] at hfirst hblock
    rw [Nat.add_assoc, Nat.add_comm 1] at hblock
    refine (optional hfirst hblock hrest).congr fun i k => ?_
    constructor
    · rintro (rfl | ⟨j, hr, n', hn', htimes⟩)
      · exact ⟨0, Nat.zero_le _, rfl⟩
      · exact ⟨n' + 1, Nat.succ_le_succ hn', j, hr, htimes⟩
    · rintro ⟨_ | n', hn', htimes⟩
      · exact .inl htimes
      · obtain ⟨j, hr, htimes⟩ := htimes
        exact .inr ⟨j, hr, n', Nat.le_of_succ_le_succ hn', htimes⟩

end IsBlock

/-! ## The blocks of an expression -/

theorem length_flatMap_range {α : Type} {f : Nat → List α} {width : Nat} (h : ∀ k, (f k).length = width)
    (n : Nat) : ((List.range n).flatMap f).length = n * width := by
  induction n with
  | zero => rw [Nat.zero_mul]; rfl
  | succ n ih =>
    rw [List.range_succ, List.flatMap_append, List.length_append, ih, List.flatMap_singleton, h,
      Nat.succ_mul]

/-- The steps of a list stand among the steps of the matcher from a number on. -/
def HasSteps (m : Matcher) (first : Nat) (steps : List MatchStep) : Prop :=
  ∀ n < steps.length, m.steps[first + n]? = steps[n]?

namespace HasSteps

variable {first : Nat} {s : MatchStep} {steps others : List MatchStep}

theorem append_iff : HasSteps m first (steps ++ others) ↔
    HasSteps m first steps ∧ HasSteps m (first + steps.length) others := by
  constructor
  · intro h
    refine ⟨fun n hn => ?_, fun n hn => ?_⟩
    · rw [h n (by rw [List.length_append]; omega), List.getElem?_append_left hn]
    · rw [Nat.add_assoc, h (steps.length + n) (by rw [List.length_append]; omega),
        List.getElem?_append_right (Nat.le_add_right _ _), Nat.add_sub_cancel_left]
  · rintro ⟨h, h'⟩ n hn
    by_cases hlt : n < steps.length
    · rw [h n hlt, List.getElem?_append_left hlt]
    · obtain ⟨k, rfl⟩ := Nat.exists_eq_add_of_le (Nat.le_of_not_lt hlt)
      rw [List.length_append] at hn
      rw [← Nat.add_assoc, h' k (by omega), List.getElem?_append_right (Nat.le_add_right _ _),
        Nat.add_sub_cancel_left]

theorem singleton_iff : HasSteps m first [s] ↔ m.steps[first]? = some s := by
  constructor
  · exact fun h => h 0 Nat.zero_lt_one
  · intro h n hn
    obtain rfl := Nat.lt_one_iff.1 hn
    exact h

theorem cons_iff :
    HasSteps m first (s :: steps) ↔ m.steps[first]? = some s ∧ HasSteps m (first + 1) steps := by
  rw [← List.singleton_append, append_iff, singleton_iff]
  rfl

theorem flatMap_range {n width : Nat} {f : Nat → List MatchStep} (hwidth : ∀ k, (f k).length = width)
    (h : HasSteps m first ((List.range n).flatMap f)) : ∀ k < n, HasSteps m (first + k * width) (f k) := by
  induction n with
  | zero => exact fun k hk => absurd hk (Nat.not_lt_zero k)
  | succ n ih =>
    intro k hk
    rw [List.range_succ, List.flatMap_append, append_iff, length_flatMap_range hwidth,
      List.flatMap_singleton] at h
    rcases Nat.lt_succ_iff_lt_or_eq.1 hk with hk | rfl
    · exact ih h.1 k hk
    · exact h.2

end HasSteps

theorem length_stepsFrom (r : Regex) (first : Nat) : (r.stepsFrom first).length = r.stepCount := by
  induction r generalizing first with
  | empty | literal _ | any | set _ _ | edge _ | again _ => rfl
  | sequence a b iha ihb => rw [stepsFrom, List.length_append, iha, ihb, stepCount]
  | either a b iha ihb =>
    simp [stepsFrom, stepCount, iha, ihb]
    omega
  | group _ a ih => simp [stepsFrom, stepCount, ih]
  | repeated a least most? ih =>
    have hcopies := length_flatMap_range (fun k => ih (first + k * a.stepCount)) least
    cases most? with
    | none => simp [stepsFrom, stepCount, ih, hcopies]
    | some most =>
      rw [stepsFrom, List.length_append, hcopies, stepCount]
      exact congrArg (_ + ·) (length_flatMap_range (fun k => by rw [List.length_cons, ih]) _)

section

variable {a : Regex} {first least : Nat}

/-- Copies of the steps of an expression in a row. -/
theorem isBlock_copies
    (ih : ∀ first, HasSteps m first (a.stepsFrom first) → IsBlock m t first (first + a.stepCount) (a.Spans m t))
    (h : HasSteps m first ((List.range least).flatMap fun k => a.stepsFrom (first + k * a.stepCount))) :
    IsBlock m t first (first + least * a.stepCount) (Times (a.Spans m t) least) :=
  .times fun k hk => ih _ (HasSteps.flatMap_range (fun _ => length_stepsFrom a _) h k hk)

theorem isBlock_repeated_none
    (ih : ∀ first, HasSteps m first (a.stepsFrom first) → IsBlock m t first (first + a.stepCount) (a.Spans m t))
    (h : HasSteps m first ((Regex.repeated a least none).stepsFrom first)) :
    IsBlock m t first (first + (Regex.repeated a least none).stepCount)
      ((Regex.repeated a least none).Spans m t) := by
  rw [stepsFrom] at h
  obtain ⟨hcopies, hback⟩ := HasSteps.append_iff.1 h
  rw [length_flatMap_range fun _ => length_stepsFrom a _] at hback
  have hcopies := isBlock_copies ih hcopies
  obtain ⟨start, hstart⟩ : ∃ start, start = first + least * a.stepCount := ⟨_, rfl⟩
  have hmid : start + (a.stepCount + 1) = start + 1 + a.stepCount := by omega
  have hend : start + a.stepCount + 2 = start + 1 + a.stepCount + 1 := by omega
  have hlast : first + (least * a.stepCount + (a.stepCount + 2)) = start + 1 + a.stepCount + 1 := by omega
  rw [← hstart] at hback hcopies
  rw [hend] at hback
  obtain ⟨hbody, hjump⟩ := HasSteps.append_iff.1 hback
  obtain ⟨hfork, ha⟩ := HasSteps.cons_iff.1 hbody
  rw [List.length_cons, length_stepsFrom, hmid, HasSteps.singleton_iff] at hjump
  rw [stepCount, hlast]
  refine (hcopies.sequence (.star hfork (ih _ ha) hjump)).congr fun i k => ?_
  constructor
  · rintro ⟨j, hj, n, hn⟩
    exact ⟨least + n, Nat.le_add_right _ _, times_add.2 ⟨j, hj, hn⟩⟩
  · rintro ⟨n, hn, htimes⟩
    obtain ⟨n', rfl⟩ := Nat.exists_eq_add_of_le hn
    obtain ⟨j, hj, hn'⟩ := times_add.1 htimes
    exact ⟨j, hj, n', hn'⟩

theorem isBlock_repeated_some {most : Nat}
    (ih : ∀ first, HasSteps m first (a.stepsFrom first) → IsBlock m t first (first + a.stepCount) (a.Spans m t))
    (h : HasSteps m first ((Regex.repeated a least (some most)).stepsFrom first)) :
    IsBlock m t first (first + (Regex.repeated a least (some most)).stepCount)
      ((Regex.repeated a least (some most)).Spans m t) := by
  rw [stepsFrom] at h
  obtain ⟨hcopies, hback⟩ := HasSteps.append_iff.1 h
  rw [length_flatMap_range fun _ => length_stepsFrom a _] at hback
  have hcopies := isBlock_copies ih hcopies
  obtain ⟨start, hstart⟩ : ∃ start, start = first + least * a.stepCount := ⟨_, rfl⟩
  have hlast : first + (least * a.stepCount + (most - least) * (a.stepCount + 1)) =
      start + (most - least) * (a.stepCount + 1) := by omega
  rw [← hstart] at hback hcopies
  rw [stepCount, hlast]
  have hforks := HasSteps.flatMap_range (fun _ => by rw [List.length_cons, length_stepsFrom]) hback
  have hchoices := IsBlock.choices rfl (fun k hk => (HasSteps.cons_iff.1 (hforks k hk)).1)
    fun k hk => ih _ (HasSteps.cons_iff.1 (hforks k hk)).2
  refine (hcopies.sequence hchoices).congr fun i k => ?_
  constructor
  · rintro ⟨j, hj, n, hle, hn⟩
    exact ⟨least + n, Nat.le_add_right _ _, by omega, times_add.2 ⟨j, hj, hn⟩⟩
  · rintro ⟨n, hn, hle, htimes⟩
    obtain ⟨n', rfl⟩ := Nat.exists_eq_add_of_le hn
    obtain ⟨j, hj, hn'⟩ := times_add.1 htimes
    exact ⟨j, hj, n', by omega, hn'⟩

end

/-- The steps of an expression are a block for what it matches. -/
theorem isBlock_stepsFrom {r : Regex} {first : Nat} (h : HasSteps m first (r.stepsFrom first)) :
    IsBlock m t first (first + r.stepCount) (r.Spans m t) := by
  induction r generalizing first with
  | empty => exact .empty m t first
  | literal c =>
    have step := HasSteps.singleton_iff.1 h
    refine .single (fun hspans => (move_iff step).2 ?_) fun hmove => ?_
    · obtain ⟨d, char, takes, rfl⟩ := hspans
      exact ⟨d, char, takes, rfl⟩
    · obtain ⟨d, char, takes, rfl⟩ := (move_iff step).1 hmove
      exact ⟨rfl, d, char, takes, rfl⟩
  | any =>
    have step := HasSteps.singleton_iff.1 h
    refine .single (fun hspans => (move_iff step).2 ?_) fun hmove => ?_
    · obtain ⟨d, char, rfl⟩ := hspans
      exact ⟨d, char, rfl, rfl⟩
    · obtain ⟨d, char, -, rfl⟩ := (move_iff step).1 hmove
      exact ⟨rfl, d, char, rfl⟩
  | set isNegated members =>
    have step := HasSteps.singleton_iff.1 h
    refine .single (fun hspans => (move_iff step).2 ?_) fun hmove => ?_
    · obtain ⟨d, char, takes, rfl⟩ := hspans
      exact ⟨d, char, takes, rfl⟩
    · obtain ⟨d, char, takes, rfl⟩ := (move_iff step).1 hmove
      exact ⟨rfl, d, char, takes, rfl⟩
  | edge e =>
    have step := HasSteps.singleton_iff.1 h
    refine .single (fun hspans => (move_iff step).2 ?_) fun hmove => ?_
    · obtain ⟨here, rfl⟩ := hspans
      exact ⟨here, rfl⟩
    · obtain ⟨here, rfl⟩ := (move_iff step).1 hmove
      exact ⟨rfl, here, rfl⟩
  | again n =>
    -- no move leads away from the step, so there is no way out of the block
    have step := HasSteps.singleton_iff.1 h
    refine .single (fun hspans => hspans.elim) fun hmove => ?_
    obtain ⟨_, _, takes, _⟩ := (move_iff step).1 hmove
    cases takes
  | sequence a b iha ihb =>
    obtain ⟨ha, hb⟩ := HasSteps.append_iff.1 h
    rw [length_stepsFrom] at hb
    rw [stepCount, ← Nat.add_assoc]
    exact (iha ha).sequence (ihb hb)
  | either a b iha ihb =>
    have hsecond : first + a.stepCount + 2 = first + 1 + a.stepCount + 1 := by omega
    have hmid : first + (a.stepCount + 1) = first + 1 + a.stepCount := by omega
    have hlast : first + (a.stepCount + b.stepCount + 2) = first + 1 + a.stepCount + 1 + b.stepCount := by omega
    rw [stepsFrom, hsecond] at h
    obtain ⟨hfront, hback⟩ := HasSteps.append_iff.1 h
    obtain ⟨hfork, ha⟩ := HasSteps.cons_iff.1 hfront
    rw [List.length_cons, length_stepsFrom, hmid] at hback
    obtain ⟨hjump, hb⟩ := HasSteps.cons_iff.1 hback
    rw [stepCount, hlast]
    exact .either hfork (iha ha) hjump (ihb hb)
  | group n a ih =>
    have hmid : first + (a.stepCount + 1) = first + 1 + a.stepCount := by omega
    obtain ⟨hfront, hback⟩ := HasSteps.append_iff.1 h
    obtain ⟨hopen, ha⟩ := HasSteps.cons_iff.1 hfront
    rw [List.length_cons, length_stepsFrom, hmid] at hback
    have hclose := HasSteps.singleton_iff.1 hback
    have hlast : first + (a.stepCount + 2) = first + 1 + a.stepCount + 1 := by omega
    rw [stepCount, hlast]
    exact (((IsBlock.note hopen).sequence (ih ha)).sequence (.note hclose)).congr fun i j => by simp [Spans]
  | repeated a least most? ih =>
    cases most? with
    | none => exact isBlock_repeated_none (fun _ => ih) h
    | some most => exact isBlock_repeated_some (fun _ => ih) h

/-! ## The steps of a matcher -/

/-- The steps of a matcher are those of an expression, with the accepting one behind them. -/
def IsFor (m : Matcher) (r : Regex) : Prop := m.steps = (r.stepsFrom 0 ++ [MatchStep.accept]).toArray

variable {r : Regex}

theorem isFor_matcher (r : Regex) (groups : Nat) (ignoresCase : Bool) :
    (r.matcher groups ignoresCase).IsFor r := rfl

theorem accept_notMem_stepsFrom (r : Regex) (first : Nat) : MatchStep.accept ∉ r.stepsFrom first := by
  induction r generalizing first with
  | empty | literal _ | any | set _ _ | edge _ | again _ => simp [stepsFrom]
  | sequence a b iha ihb => simp [stepsFrom, iha, ihb]
  | either a b iha ihb => simp [stepsFrom, iha, ihb]
  | group _ a ih => simp [stepsFrom, ih]
  | repeated a least most? ih => cases most? <;> simp [stepsFrom, ih]

theorem IsFor.hasSteps (h : m.IsFor r) : HasSteps m 0 (r.stepsFrom 0 ++ [MatchStep.accept]) := by
  intro n _
  rw [h, Nat.zero_add, List.getElem?_toArray]

/-- The only accepting step is the last one. -/
theorem IsFor.accept_iff (h : m.IsFor r) {p : Nat} : m.steps[p]? = some .accept ↔ p = r.stepCount := by
  rw [h, List.getElem?_toArray, ← length_stepsFrom r 0]
  constructor
  · intro hp
    rcases Nat.lt_trichotomy p (r.stepsFrom 0).length with hlt | heq | hgt
    · rw [List.getElem?_append_left hlt] at hp
      exact absurd (List.mem_of_getElem? hp) (accept_notMem_stepsFrom r 0)
    · exact heq
    · rw [List.getElem?_append_right (Nat.le_of_lt hgt)] at hp
      have hlt := (List.getElem?_eq_some_iff.1 hp).1
      rw [List.length_singleton] at hlt
      omega
  · rintro rfl
    simp

/-- **The accepting step is reached over what the expression matches.** -/
theorem reaches_accept_iff (h : m.IsFor r) {i j : Nat} :
    (∃ n, Moves m t n (0, i) (r.stepCount, j)) ↔ r.Spans m t i j := by
  obtain ⟨hsteps, haccept⟩ := HasSteps.append_iff.1 h.hasSteps
  rw [length_stepsFrom, Nat.zero_add, HasSteps.singleton_iff] at haccept
  have hblock : IsBlock m t 0 r.stepCount (r.Spans m t) := by
    have hblock := isBlock_stepsFrom (t := t) hsteps
    rwa [Nat.zero_add] at hblock
  constructor
  · rintro ⟨n, hn⟩
    obtain ⟨k, n', -, hspans, hrest⟩ := hblock.out (.inr (Nat.le_refl _)) hn
    cases hrest with
    | none => exact hspans
    | more first rest =>
      obtain ⟨_, _, takes, _⟩ := (move_iff haccept).1 first
      cases takes
  · exact hblock.through

end Matcher
end JavacLauncher
