import JavacLauncher.Proofs.Regex.Paths
import Mathlib.Logic.Relation

/-!
# Searching for a match

The matcher follows all ways through its steps at once. Without a character it goes on from each way
(`onwards`) until it stands at steps that take one, or at the accepting step, and no step is gone through
twice at one place of the text. That bounds its work: each round either drops a way or marks a step
that had not been seen, for which at most two ways come instead of one. What it has seen is closed, and
so it finds every step that can be reached without a character (`mem_stops_iff`).

With each character the ways that take it go on, so that at each place those remain that a walk through
the steps can have come by. The last place at which one of them accepts is where the longest match ends
(`isLongest_advance`). The matcher passes over places where its first step lets no match begin
(`canBegin_of_matchAt?`). So it finds the first place where one begins, and of the matches there the longest
one (`find?_eq_some`), and it says that a text fits exactly if the expression matches a part of it
(`fits_iff`).
-/

namespace JavacLauncher

/-- Groups are counted from one; the marks in front of theirs are those of the whole match. -/
def Regex.CountsGroups : Regex → Prop
  | .sequence a b | .either a b => a.CountsGroups ∧ b.CountsGroups
  | .repeated a _ _ => a.CountsGroups
  | .group n a => 0 < n ∧ a.CountsGroups
  | _ => True

namespace Matcher

open Regex

variable {m : Matcher} {t : Array Char} {i : Nat}

/-! ## Going on without a character -/

/-- The ways by which a way goes on. -/
def onwards (m : Matcher) (t : Array Char) (i : Nat) (w : Way) : List Way :=
  match m.steps[w.1]? with
  | some (.jump q) => [(q, w.2)]
  | some (.fork a b) => [(a, w.2), (b, w.2)]
  | some (.note slot) => [(w.1 + 1, w.2.set! slot (some i))]
  | some (.edge e) => if isEdge m t i e then [(w.1 + 1, w.2)] else []
  | _ => []

/-- A step from which no way goes on without a character. -/
def isStop (m : Matcher) (p : Nat) : Bool :=
  match m.steps[p]? with
  | some (.jump _) | some (.fork _ _) | some (.note _) | some (.edge _) | none => false
  | some _ => true

/-- A step counts as seen if it has been, or if there is no such step. -/
def isSeen (seen : Array Bool) (p : Nat) : Bool := (seen[p]?).getD true

theorem follow_of_seen {n : Nat} {w : Way} {ways found : List Way} {seen : Array Bool}
    (h : isSeen seen w.1 = true) :
    follow m t i (n + 1) (w :: ways) seen found = follow m t i n ways seen found := by
  rw [follow]
  exact if_pos h

theorem follow_of_unseen {n : Nat} {w : Way} {ways found : List Way} {seen : Array Bool}
    (h : isSeen seen w.1 = false) :
    follow m t i (n + 1) (w :: ways) seen found =
      follow m t i n (onwards m t i w ++ ways) (seen.set! w.1 true)
        (if isStop m w.1 then w :: found else found) := by
  obtain ⟨p, marks⟩ := w
  have hseen : ¬ (seen[p]?).getD true = true := by
    intro h'
    rw [isSeen, h'] at h
    cases h
  rw [follow, if_neg hseen]
  unfold onwards isStop
  dsimp only
  cases hstep : m.steps[p]? with
  | none => rfl
  | some s =>
    cases s with
    | edge e =>
      dsimp only
      split <;> rfl
    | literal _ | any | oneOf _ _ | jump _ | fork _ _ | note _ | again _ | accept => rfl

theorem silent_iff {w : Way} {q : Nat} : Silent m t i w.1 q ↔ ∃ w' ∈ onwards m t i w, w'.1 = q := by
  unfold onwards
  constructor
  · rintro (⟨step⟩ | ⟨step⟩ | ⟨step⟩ | ⟨step⟩ | ⟨step, here⟩)
    all_goals rw [step]
    · exact ⟨_, List.mem_singleton_self _, rfl⟩
    · exact ⟨_, List.mem_cons_self, rfl⟩
    · exact ⟨_, List.mem_cons_of_mem _ (List.mem_singleton_self _), rfl⟩
    · exact ⟨_, List.mem_singleton_self _, rfl⟩
    · dsimp only
      rw [if_pos here]
      exact ⟨_, List.mem_singleton_self _, rfl⟩
  · rintro ⟨w', hw', rfl⟩
    split at hw'
    · exact List.mem_singleton.1 hw' ▸ .jump ‹_›
    · rcases List.mem_cons.1 hw' with rfl | hw'
      · exact .first ‹_›
      · exact List.mem_singleton.1 hw' ▸ .second ‹_›
    · exact List.mem_singleton.1 hw' ▸ .note ‹_›
    · split at hw'
      · exact List.mem_singleton.1 hw' ▸ .edge ‹_› ‹_›
      · exact absurd hw' List.not_mem_nil
    · exact absurd hw' List.not_mem_nil

theorem length_onwards_le (w : Way) : (onwards m t i w).length ≤ 2 := by
  unfold onwards
  split
  · simp
  · simp
  · simp
  · split <;> simp
  · simp

/-- What holds of the ways at first, and goes on with them, holds of the stops that are found. -/
theorem forall_mem_follow {W : Way → Prop} (hW : ∀ w w', W w → w' ∈ onwards m t i w → W w') {n : Nat}
    {ways found : List Way} {seen : Array Bool} (hways : ∀ w ∈ ways, W w)
    (hfound : ∀ w ∈ found, W w ∧ isStop m w.1 = true) :
    ∀ w ∈ follow m t i n ways seen found, W w ∧ isStop m w.1 = true := by
  have hdone (found : List Way) (hfound : ∀ w ∈ found, W w ∧ isStop m w.1 = true) :
      ∀ w ∈ found.reverse, W w ∧ isStop m w.1 = true := fun w hw => hfound w (List.mem_reverse.1 hw)
  induction n generalizing ways found seen with
  | zero => exact hdone found hfound
  | succ n ih =>
    cases ways with
    | nil => exact hdone found hfound
    | cons w ways =>
      obtain ⟨hw, hways⟩ := List.forall_mem_cons.1 hways
      cases hseen : isSeen seen w.1 with
      | true =>
        rw [follow_of_seen hseen]
        exact ih hways hfound
      | false =>
        rw [follow_of_unseen hseen]
        refine ih (fun w' hw' => ?_) ?_
        · exact (List.mem_append.1 hw').elim (hW w w' hw) (hways w')
        · split
          · rename_i hstop
            exact List.forall_mem_cons.2 ⟨⟨hw, hstop⟩, hfound⟩
          · exact hfound

/-- How many steps have not been seen. -/
def unseen (seen : Array Bool) : Nat := seen.countP fun isSeen => !isSeen

theorem getElem?_of_unseen {seen : Array Bool} {p : Nat} (h : isSeen seen p = false) :
    seen[p]? = some false := by
  unfold isSeen at h
  cases hp : seen[p]? with
  | none =>
    rw [hp] at h
    cases h
  | some seen =>
    rw [hp] at h
    exact congrArg some h

theorem unseen_set {seen : Array Bool} {p : Nat} (h : isSeen seen p = false) :
    unseen (seen.set! p true) + 1 = unseen seen := by
  obtain ⟨hp, hfalse⟩ := Array.getElem?_eq_some_iff.1 (getElem?_of_unseen h)
  have hpos : 0 < seen.countP fun isSeen => !isSeen :=
    Array.countP_pos_iff.2 ⟨seen[p], Array.getElem_mem hp, by rw [hfalse]; rfl⟩
  unfold unseen
  rw [Array.set!_eq_setIfInBounds, Array.setIfInBounds, dif_pos hp, Array.countP_set hp, hfalse]
  simp
  omega

theorem isSeen_set {seen : Array Bool} {p q : Nat} :
    isSeen (seen.set! p true) q = true ↔ isSeen seen q = true ∨ q = p := by
  unfold isSeen
  rw [Array.set!_eq_setIfInBounds, Array.getElem?_setIfInBounds]
  split
  · rename_i heq
    subst heq
    split <;> simp
  · rename_i hne
    simp [Ne.symm hne]

/-- What has been seen goes on to what has been seen, or will be, and the stops of it are found. -/
structure IsClosed (m : Matcher) (t : Array Char) (i : Nat) (ways found : List Way) (seen : Array Bool) :
    Prop where
  size : seen.size = m.steps.size
  stops : ∀ p, isSeen seen p = true → isStop m p = true → ∃ w ∈ found, w.1 = p
  onwards : ∀ p q, isSeen seen p = true → Silent m t i p q → isSeen seen q = true ∨ ∃ w ∈ ways, w.1 = q

namespace IsClosed

variable {ways found : List Way} {seen : Array Bool} {w : Way}

/-- A way to a step that has been seen is dropped. -/
theorem of_seen (h : IsClosed m t i (w :: ways) found seen) (hw : isSeen seen w.1 = true) :
    IsClosed m t i ways found seen where
  size := h.size
  stops := h.stops
  onwards p q hp hq := by
    obtain hq | ⟨w', hw', rfl⟩ := h.onwards p q hp hq
    · exact .inl hq
    · rcases List.mem_cons.1 hw' with rfl | hw'
      · exact .inl hw
      · exact .inr ⟨w', hw', rfl⟩

/-- A way to a step that had not been seen makes room for those by which it goes on. -/
theorem of_unseen (h : IsClosed m t i (w :: ways) found seen) :
    IsClosed m t i (Matcher.onwards m t i w ++ ways) (if isStop m w.1 then w :: found else found)
      (seen.set! w.1 true) where
  size := by rw [Array.size_set!, h.size]
  stops p hp hstop := by
    rcases isSeen_set.1 hp with hp | rfl
    · obtain ⟨w', hw', rfl⟩ := h.stops p hp hstop
      split
      · exact ⟨w', List.mem_cons_of_mem w hw', rfl⟩
      · exact ⟨w', hw', rfl⟩
    · rw [if_pos hstop]
      exact ⟨w, List.mem_cons_self, rfl⟩
  onwards p q hp hq := by
    rcases isSeen_set.1 hp with hp | rfl
    · obtain hq | ⟨w', hw', rfl⟩ := h.onwards p q hp hq
      · exact .inl (isSeen_set.2 (.inl hq))
      · rcases List.mem_cons.1 hw' with rfl | hw'
        · exact .inl (isSeen_set.2 (.inr rfl))
        · exact .inr ⟨w', List.mem_append_right _ hw', rfl⟩
    · obtain ⟨w', hw', rfl⟩ := silent_iff.1 hq
      exact .inr ⟨w', List.mem_append_left _ hw', rfl⟩

/-- Where no way is left, all that can be reached has been seen. -/
theorem isSeen_of_reach (h : IsClosed m t i [] found seen) {p q : Nat} (hp : isSeen seen p = true)
    (hreach : Relation.ReflTransGen (Silent m t i) p q) : isSeen seen q = true := by
  induction hreach with
  | refl => exact hp
  | tail _ hq ih =>
    obtain hq | ⟨_, hw, _⟩ := h.onwards _ _ ih hq
    · exact hq
    · exact absurd hw List.not_mem_nil

end IsClosed

/-- Every stop that can be reached from what has been seen, or will be, is found. -/
theorem exists_mem_follow {n : Nat} {ways found : List Way} {seen : Array Bool}
    (h : IsClosed m t i ways found seen) (hn : ways.length + 2 * unseen seen ≤ n) {p q : Nat}
    (hp : isSeen seen p = true ∨ ∃ w ∈ ways, w.1 = p) (hreach : Relation.ReflTransGen (Silent m t i) p q)
    (hstop : isStop m q = true) : ∃ w ∈ follow m t i n ways seen found, w.1 = q := by
  have hdone {found : List Way} {seen : Array Bool} (h : IsClosed m t i [] found seen)
      (hp : isSeen seen p = true ∨ ∃ w ∈ ([] : List Way), w.1 = p) : ∃ w ∈ found.reverse, w.1 = q := by
    have hp := hp.resolve_right fun ⟨_, hw, _⟩ => absurd hw List.not_mem_nil
    obtain ⟨w, hw, rfl⟩ := h.stops q (h.isSeen_of_reach hp hreach) hstop
    exact ⟨w, List.mem_reverse.2 hw, rfl⟩
  induction n generalizing ways found seen with
  | zero =>
    obtain rfl : ways = [] := List.eq_nil_of_length_eq_zero (by omega)
    exact hdone h hp
  | succ n ih =>
    cases ways with
    | nil => exact hdone h hp
    | cons w ways =>
      rw [List.length_cons] at hn
      cases hseen : isSeen seen w.1 with
      | true =>
        rw [follow_of_seen hseen]
        refine ih (h.of_seen hseen) (by omega) ?_
        rcases hp with hp | ⟨w', hw', rfl⟩
        · exact .inl hp
        · rcases List.mem_cons.1 hw' with rfl | hw'
          · exact .inl hseen
          · exact .inr ⟨w', hw', rfl⟩
      | false =>
        rw [follow_of_unseen hseen]
        have hcount := unseen_set hseen
        have hlength := length_onwards_le (m := m) (t := t) (i := i) w
        refine ih h.of_unseen (by rw [List.length_append]; omega) ?_
        rcases hp with hp | ⟨w', hw', rfl⟩
        · exact .inl (isSeen_set.2 (.inl hp))
        · rcases List.mem_cons.1 hw' with rfl | hw'
          · exact .inl (isSeen_set.2 (.inr rfl))
          · exact .inr ⟨w', List.mem_append_right _ hw', rfl⟩

/-- All ways from some ways to steps that take a character or accept. -/
def stops (m : Matcher) (t : Array Char) (i : Nat) (ways : List Way) : List Way :=
  follow m t i (2 * m.steps.size + ways.length + 2) ways (Array.replicate m.steps.size false) []

theorem isSeen_replicate {n p : Nat} : isSeen (Array.replicate n false) p = true ↔ n ≤ p := by
  unfold isSeen
  rw [Array.getElem?_replicate]
  split
  · simp
    omega
  · simp
    omega

/-- At first nothing has been seen that is a step. -/
theorem isClosed_replicate (ways : List Way) :
    IsClosed m t i ways [] (Array.replicate m.steps.size false) where
  size := Array.size_replicate
  stops p hp hstop := by
    have hnone : m.steps[p]? = none := Array.getElem?_eq_none (isSeen_replicate.1 hp)
    rw [isStop, hnone] at hstop
    cases hstop
  onwards p q hp hq := by
    have hnone : m.steps[p]? = none := Array.getElem?_eq_none (isSeen_replicate.1 hp)
    cases hq with
    | jump step | first step | second step | note step | edge step => cases hnone.symm.trans step

/-- **The stops that are found are those that can be reached without a character.** -/
theorem mem_stops_iff {ways : List Way} {q : Nat} : (∃ w ∈ stops m t i ways, w.1 = q) ↔
    isStop m q = true ∧ ∃ w ∈ ways, Relation.ReflTransGen (Silent m t i) w.1 q := by
  constructor
  · rintro ⟨w, hw, rfl⟩
    have hall := forall_mem_follow (W := fun w => ∃ v ∈ ways, Relation.ReflTransGen (Silent m t i) v.1 w.1)
      (fun w w' ⟨v, hv, hreach⟩ hw' => ⟨v, hv, hreach.tail (silent_iff.2 ⟨w', hw', rfl⟩)⟩)
      (fun w hw => ⟨w, hw, .refl⟩) (fun _ hw => absurd hw List.not_mem_nil) w hw
    exact hall.symm
  · rintro ⟨hstop, w, hw, hreach⟩
    have hcount : unseen (Array.replicate m.steps.size false) ≤ m.steps.size := by
      rw [unseen]
      exact Nat.le_trans Array.countP_le_size (Nat.le_of_eq Array.size_replicate)
    exact exists_mem_follow (isClosed_replicate ways) (by omega) (.inr ⟨w, hw, rfl⟩) hreach hstop

/-! ## From character to character -/

/-- The text is read from the front to the back. -/
theorem Moves.le {n : Nat} {a b : Nat × Nat} (h : Moves m t n a b) : a.2 ≤ b.2 := by
  induction h with
  | none => exact Nat.le_refl _
  | more first rest ih =>
    cases first with
    | silent h => exact ih
    | take step char takes => exact Nat.le_of_succ_le ih

/-- From a step at a place, moves lead to another one at another place. -/
def Leads (m : Matcher) (t : Array Char) (a b : Nat × Nat) : Prop := ∃ n, Moves m t n a b

theorem leads_of_silent {p q : Nat} {b : Nat × Nat} (h : Relation.ReflTransGen (Silent m t i) p q)
    (hb : Leads m t (q, i) b) : Leads m t (p, i) b := by
  induction h using Relation.ReflTransGen.head_induction_on with
  | refl => exact hb
  | head first _ ih =>
    obtain ⟨n, hn⟩ := ih
    exact ⟨n + 1, .more (.silent first) hn⟩

/-- Moves to an accepting step: first without a character, and then it is reached, or the next character
is taken. -/
theorem leads_iff {p last j : Nat} : Leads m t (p, i) (last, j) ↔
    ∃ q, Relation.ReflTransGen (Silent m t i) p q ∧
      (q = last ∧ i = j ∨ ∃ s c, m.steps[q]? = some s ∧ t[i]? = some c ∧ m.takes s c = true ∧
        Leads m t (q + 1, i + 1) (last, j)) := by
  constructor
  · rintro ⟨n, hn⟩
    generalize ha : (p, i) = a at hn
    generalize hb : (last, j) = b at hn
    induction hn generalizing p with
    | none =>
      obtain ⟨rfl, rfl⟩ := Prod.mk.inj (ha.trans hb.symm)
      exact ⟨p, .refl, .inl ⟨rfl, rfl⟩⟩
    | more first rest ih =>
      cases first with
      | silent h =>
        obtain ⟨rfl, rfl⟩ := Prod.mk.inj ha
        obtain ⟨q, hq, hrest⟩ := ih rfl hb
        exact ⟨q, .head h hq, hrest⟩
      | take step char takes =>
        obtain ⟨rfl, rfl⟩ := Prod.mk.inj ha
        exact ⟨p, .refl, .inr ⟨_, _, step, char, takes, ⟨_, rest⟩⟩⟩
  · rintro ⟨q, hq, ⟨rfl, rfl⟩ | ⟨s, c, step, char, takes, n, hn⟩⟩
    · exact leads_of_silent hq ⟨0, .none⟩
    · exact leads_of_silent hq ⟨n + 1, .more (.take step char takes) hn⟩

variable {r : Regex}

/-- From one of some ways at a place, moves lead to the accepting step at another place. -/
def Ends (m : Matcher) (t : Array Char) (r : Regex) (ways : List Way) (i j : Nat) : Prop :=
  ∃ w ∈ ways, Leads m t (w.1, i) (r.stepCount, j)

/-- The ways that take the next character, behind it. -/
def behind (m : Matcher) (c : Char) (ways : List Way) : List Way :=
  ways.filterMap fun w => if m.takes ((m.steps[w.1]?).getD .accept) c then some (w.1 + 1, w.2) else none

theorem isStop_of_takes {p : Nat} {s : MatchStep} {c : Char} (step : m.steps[p]? = some s)
    (takes : m.takes s c = true) : isStop m p = true := by
  rw [isStop, step]
  cases s with
  | literal _ | any | oneOf _ _ => rfl
  | edge _ | jump _ | fork _ _ | note _ | again _ | accept => cases takes

theorem isStop_accept (h : m.IsFor r) : isStop m r.stepCount = true := by
  rw [isStop, h.accept_iff.2 rfl]

/-- A match ends at once if the accepting step is among the stops. -/
theorem ends_here_iff (h : m.IsFor r) {ways : List Way} :
    Ends m t r ways i i ↔ ∃ w ∈ stops m t i ways, m.steps[w.1]? = some .accept := by
  constructor
  · rintro ⟨w, hw, hleads⟩
    obtain ⟨q, hq, ⟨rfl, -⟩ | ⟨_, _, _, _, _, n, hn⟩⟩ := leads_iff.1 hleads
    · obtain ⟨w', hw', heq⟩ := mem_stops_iff.2 ⟨isStop_accept h, w, hw, hq⟩
      exact ⟨w', hw', h.accept_iff.2 heq⟩
    · exact absurd hn.le (Nat.not_succ_le_self i)
  · rintro ⟨w, hw, haccept⟩
    obtain ⟨-, v, hv, hreach⟩ := mem_stops_iff.1 ⟨w, hw, rfl⟩
    exact ⟨v, hv, leads_iff.2 ⟨w.1, hreach, .inl ⟨h.accept_iff.1 haccept, rfl⟩⟩⟩

theorem mem_behind_iff {c : Char} {ways : List Way} {v : Way} :
    v ∈ behind m c ways ↔
      ∃ w ∈ ways, ∃ s, m.steps[w.1]? = some s ∧ m.takes s c = true ∧ v = (w.1 + 1, w.2) := by
  rw [behind, List.mem_filterMap]
  refine exists_congr fun w => and_congr_right fun _ => ?_
  cases hstep : m.steps[w.1]? with
  | none =>
    -- where there is no step, the accepting one stands for it, and that one takes no character
    have htakes : ¬ m.takes .accept c = true := Bool.false_ne_true
    simp [htakes]
  | some s =>
    rw [Option.getD_some]
    constructor
    · intro hsome
      split at hsome
      · rename_i takes
        exact ⟨s, rfl, takes, (Option.some.inj hsome).symm⟩
      · cases hsome
    · rintro ⟨s', hs, takes, rfl⟩
      obtain rfl := Option.some.inj hs
      exact if_pos takes

/-- A match ends further on if it does so from what takes the next character. -/
theorem ends_behind_iff {ways : List Way} {j : Nat} (hj : i < j) :
    Ends m t r ways i j ↔ ∃ c, t[i]? = some c ∧ Ends m t r (behind m c (stops m t i ways)) (i + 1) j := by
  constructor
  · rintro ⟨w, hw, hleads⟩
    obtain ⟨q, hq, ⟨-, rfl⟩ | ⟨s, c, step, char, takes, hleads⟩⟩ := leads_iff.1 hleads
    · exact absurd hj (Nat.lt_irrefl i)
    · obtain ⟨w', hw', rfl⟩ := mem_stops_iff.2 ⟨isStop_of_takes step takes, w, hw, hq⟩
      exact ⟨c, char, (w'.1 + 1, w'.2), mem_behind_iff.2 ⟨w', hw', s, step, takes, rfl⟩, hleads⟩
  · rintro ⟨c, char, v, hv, hleads⟩
    obtain ⟨w, hw, s, step, takes, rfl⟩ := mem_behind_iff.1 hv
    obtain ⟨-, u, hu, hreach⟩ := mem_stops_iff.1 ⟨w, hw, rfl⟩
    exact ⟨u, hu, leads_iff.2 ⟨w.1, hreach, .inr ⟨s, c, step, char, takes, hleads⟩⟩⟩

/-- A way goes on with the marks it has, or with the place noted. -/
theorem marks_of_mem_onwards {w w' : Way} (h : w' ∈ onwards m t i w) :
    w'.2 = w.2 ∨ ∃ slot, m.steps[w.1]? = some (.note slot) ∧ w'.2 = w.2.set! slot (some i) := by
  unfold onwards at h
  split at h
  · exact .inl (List.mem_singleton.1 h ▸ rfl)
  · rcases List.mem_cons.1 h with rfl | h
    · exact .inl rfl
    · exact .inl (List.mem_singleton.1 h ▸ rfl)
  · obtain rfl := List.mem_singleton.1 h
    exact .inr ⟨_, ‹_›, rfl⟩
  · split at h
    · exact .inl (List.mem_singleton.1 h ▸ rfl)
    · exact absurd h List.not_mem_nil
  · exact absurd h List.not_mem_nil

/-- What holds of marks however places are noted. -/
structure IsKept (m : Matcher) (P : Marks → Prop) : Prop where
  note : ∀ {p slot j : Nat} {marks : Marks}, m.steps[p]? = some (.note slot) → P marks →
    P (marks.set! slot (some j))
  last : ∀ {j : Nat} {marks : Marks}, P marks → P (marks.set! 1 (some j))

theorem IsKept.stops {P : Marks → Prop} (hP : IsKept m P) {ways : List Way} (h : ∀ w ∈ ways, P w.2) :
    ∀ w ∈ stops m t i ways, P w.2 := by
  intro w hw
  refine (forall_mem_follow (W := fun w => P w.2) (fun w w' hw hw' => ?_) h
    (fun _ hw => absurd hw List.not_mem_nil) w hw).1
  rcases marks_of_mem_onwards hw' with heq | ⟨slot, step, heq⟩
  · exact heq ▸ hw
  · exact heq ▸ hP.note step hw

theorem isKept_size (m : Matcher) : IsKept m fun marks => 1 < marks.size where
  note _ h := by rwa [Array.size_set!]
  last h := by rwa [Array.size_set!]

/-- A match ends at one of some places, none of them behind it, and that is what has been found. Or it
ends at none of them, and what has been found is what had been found before. -/
def IsLongest (ends : Nat → Prop) (before? found? : Option Marks) : Prop :=
  (∃ j marks, found? = some marks ∧ marks[1]? = some (some j) ∧ ends j ∧ ∀ k, ends k → k ≤ j) ∨
  ((∀ j, ¬ ends j) ∧ found? = before?)

/-- Places further on come after the place itself. -/
theorem IsLongest.trans {ends : Nat → Prop} {before? here? found? : Option Marks}
    (hbehind : ∀ j, ends j → i ≤ j) (hhere : IsLongest (fun j => j = i ∧ ends j) before? here?)
    (hrest : IsLongest (fun j => i < j ∧ ends j) here? found?) : IsLongest ends before? found? := by
  rcases hrest with ⟨j, marks, rfl, hmark, ⟨hij, hj⟩, hlongest⟩ | ⟨hnone, rfl⟩
  · refine .inl ⟨j, marks, rfl, hmark, hj, fun k hk => ?_⟩
    rcases Nat.eq_or_lt_of_le (hbehind k hk) with rfl | hlt
    · exact Nat.le_of_lt hij
    · exact hlongest k ⟨hlt, hk⟩
  · have heq (k : Nat) (hk : ends k) : k = i :=
      Nat.le_antisymm (Nat.le_of_not_lt fun hlt => hnone k ⟨hlt, hk⟩) (hbehind k hk)
    rcases hhere with ⟨j, marks, rfl, hmark, ⟨rfl, hj⟩, -⟩ | ⟨hnone, rfl⟩
    · exact .inl ⟨j, marks, rfl, hmark, hj, fun k hk => Nat.le_of_eq (heq k hk)⟩
    · exact .inr ⟨fun k hk => hnone k ⟨heq k hk, hk⟩, rfl⟩

/-- What has been found after a look at the stops of a place. -/
def foundAt (m : Matcher) (i : Nat) (ways : List Way) (best? : Option Marks) : Option Marks :=
  match ways.find? fun w => m.steps[w.1]? = some .accept with
  | some w => some (w.2.set! 1 (some i))
  | none => best?

theorem advance_eq (n : Nat) (ways : List Way) (best? : Option Marks) :
    advance m t (n + 1) i ways best? =
      match t[i]? with
      | none => foundAt m i (stops m t i ways) best?
      | some c =>
        if (behind m c (stops m t i ways)).isEmpty then foundAt m i (stops m t i ways) best?
        else advance m t n (i + 1) (behind m c (stops m t i ways)) (foundAt m i (stops m t i ways) best?) :=
  rfl

theorem isLongest_foundAt (h : m.IsFor r) {ways : List Way} (hsize : ∀ w ∈ stops m t i ways, 1 < w.2.size)
    (best? : Option Marks) :
    IsLongest (fun j => j = i ∧ Ends m t r ways i j) best? (foundAt m i (stops m t i ways) best?) := by
  unfold foundAt
  cases hfind : (stops m t i ways).find? fun w => m.steps[w.1]? = some .accept with
  | some w =>
    have hw := List.mem_of_find?_eq_some hfind
    have haccept : m.steps[w.1]? = some .accept := by simpa using List.find?_some hfind
    have hends := (ends_here_iff h).2 ⟨w, hw, haccept⟩
    refine .inl ⟨i, _, rfl, ?_, ⟨rfl, hends⟩, fun k hk => Nat.le_of_eq hk.1⟩
    rw [Array.set!_eq_setIfInBounds, Array.getElem?_setIfInBounds_self_of_lt (hsize w hw)]
  | none =>
    refine .inr ⟨?_, rfl⟩
    rintro j ⟨rfl, hends⟩
    obtain ⟨w, hw, haccept⟩ := (ends_here_iff h).1 hends
    exact List.find?_eq_none.1 hfind w hw (decide_eq_true haccept)

/-- One round: what ends at the place itself, and what the rest of the text gives if there is more. -/
theorem isLongest_round (h : m.IsFor r) {n : Nat} {ways : List Way} (hways : ∀ w ∈ ways, 1 < w.2.size)
    (best? : Option Marks)
    (hrest : ∀ c, t[i]? = some c →
      IsLongest (Ends m t r (behind m c (stops m t i ways)) (i + 1)) (foundAt m i (stops m t i ways) best?)
        (advance m t n (i + 1) (behind m c (stops m t i ways)) (foundAt m i (stops m t i ways) best?))) :
    IsLongest (Ends m t r ways i) best? (advance m t (n + 1) i ways best?) := by
  have hle (j : Nat) (hj : Ends m t r ways i j) : i ≤ j := by
    obtain ⟨_, _, _, hn⟩ := hj
    exact hn.le
  refine (isLongest_foundAt h ((isKept_size m).stops hways) best?).trans hle ?_
  rw [advance_eq]
  cases hchar : t[i]? with
  | none =>
    refine .inr ⟨?_, rfl⟩
    rintro j ⟨hij, hj⟩
    obtain ⟨c, hc, -⟩ := (ends_behind_iff hij).1 hj
    cases hchar.symm.trans hc
  | some c =>
    have hnext : (fun j => i < j ∧ Ends m t r ways i j) =
        Ends m t r (behind m c (stops m t i ways)) (i + 1) := by
      funext j
      apply propext
      constructor
      · rintro ⟨hij, hj⟩
        obtain ⟨c', hc', hj⟩ := (ends_behind_iff hij).1 hj
        obtain rfl := Option.some.inj (hchar.symm.trans hc')
        exact hj
      · intro hj
        have hij : i < j := by
          obtain ⟨_, _, _, hn⟩ := hj
          exact hn.le
        exact ⟨hij, (ends_behind_iff hij).2 ⟨c, hchar, hj⟩⟩
    rw [hnext]
    dsimp only
    split
    · rename_i hempty
      rw [List.isEmpty_iff.1 hempty]
      exact .inr ⟨fun j ⟨w, hw, _⟩ => absurd hw List.not_mem_nil, rfl⟩
    · exact hrest c hchar

/-- **The longest match is found.** -/
theorem isLongest_advance (h : m.IsFor r) {n : Nat} (hn : t.size ≤ n + i) {ways : List Way}
    (hways : ∀ w ∈ ways, 1 < w.2.size) (best? : Option Marks) :
    IsLongest (Ends m t r ways i) best? (advance m t (n + 1) i ways best?) := by
  induction n generalizing i ways best? with
  | zero =>
    refine isLongest_round h hways best? fun c hc => ?_
    have hlt := (Array.getElem?_eq_some_iff.1 hc).1
    omega
  | succ n ih =>
    refine isLongest_round h hways best? fun c hc => ih (by omega) (fun v hv => ?_) _
    obtain ⟨w, hw, _, _, _, rfl⟩ := mem_behind_iff.1 hv
    exact (isKept_size m).stops hways w hw

/-- What is kept of the marks of ways holds of the marks that are found. -/
theorem IsKept.advance {P : Marks → Prop} (hP : IsKept m P) {n : Nat} {ways : List Way}
    (hways : ∀ w ∈ ways, P w.2) {best? : Option Marks} (hbest : ∀ marks, best? = some marks → P marks) :
    ∀ marks, Matcher.advance m t n i ways best? = some marks → P marks := by
  induction n generalizing i ways best? with
  | zero => exact hbest
  | succ n ih =>
    have hstops := hP.stops (t := t) (i := i) hways
    have hfound : ∀ marks, foundAt m i (Matcher.stops m t i ways) best? = some marks → P marks := by
      unfold foundAt
      split
      · rename_i w hw
        rintro _ ⟨⟩
        exact hP.last (hstops w (List.mem_of_find?_eq_some hw))
      · exact hbest
    rw [advance_eq]
    split
    · exact hfound
    · split
      · exact hfound
      · refine ih (fun v hv => ?_) hfound
        obtain ⟨w, hw, _, _, _, rfl⟩ := mem_behind_iff.1 hv
        exact hstops w hw

/-! ## The match at a place, and the first match -/

/-- From the first step on, a match ends where the expression says. -/
theorem ends_start_iff (h : m.IsFor r) {marks : Marks} {j : Nat} :
    Ends m t r [(0, marks)] i j ↔ r.Spans m t i j := by
  rw [← reaches_accept_iff h]
  constructor
  · rintro ⟨w, hw, hleads⟩
    obtain rfl := List.mem_singleton.1 hw
    exact hleads
  · exact fun hleads => ⟨_, List.mem_singleton_self _, hleads⟩

/-- **Of the matches that begin at a place, the longest one is found.** -/
theorem isLongest_matchAt? (h : m.IsFor r) (hlooks : m.looksBack = false) (t : Array Char) (i : Nat) :
    IsLongest (r.Spans m t i) none (m.matchAt? t i) := by
  let start : List Way := [(0, (Array.replicate (2 * m.groups + 2) none).set! 0 (some i))]
  have hsizes : ∀ w ∈ start, 1 < w.2.size := by simp [start]
  have hlongest := isLongest_advance (t := t) (i := i) (n := t.size) h (Nat.le_add_right _ _) hsizes none
  have heq : Ends m t r start i = r.Spans m t i := by
    funext j
    exact propext (ends_start_iff h)
  rw [heq] at hlongest
  rw [matchAt?, hlooks]
  exact hlongest

theorem matchAt?_eq_none_iff (h : m.IsFor r) (hlooks : m.looksBack = false) :
    m.matchAt? t i = none ↔ ∀ j, ¬ r.Spans m t i j := by
  rcases isLongest_matchAt? h hlooks t i with ⟨j, marks, hsome, -, hj, -⟩ | ⟨hnone, heq⟩
  · rw [hsome]
    exact ⟨nofun, fun hall => absurd hj (hall j)⟩
  · exact ⟨fun _ => hnone, fun _ => heq⟩

theorem note_zero_notMem {r : Regex} (h : r.CountsGroups) (first : Nat) :
    MatchStep.note 0 ∉ r.stepsFrom first := by
  induction r generalizing first with
  | empty | literal _ | any | set _ _ | edge _ | again _ => simp [stepsFrom]
  | sequence a b iha ihb => simp [stepsFrom, iha h.1, ihb h.2]
  | either a b iha ihb => simp [stepsFrom, iha h.1, ihb h.2]
  | group n a ih =>
    have hpos : 0 < n := h.1
    simp [stepsFrom, ih h.2]
    omega
  | repeated a least most? ih => cases most? <;> simp [stepsFrom, ih h]

theorem IsFor.note_zero (h : m.IsFor r) (hgroups : r.CountsGroups) {p : Nat} :
    m.steps[p]? ≠ some (.note 0) := by
  rw [h, List.getElem?_toArray]
  intro hp
  rcases List.mem_append.1 (List.mem_of_getElem? hp) with hmem | hmem
  · exact note_zero_notMem hgroups 0 hmem
  · cases List.mem_singleton.1 hmem

/-- The marks of a match say where it begins. -/
theorem getElem?_zero_of_matchAt? (h : m.IsFor r) (hgroups : r.CountsGroups) (hlooks : m.looksBack = false)
    {marks : Marks} (hmatch : m.matchAt? t i = some marks) : marks[0]? = some (some i) := by
  have hkept : IsKept m fun marks => marks[0]? = some (some i) := by
    refine ⟨fun {p slot j marks} step hmarks => ?_, fun {j marks} hmarks => ?_⟩
    · have hne : slot ≠ 0 := by
        rintro rfl
        exact h.note_zero hgroups step
      rwa [Array.set!_eq_setIfInBounds, Array.getElem?_setIfInBounds_ne hne]
    · rwa [Array.set!_eq_setIfInBounds, Array.getElem?_setIfInBounds_ne Nat.one_ne_zero]
  rw [matchAt?, hlooks] at hmatch
  refine hkept.advance (fun w hw => ?_) (fun _ hnone => by cases hnone) marks hmatch
  obtain rfl := List.mem_singleton.1 hw
  rw [Array.set!_eq_setIfInBounds, Array.getElem?_setIfInBounds_self_of_lt (by simp)]

/-- The first place from `i` on, of the next `n` ones, at which a match begins, or that there is none. -/
def IsFirst (m : Matcher) (t : Array Char) (i n : Nat) : Option Marks → Prop
  | some marks =>
    ∃ a, i ≤ a ∧ a < i + n ∧ m.matchAt? t a = some marks ∧ ∀ k, i ≤ k → k < a → m.matchAt? t k = none
  | none => ∀ k, i ≤ k → k < i + n → m.matchAt? t k = none

namespace IsFirst

variable {n : Nat} {found? : Option Marks}

theorem next (h : m.matchAt? t i = none) (hrest : IsFirst m t (i + 1) n found?) :
    IsFirst m t i (n + 1) found? := by
  have hall {k : Nat} (hk : i ≤ k) (hbehind : i + 1 ≤ k → m.matchAt? t k = none) : m.matchAt? t k = none := by
    rcases Nat.eq_or_lt_of_le hk with rfl | hlt
    · exact h
    · exact hbehind hlt
  cases found? with
  | some marks =>
    obtain ⟨a, ha, hlt, hmatch, hbefore⟩ := hrest
    exact ⟨a, Nat.le_of_succ_le ha, by omega, hmatch, fun k hk hlt => hall hk fun hk => hbefore k hk hlt⟩
  | none => exact fun k hk hlt => hall hk fun hk => hrest k hk (by omega)

end IsFirst

/-- Where a match begins, there is a move from the first step. -/
theorem exists_move (h : m.IsFor r) (hlooks : m.looksBack = false) {s : MatchStep} (hs : m.steps[0]? = some s)
    (hne : s ≠ .accept) (hsome : m.matchAt? t i ≠ none) : ∃ b, Move m t (0, i) b := by
  have hspans : ∃ j, r.Spans m t i j := by
    apply Classical.byContradiction
    intro hall
    exact hsome ((matchAt?_eq_none_iff h hlooks).2 fun j hj => hall ⟨j, hj⟩)
  obtain ⟨j, hj⟩ := hspans
  obtain ⟨n, hn⟩ := (reaches_accept_iff h).2 hj
  generalize hb : (r.stepCount, j) = b at hn
  cases hn with
  | none => exact absurd (Option.some.inj (hs.symm.trans (h.accept_iff.2 (Prod.mk.inj hb).1.symm))) hne
  | more first rest => exact ⟨_, first⟩

/-- A match begins only where the first step lets it. -/
theorem canBegin_of_matchAt? (h : m.IsFor r) (hlooks : m.looksBack = false) (hsome : m.matchAt? t i ≠ none) :
    m.canBegin t i = true := by
  unfold canBegin
  cases hs : m.steps[0]? with
  | none => rfl
  | some s =>
    cases s with
    | literal c =>
      obtain ⟨b, hmove⟩ := exists_move h hlooks hs MatchStep.noConfusion hsome
      obtain ⟨d, hd, hfits, -⟩ := (move_iff hs).1 hmove
      dsimp only
      rw [hd]
      exact hfits
    | edge e =>
      obtain ⟨b, hmove⟩ := exists_move h hlooks hs MatchStep.noConfusion hsome
      exact ((move_iff hs).1 hmove).1
    | _ => rfl

/-- The start of the text is at one place only, and so is the start of a line unless lines count. -/
theorem matchAt?_eq_none_of_canBeginLater (h : m.IsFor r) (hlooks : m.looksBack = false)
    (hlater : m.canBeginLater = false) (hi : 0 < i) : m.matchAt? t i = none := by
  apply Classical.byContradiction
  intro hsome
  have hbegin := canBegin_of_matchAt? h hlooks hsome
  unfold canBeginLater at hlater
  unfold canBegin at hbegin
  cases hs : m.steps[0]? with
  | none =>
    rw [hs] at hlater
    cases hlater
  | some s =>
    rw [hs] at hlater hbegin
    cases s with
    | edge e =>
      cases e with
      | textStart => simp [isEdge, Nat.ne_of_gt hi] at hbegin
      | lineStart =>
        have hlines : m.hasLines = false := hlater
        simp [isEdge, Nat.ne_of_gt hi, hlines] at hbegin
      | _ => cases hlater
    | _ => cases hlater

theorem isFirst_go (h : m.IsFor r) (hlooks : m.looksBack = false) (n i : Nat) :
    IsFirst m t i n (find?.go m t n i) := by
  induction n generalizing i with
  | zero => exact fun k hk hlt => absurd hlt (Nat.not_lt_of_le hk)
  | succ n ih =>
    have hlook : (if m.canBegin t i then m.matchAt? t i else none) = m.matchAt? t i := by
      split
      · rfl
      · rename_i hbegin
        exact (Classical.byContradiction fun hsome => hbegin (canBegin_of_matchAt? h hlooks hsome)).symm
    rw [find?.go, hlook]
    cases hmatch : m.matchAt? t i with
    | some marks =>
      exact ⟨i, Nat.le_refl i, by omega, hmatch, fun k hk hlt => absurd hlt (Nat.not_lt_of_le hk)⟩
    | none =>
      dsimp only
      split
      · exact .next hmatch (ih (i + 1))
      · rename_i hlater
        have hrest : IsFirst m t (i + 1) n none := fun k hk _ =>
          matchAt?_eq_none_of_canBeginLater h hlooks (eq_false_of_ne_true hlater) (Nat.lt_of_succ_le
            (Nat.le_trans (Nat.succ_le_succ (Nat.zero_le i)) hk))
        exact .next hmatch hrest

/-- **The first match is found, and of those that begin with it the longest one.** -/
theorem find?_eq_some (h : m.IsFor r) (hlooks : m.looksBack = false) {marks : Marks}
    (hfind : m.find? t i = some marks) :
    ∃ a b, i ≤ a ∧ a ≤ t.size ∧ r.Spans m t a b ∧ (r.CountsGroups → marks.span? 0 = some (a, b)) ∧
      ∀ k j, i ≤ k → r.Spans m t k j → a ≤ k ∧ (k = a → j ≤ b) := by
  have hfirst := isFirst_go (t := t) h hlooks (t.size + 1 - i) i
  have hgo : find?.go m t (t.size + 1 - i) i = some marks := hfind
  rw [hgo] at hfirst
  obtain ⟨a, ha, hlt, hmatch, hbefore⟩ := hfirst
  rcases isLongest_matchAt? h hlooks t a with ⟨b, _, hsome, hmark, hspans, hlongest⟩ | ⟨-, hnone⟩
  · obtain rfl := Option.some.inj (hmatch.symm.trans hsome)
    refine ⟨a, b, ha, by omega, hspans, fun hgroups => ?_,
      fun k j hk hj => ⟨Nat.le_of_not_lt fun hlt => ?_, ?_⟩⟩
    · obtain ⟨_, hn⟩ := (reaches_accept_iff h).2 hspans
      have hbegin := getElem?_zero_of_matchAt? h hgroups hlooks hmatch
      have hle : a ≤ b := hn.le
      rw [Marks.span?, Nat.mul_zero, Nat.zero_add, hbegin, hmark]
      exact if_pos hle
    · exact (matchAt?_eq_none_iff h hlooks).1 (hbefore k hk hlt) j hj
    · rintro rfl
      exact hlongest j hj
  · cases hmatch.symm.trans hnone

/-- No match is found only if there is none. -/
theorem find?_eq_none_iff (h : m.IsFor r) (hlooks : m.looksBack = false) :
    m.find? t i = none ↔ ∀ a b, i ≤ a → a ≤ t.size → ¬ r.Spans m t a b := by
  constructor
  · intro hnone a b ha hsize
    have hfirst := isFirst_go (t := t) h hlooks (t.size + 1 - i) i
    have hgo : find?.go m t (t.size + 1 - i) i = none := hnone
    rw [hgo] at hfirst
    exact (matchAt?_eq_none_iff h hlooks).1 (hfirst a ha (by omega)) b
  · intro hall
    cases hfind : m.find? t i with
    | none => rfl
    | some marks =>
      obtain ⟨a, b, ha, hsize, hspans, -⟩ := find?_eq_some h hlooks hfind
      exact absurd hspans (hall a b ha hsize)

/-- **A text fits exactly if the expression matches a part of it.** -/
theorem fits_iff (h : m.IsFor r) (hlooks : m.looksBack = false) {t : Text} :
    m.fits t = true ↔ ∃ a b, a ≤ t.length ∧ r.Spans m t.toArray a b := by
  rw [fits, Option.isSome_iff_ne_none, Ne, find?_eq_none_iff h hlooks]
  simp

end Matcher
end JavacLauncher
