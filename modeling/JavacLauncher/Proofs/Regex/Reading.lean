import JavacLauncher.Proofs.Regex.Search

/-!
# The expressions that are read

Groups get their numbers while an expression is read, from one on. So the marks of a group never are those
of the whole match, and what `find?` gives says where the match begins and ends (`find?_ofText`).

The reading is a program over its progress. `Gives P x` says of such a program that whatever it returns
has a property; each part of the reader is shown to give expressions that count their groups, and a part
that is read inside another one comes in as a hypothesis.
-/

namespace JavacLauncher.Regex

/-- Whatever a reading returns has a property; it may fail. -/
def Gives {α : Type} (P : α → Prop) (x : Reading α) : Prop :=
  ∀ p a p', x.run p = .ok (a, p') → P a

namespace Gives

variable {α β : Type} {P : α → Prop} {Q : β → Prop}

protected theorem pure {a : α} (h : P a) : Gives P (pure a : Reading α) := by
  rintro p _ p' ⟨⟩
  exact h

protected theorem throw (e : RegexMistake) : Gives P (throw e : Reading α) := by
  rintro p a p' ⟨⟩

theorem bind {x : Reading α} {f : α → Reading β} (hx : Gives P x) (hf : ∀ a, P a → Gives Q (f a)) :
    Gives Q (x >>= f) := by
  intro p b p' h
  rw [StateT.run_bind] at h
  cases hrun : x.run p with
  | error e =>
    rw [hrun] at h
    cases h
  | ok r =>
    rw [hrun] at h
    exact hf r.1 (hx p r.1 r.2 hrun) r.2 b p' h

/-- What was read before does not matter. -/
theorem andThen {x : Reading α} {f : α → Reading β} (hf : ∀ a, Gives Q (f a)) : Gives Q (x >>= f) :=
  bind (P := fun _ => True) (fun _ _ _ _ => trivial) fun a _ => hf a

end Gives

theorem countsGroups_ofList {rs : List Regex} (h : ∀ r ∈ rs, r.CountsGroups) :
    (ofList rs).CountsGroups := by
  have hfold (first : Regex) (hfirst : first.CountsGroups) (rs : List Regex) (h : ∀ r ∈ rs, r.CountsGroups) :
      (rs.foldl Regex.sequence first).CountsGroups := by
    induction rs generalizing first with
    | nil => exact hfirst
    | cons r rs ih =>
      obtain ⟨hr, hrs⟩ := List.forall_mem_cons.1 h
      exact ih _ ⟨hfirst, hr⟩ hrs
  cases rs with
  | nil => trivial
  | cons r rs =>
    obtain ⟨hr, hrs⟩ := List.forall_mem_cons.1 h
    exact hfold r hr rs hrs

theorem gives_readSet (d : RegexDialect) : Gives CountsGroups (readSet d) := by
  unfold readSet
  refine .andThen fun t => ?_
  repeat' first
    | exact .throw _
    | exact .pure trivial
    | refine .andThen fun _ => ?_
    | split

theorem gives_readRepeats (d : RegexDialect) (n : Nat) {r : Regex} (h : r.CountsGroups) :
    Gives CountsGroups (readRepeats d n r) := by
  induction n generalizing r with
  | zero => exact .pure h
  | succ n ih =>
    rw [readRepeats]
    refine .andThen fun t => ?_
    dsimp only
    -- an operator repeats what is there, and anything else leaves it
    split
    all_goals repeat' first
      | exact ih h
      | exact .pure h
      | exact .throw _
      | refine .andThen fun _ => ?_
      | split

theorem countsGroups_escaped (d : RegexDialect) (ended : List Nat) (c : Char) {r : Regex}
    (h : escaped d ended c = .ok r) : r.CountsGroups := by
  unfold escaped at h
  dsimp only at h
  repeat' split at h
  all_goals cases h <;> trivial

theorem gives_readBranch (d : RegexDialect) {group : Reading Regex} (hgroup : Gives CountsGroups group)
    (n : Nat) (isInGroup : Bool) {rs : List Regex} (h : ∀ r ∈ rs, r.CountsGroups) :
    Gives CountsGroups (readBranch d group n isInGroup rs) := by
  have hread {rs : List Regex} (h : ∀ r ∈ rs, r.CountsGroups) :
      Gives CountsGroups (pure (ofList rs.reverse) : Reading Regex) :=
    .pure (countsGroups_ofList fun r hr => h r (List.mem_reverse.1 hr))
  induction n generalizing rs with
  | zero => exact hread h
  | succ n ih =>
    have hpiece {r : Regex} (hr : r.CountsGroups) :
        Gives CountsGroups (do let r ← readRepeats d n r; readBranch d group n isInGroup (r :: rs)) :=
      (gives_readRepeats d n hr).bind fun _ hr => ih (List.forall_mem_cons.2 ⟨hr, h⟩)
    rw [readBranch]
    refine .andThen fun t => ?_
    dsimp only
    -- each way on ends the branch, refuses it, or reads a piece and goes on behind it
    split
    all_goals repeat' first
      | exact hread h
      | exact ih h
      | exact hpiece trivial
      | exact hpiece (countsGroups_escaped _ _ _ ‹_›)
      | exact hgroup.bind fun _ => hpiece
      | exact (gives_readSet d).bind fun _ => hpiece
      | exact .throw _
      | exact ih (List.forall_mem_cons.2 ⟨trivial, h⟩)
      | refine .andThen fun _ => ?_
      | split

theorem gives_readAlternatives (d : RegexDialect) {group : Reading Regex}
    (hgroup : Gives CountsGroups group) (isInGroup : Bool) (n : Nat) :
    Gives CountsGroups (readAlternatives d group isInGroup n) := by
  induction n with
  | zero => exact .pure trivial
  | succ n ih =>
    rw [readAlternatives]
    refine .andThen fun t => (gives_readBranch d hgroup _ isInGroup (by simp)).bind fun first hfirst =>
      .andThen fun t => ?_
    split
    · exact .andThen fun _ => ih.bind fun _ hr => .pure ⟨hfirst, hr⟩
    · exact .andThen fun _ => ih.bind fun _ hr => .pure ⟨hfirst, hr⟩
    · exact .pure hfirst

theorem gives_readGroup (d : RegexDialect) (n : Nat) : Gives CountsGroups (readGroup d n) := by
  induction n with
  | zero => exact .throw _
  | succ n ih =>
    rw [readGroup]
    refine .andThen fun p => .andThen fun _ => (gives_readAlternatives d ih true _).bind fun r hr =>
      .andThen fun t => ?_
    have hgroup : Gives CountsGroups (do
        modify fun q => { q with ended := (p.begun + 1) :: q.ended }
        return Regex.group (p.begun + 1) r) :=
      .andThen fun _ => .pure ⟨p.begun.succ_pos, hr⟩
    dsimp only
    split
    · exact .andThen fun _ => hgroup
    · exact .andThen fun _ => hgroup
    · exact .throw _

/-- The groups of an expression that is read are counted from one. -/
theorem countsGroups_read {d : RegexDialect} {t : Text} {r : Regex} {groups : Nat}
    (h : read d t = .ok (r, groups)) : r.CountsGroups := by
  rw [read] at h
  cases hrun : (readAlternatives d (readGroup d maxDepth) false (t.length + 1)).run ⟨t, 0, [], []⟩ with
  | error e =>
    rw [hrun] at h
    cases h
  | ok x =>
    rw [hrun] at h
    cases h
    exact gives_readAlternatives d (gives_readGroup d maxDepth) false _ _ _ _ hrun

theorem eq_matcher_of_boundedMatcher {r : Regex} {groups : Nat} {ignoresCase : Bool} {m : Matcher}
    (h : r.boundedMatcher groups ignoresCase = .ok m) : m = r.matcher groups ignoresCase := by
  rw [boundedMatcher] at h
  split at h
  · cases h
  · exact (Except.ok.inj h).symm

end JavacLauncher.Regex

namespace JavacLauncher.Matcher

open Regex

/-- The expression that is written is the one that is looked for. -/
theorem isFor_of_ofText {d : RegexDialect} {ignoresCase : Bool} {t : Text} {m : Matcher}
    (h : ofText d ignoresCase t = .ok m) :
    ∃ r groups, read d t = .ok (r, groups) ∧ m.IsFor r ∧ m.looksBack = r.looksBack := by
  rw [ofText] at h
  cases hread : read d t with
  | error e =>
    rw [hread] at h
    cases h
  | ok x =>
    obtain ⟨r, groups⟩ := x
    rw [hread] at h
    refine ⟨r, groups, rfl, ?_⟩
    obtain rfl := eq_matcher_of_boundedMatcher h
    exact ⟨rfl, rfl⟩

/-- **A search for an expression that is written.** Nothing is found just if the expression spans no part
of the text behind the place. What is found begins with the first part that it spans, and is the longest of
those that begin there. -/
theorem find?_ofText {d : RegexDialect} {ignoresCase : Bool} {written : Text} {m : Matcher}
    (h : ofText d ignoresCase written = .ok m) (hlooks : m.looksBack = false) (t : Array Char) (i : Nat) :
    ∃ r groups, read d written = .ok (r, groups) ∧
      (m.find? t i = none ↔ ∀ a b, i ≤ a → a ≤ t.size → ¬ r.Spans m t a b) ∧
      ∀ marks, m.find? t i = some marks →
        ∃ a b, marks.span? 0 = some (a, b) ∧ i ≤ a ∧ a ≤ t.size ∧ r.Spans m t a b ∧
          ∀ k j, i ≤ k → r.Spans m t k j → a ≤ k ∧ (k = a → j ≤ b) := by
  obtain ⟨r, groups, hread, hfor, -⟩ := isFor_of_ofText h
  refine ⟨r, groups, hread, find?_eq_none_iff hfor hlooks, fun marks hfind => ?_⟩
  obtain ⟨a, b, ha, hsize, hspans, hmarks, hfirst⟩ := find?_eq_some hfor hlooks hfind
  exact ⟨a, b, hmarks (countsGroups_read hread), ha, hsize, hspans, hfirst⟩

end JavacLauncher.Matcher
