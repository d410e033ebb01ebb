import JavacLauncher.Config.Basic
import JavacLauncher.Proofs.Text.Trim
import Mathlib.Data.List.Induction

/-!
# Settings under one environment after the other

Applying an environment to settings may fail halfway: a bad invocation leaves the texts before it
changed and the home behind it untouched. So what a step does to the settings is said without looking
at its outcome (`overridden`): a failing step offers no mode and no home (`offeredMode?`,
`offeredHome?`), and apart from that it follows the same three rules as any other step.

From there a run over several environments is an induction from its end (`overrideAll_eq`). The texts
and the invocation are those of the last step that has one to offer, the home is that of the first
step, and what the settings begin with counts as a step before all others. The home alone looks at
what the settings already hold, which is why it never changes once it is there.
-/

namespace JavacLauncher

/-! ## How a mode is spelled -/

namespace Invocation

/-- A text that spells `i`: the name, in capitals or not, between white space. -/
def Spells (t : Text) (i : Invocation) : Prop :=
  ∃ lead word tail, Text.AllBlank lead ∧ Text.AllBlank tail ∧ t = lead ++ word ++ tail ∧
    word.lowercaseAscii = i.name

theorem notBlank_of_mem_name {i : Invocation} : ∀ c ∈ i.name, Text.isBlank c = false := by
  have hany : i.name.any Text.isBlank = false := by cases i <;> rfl
  simpa using hany

/-- White space has no capitals. -/
theorem toLower_of_isBlank {c : Char} (h : Text.isBlank c = true) : c.toLower = c := by
  have hcapital : ¬ (65 ≤ c.toNat ∧ c.toNat ≤ 90) := by
    simp only [Text.isBlank, Bool.or_eq_true, Bool.and_eq_true, decide_eq_true_eq, beq_iff_eq] at h
    omega
  exact dif_neg hcapital

theorem spells_iff {t : Text} {i : Invocation} : Spells t i ↔ t.trim.lowercaseAscii = i.name := by
  constructor
  · rintro ⟨lead, word, tail, hlead, htail, rfl, hword⟩
    -- a blank in the word would be its own small letter, and the names have none
    have hclear : ∀ c ∈ word, Text.isBlank c = false := by
      intro c hc
      cases hblank : Text.isBlank c with
      | false => rfl
      | true =>
        have hmem : c.toLower ∈ i.name := hword ▸ List.mem_map_of_mem hc
        rw [toLower_of_isBlank hblank] at hmem
        exact hblank.symm.trans (notBlank_of_mem_name c hmem)
    rw [Text.trim_surrounded hlead htail hclear, hword]
  · intro h
    obtain ⟨lead, tail, hlead, htail, hsplit⟩ := Text.exists_trim t
    exact ⟨lead, t.trim, tail, hlead, htail, hsplit, h⟩

instance (t : Text) (i : Invocation) : Decidable (Spells t i) := decidable_of_iff _ spells_iff.symm

/-- The mode that a text spells. -/
def spelled? (t : Text) : Option Invocation := [spawn, shell].find? fun i => Spells t i

theorem ofName?_eq_some_iff {word : Text} {i : Invocation} : ofName? word = some i ↔ word = i.name := by
  constructor
  · intro h
    simpa [eq_comm] using List.find?_some h
  · rintro rfl
    cases i <;> rfl

theorem spelled?_eq_ofName? (t : Text) : spelled? t = ofName? t.trim.lowercaseAscii := by
  have hspells : ∀ i : Invocation, decide (Spells t i) = decide (i.name = t.trim.lowercaseAscii) :=
    fun i => decide_eq_decide.mpr (spells_iff.trans eq_comm)
  unfold spelled? ofName?
  simp only [hspells]

/-- No text spells two modes. -/
theorem spelled?_eq_some_iff {t : Text} {i : Invocation} : spelled? t = some i ↔ Spells t i := by
  rw [spelled?_eq_ofName?, ofName?_eq_some_iff, spells_iff]

/-- **A setting is read as the mode that it spells.** -/
theorem parse_of_spelled? {t : Text} {i : Invocation} (h : spelled? t = some i) : parse t = .ok i := by
  rw [spelled?_eq_ofName?] at h
  unfold parse
  dsimp only
  rw [h]

/-- A setting that spells no mode is refused. -/
theorem parse_of_spelled?_eq_none {t : Text} (h : spelled? t = none) :
    ∃ reason, parse t = .error (.invalidConfig reason) := by
  rw [spelled?_eq_ofName?] at h
  unfold parse
  dsimp only
  rw [h]
  exact ⟨_, rfl⟩

end Invocation

namespace Config

variable (valueOf? : Text → Option Text) (c : Config)

/-! ## One step -/

/-- An environment is accepted if it gives no invocation or one that spells a mode. -/
def Accepted : Prop := ∀ t ∈ valueOf? invocationVariable, ∃ i, Invocation.Spells t i

/-- The mode that an environment offers. -/
def offeredMode? : Option Invocation := (valueOf? invocationVariable).bind Invocation.spelled?

theorem accepted_iff : Accepted valueOf? ↔
    valueOf? invocationVariable = none ∨ (offeredMode? valueOf?).isSome := by
  unfold Accepted offeredMode?
  cases valueOf? invocationVariable with
  | none => simp
  | some t => simp [Option.isSome_iff_exists, Invocation.spelled?_eq_some_iff]

instance : Decidable (Accepted valueOf?) := decidable_of_iff _ (accepted_iff valueOf?).symm

/-- The home that an environment offers: one that is not blank, unless the environment is not
accepted. -/
def offeredHome? : Option Path :=
  if Accepted valueOf? then
    ((valueOf? javaHomeVariable).filter fun home => ¬ Text.AllBlank home).map .ofText
  else none

/-- The settings after a step, whether it fails or not. -/
def overridden : Config where
  selfArchive := (valueOf? selfArchiveVariable).or c.selfArchive
  searchPaths := c.searchPaths
  compilerArchive := c.compilerArchive
  javaHome := c.javaHome.or (offeredHome? valueOf?)
  javaVersion := (valueOf? javaVersionVariable).or c.javaVersion
  invocation := (offeredMode? valueOf?).getD c.invocation

theorem environmentHome?_eq :
    environmentHome? valueOf? =
      ((valueOf? javaHomeVariable).filter fun home => ¬ Text.AllBlank home).map .ofText := by
  have hblank : ∀ home : Text, decide (home.trim ≠ []) = decide (¬ Text.AllBlank home) :=
    fun home => decide_eq_decide.mpr (not_congr Text.trim_eq_nil_iff)
  unfold environmentHome?
  simp only [hblank]

/-- A step succeeds if the environment is accepted. -/
theorem override_of_accepted (h : Accepted valueOf?) :
    c.override valueOf? = (c.overridden valueOf?, .ok ()) := by
  unfold override overridden offeredHome?
  rw [if_pos h, ← environmentHome?_eq]
  unfold offeredMode?
  rcases (accepted_iff valueOf?).mp h with hnone | hmode
  · rw [hnone]
    rfl
  · obtain ⟨i, hi⟩ := Option.isSome_iff_exists.mp hmode
    obtain ⟨t, ht, hspelled⟩ := Option.bind_eq_some_iff.mp hi
    rw [ht]
    dsimp only [Option.mapM, Option.bind]
    rw [Invocation.parse_of_spelled? hspelled, hspelled]
    rfl

/-- Otherwise it fails on the invocation, and what comes before that is done. -/
theorem override_of_not_accepted (h : ¬ Accepted valueOf?) :
    ∃ reason, c.override valueOf? = (c.overridden valueOf?, .error (.invalidConfig reason)) := by
  obtain ⟨hsome, hmode⟩ := not_or.mp (mt (accepted_iff valueOf?).mpr h)
  obtain ⟨t, ht⟩ := Option.ne_none_iff_exists'.mp hsome
  have hspelled : Invocation.spelled? t = none := by
    unfold offeredMode? at hmode
    rw [ht] at hmode
    simpa using hmode
  obtain ⟨reason, hparse⟩ := Invocation.parse_of_spelled?_eq_none hspelled
  refine ⟨reason, ?_⟩
  unfold override overridden offeredHome? offeredMode?
  -- nothing is offered, so both sides keep the mode and the home
  rw [if_neg h, Option.or_none, ht]
  dsimp only [Option.mapM, Option.bind]
  rw [hparse, hspelled]
  rfl

theorem override_cases :
    (Accepted valueOf? ∧ c.override valueOf? = (c.overridden valueOf?, .ok ())) ∨
      (¬ Accepted valueOf? ∧
        ∃ reason, c.override valueOf? = (c.overridden valueOf?, .error (.invalidConfig reason))) := by
  by_cases h : Accepted valueOf?
  · exact .inl ⟨h, override_of_accepted valueOf? c h⟩
  · exact .inr ⟨h, override_of_not_accepted valueOf? c h⟩

theorem fst_override : (c.override valueOf?).1 = c.overridden valueOf? := by
  rcases override_cases valueOf? c with ⟨_, hstep⟩ | ⟨_, reason, hstep⟩ <;> rw [hstep]

theorem snd_override_eq_ok_iff : (c.override valueOf?).2 = .ok () ↔ Accepted valueOf? := by
  rcases override_cases valueOf? c with ⟨h, hstep⟩ | ⟨h, reason, hstep⟩ <;> simp [hstep, h]

theorem snd_override_eq_error_iff :
    (∃ reason, (c.override valueOf?).2 = .error (.invalidConfig reason)) ↔ ¬ Accepted valueOf? := by
  rcases override_cases valueOf? c with ⟨h, hstep⟩ | ⟨h, reason, hstep⟩ <;> simp [hstep, h]

/-- Whether a step fails, and how, does not depend on the settings. -/
theorem snd_override_congr (c' : Config) : (c.override valueOf?).2 = (c'.override valueOf?).2 := by
  unfold override
  dsimp only
  cases (valueOf? invocationVariable).mapM Invocation.parse <;> rfl

theorem overridden_overridden :
    (c.overridden valueOf?).overridden valueOf? = c.overridden valueOf? := by
  unfold overridden
  congr 1
  · cases valueOf? selfArchiveVariable <;> rfl
  · cases c.javaHome <;> cases offeredHome? valueOf? <;> rfl
  · cases valueOf? javaVersionVariable <;> rfl
  · cases offeredMode? valueOf? <;> rfl

/-- A step that is made again right away changes nothing and comes to the same. -/
theorem override_override :
    (c.override valueOf?).1.override valueOf? = c.override valueOf? := by
  refine Prod.ext ?_ (snd_override_congr valueOf? _ c)
  rw [fst_override, fst_override, overridden_overridden]

/-! ## Any number of steps -/

/-- The settings after one environment after the other, whatever steps fail. -/
def overrideAll (environments : List (Text → Option Text)) : Config :=
  environments.foldl (fun c valueOf? => (c.override valueOf?).1) c

theorem overrideAll_append (earlier later : List (Text → Option Text)) :
    c.overrideAll (earlier ++ later) = (c.overrideAll earlier).overrideAll later :=
  List.foldl_append

theorem overrideAll_concat (earlier : List (Text → Option Text)) (last : Text → Option Text) :
    c.overrideAll (earlier ++ [last]) = (c.overrideAll earlier).overridden last := by
  rw [overrideAll_append]
  exact fst_override last _

/-- The last value that `f` finds in a list. -/
def last? {α β : Type} (f : α → Option β) (l : List α) : Option β := (l.filterMap f).getLast?

theorem last?_concat {α β : Type} (f : α → Option β) (l : List α) (a : α) :
    last? f (l ++ [a]) = (f a).or (last? f l) := by
  unfold last?
  rw [List.filterMap_append, List.getLast?_append]
  cases h : f a <;> simp [h]

/-- What environments make of settings, one after the other: the texts and the mode that were offered
last, the home that was there first, and everything else as it was. -/
def combined (environments : List (Text → Option Text)) : Config where
  selfArchive := (last? (fun valueOf? => valueOf? selfArchiveVariable) environments).or c.selfArchive
  searchPaths := c.searchPaths
  compilerArchive := c.compilerArchive
  javaHome := c.javaHome.or (environments.findSome? offeredHome?)
  javaVersion := (last? (fun valueOf? => valueOf? javaVersionVariable) environments).or c.javaVersion
  invocation := (last? offeredMode? environments).getD c.invocation

theorem combined_concat (earlier : List (Text → Option Text)) (last : Text → Option Text) :
    c.combined (earlier ++ [last]) = (c.combined earlier).overridden last := by
  unfold combined overridden
  dsimp only
  -- the new step is looked at first for the last values, and last for the home
  rw [last?_concat, last?_concat, last?_concat, List.findSome?_append, List.findSome?_singleton,
    Option.or_assoc, Option.or_assoc, Option.or_assoc, Option.getD_or]

theorem overrideAll_eq (environments : List (Text → Option Text)) :
    c.overrideAll environments = c.combined environments := by
  induction environments using List.reverseRecOn with
  | nil => simp [overrideAll, combined, last?]
  | append_singleton earlier last ih => rw [overrideAll_concat, combined_concat, ih]

/-- A home that is there stays. -/
theorem javaHome_overrideAll {home : Path} (h : c.javaHome = some home)
    (environments : List (Text → Option Text)) :
    (c.overrideAll environments).javaHome = some home := by
  rw [overrideAll_eq]
  unfold combined
  rw [h, Option.some_or]

/--
**Texts and mode come from the last step that offers them, the home from the first one.**

This holds whatever steps fail. A step fails exactly if it gives an invocation that spells no mode, and
making a step twice is making it once.
-/
theorem overrideAll_rules (environments later : List (Text → Option Text)) :
    c.overrideAll environments = c.combined environments ∧
    (∀ home ∈ (c.overrideAll environments).javaHome,
      (c.overrideAll (environments ++ later)).javaHome = some home) ∧
    let step := (c.overrideAll environments).override valueOf?
    (step.2 = .ok () ↔ Accepted valueOf?) ∧
    ((∃ reason, step.2 = .error (.invalidConfig reason)) ↔ ¬ Accepted valueOf?) ∧
    step.1.override valueOf? = step := by
  refine ⟨overrideAll_eq c environments, ?_, snd_override_eq_ok_iff valueOf? _,
    snd_override_eq_error_iff valueOf? _, override_override valueOf? _⟩
  intro home hhome
  rw [overrideAll_append]
  exact javaHome_overrideAll _ hhome later

/-- The second step fails. Its archive counts all the same, its home does not. -/
example :
    let environments : List (List (Text × Text)) :=
      [[(invocationVariable, "\tShell ".toList), (javaHomeVariable, " ".toList)],
        [(selfArchiveVariable, "/opt/checkers.jar".toList), (invocationVariable, "fork".toList),
          (javaHomeVariable, "/opt/jdk6".toList)],
        [(javaHomeVariable, "/opt/jdk7".toList)]]
    Config.default.overrideAll (environments.map fun entries name => entries.lookup name) =
      { Config.default with
        selfArchive := some "/opt/checkers.jar".toList
        javaHome := some (.ofString "/opt/jdk7")
        invocation := .shell } := by
  decide

end Config
end JavacLauncher
