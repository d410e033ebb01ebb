import JavacLauncher.Config.Basic

/-!
# What a file gives

A file gives some of the settings, as fields of an object in any order or as the items of an array.
Reading one goes through the fields and changes the settings one by one, so the end result could
depend on the order. It does not, because no setting may be given twice: once a field has set a
setting, no later field touches it (`ofFields?_given`, and for arrays `ofItems?_given`). So each
setting is the one that the file gives for it, or else the default (`ofJson?_given`).
-/

namespace JavacLauncher.Config

/-! ## One setting -/

/-- The value `v` of a file spells the setting `s` of `c`. -/
def Spelled (c : Config) (s : Setting) (v : Json) : Prop :=
  match s with
  | .selfArchive => optionalText? v = some c.selfArchive
  | .searchPaths => texts? v = some c.searchPaths
  | .compilerArchive => text? v = some c.compilerArchive
  | .javaHome => ∃ home?, optionalText? v = some home? ∧ c.javaHome = home?.map .ofText
  | .javaVersion => optionalText? v = some c.javaVersion
  | .invocation => invocation? v = some c.invocation

/-- `c` and `d` are the same in the setting `s`. -/
def Agree (c d : Config) (s : Setting) : Prop :=
  match s with
  | .selfArchive => c.selfArchive = d.selfArchive
  | .searchPaths => c.searchPaths = d.searchPaths
  | .compilerArchive => c.compilerArchive = d.compilerArchive
  | .javaHome => c.javaHome = d.javaHome
  | .javaVersion => c.javaVersion = d.javaVersion
  | .invocation => c.invocation = d.invocation

/-- The setting `s` of `c` is the one that is given, or else that of `d`. -/
def TakenFrom (c d : Config) (s : Setting) : Option Json → Prop
  | some v => c.Spelled s v
  | none => c.Agree d s

variable {c c' d : Config} {s : Setting} {v : Json} {name : Text} {seen : List Setting}
  {fields : List (Option Text × Json)}

theorem Agree.refl (c : Config) (s : Setting) : c.Agree c s := by
  cases s <;> rfl

theorem Agree.trans (h : c'.Agree c s) (hd : c.Agree d s) : c'.Agree d s := by
  cases s <;> exact Eq.trans h hd

theorem Spelled.of_agree (h : c.Spelled s v) (ha : c'.Agree c s) : c'.Spelled s v := by
  cases s <;> simp only [Spelled, Agree] at * <;> rw [ha] <;> exact h

theorem TakenFrom.of_agree {given? : Option Json} (h : c'.TakenFrom c s given?) (hd : c.Agree d s) :
    c'.TakenFrom d s given? := by
  cases given? with
  | some v => exact h
  | none => exact Agree.trans h hd

/-- Setting one of the settings sets it. -/
theorem spelled_of_set? (h : c.set? s v = some c') : c'.Spelled s v := by
  cases s <;> obtain ⟨x, hx, rfl⟩ := Option.map_eq_some_iff.mp h
  case javaHome => exact ⟨x, hx, rfl⟩
  all_goals exact hx

/-- Setting one of the settings leaves the others alone. -/
theorem agree_of_set? {other : Setting} (h : c.set? s v = some c') (hne : other ≠ s) :
    c'.Agree c other := by
  cases s <;> obtain ⟨x, _, rfl⟩ := Option.map_eq_some_iff.mp h <;> cases other <;>
    first | rfl | exact absurd rfl hne

theorem Setting.ofName?_eq_some_iff : Setting.ofName? name = some s ↔ name = s.name := by
  constructor
  · intro h
    simpa [eq_comm] using List.find?_some h
  · rintro rfl
    cases s <;> decide

theorem Setting.name_inj {s other : Setting} : s.name = other.name ↔ s = other := by
  constructor
  · intro h
    have hs : Setting.ofName? other.name = some s := Setting.ofName?_eq_some_iff.mpr h.symm
    rw [Setting.ofName?_eq_some_iff.mpr rfl] at hs
    exact (Option.some.inj hs).symm
  · rintro rfl
    rfl

theorem Setting.name_ne (h : Setting.ofName? name = none) (s : Setting) : s.name ≠ name := by
  rintro rfl
  rw [Setting.ofName?_eq_some_iff.mpr rfl] at h
  cases h

/-- An entry for another key is passed over. -/
theorem lookup_cons_of_ne {α β : Type} [BEq α] [LawfulBEq α] {key other : α} (h : key ≠ other)
    (b : β) (entries : List (α × β)) : ((other, b) :: entries).lookup key = entries.lookup key := by
  rw [List.lookup_cons, beq_false_of_ne h]

/-! ## All that a file gives -/

/-- What a value gives for a setting. -/
def given? : Json → Setting → Option Json
  | .object fields, s => fields.lookup (some s.name)
  | .array items, s => (Setting.all.zip items).lookup s
  | _, _ => none

/-- A field of another name is passed over. -/
theorem ofFields?_other (h : Setting.ofName? name = none) :
    ofFields? c seen ((some name, v) :: fields) = ofFields? c seen fields := by
  rw [ofFields?, h]

/-- A field for a setting sets it, unless it was set before. -/
theorem ofFields?_setting :
    ofFields? c seen ((some s.name, v) :: fields) =
      if s ∈ seen then none else (c.set? s v).bind fun c => ofFields? c (s :: seen) fields := by
  rw [ofFields?, Setting.ofName?_eq_some_iff.mpr rfl]
  rfl

/-- A field sets its setting for good: those in `seen` have no field any more. -/
theorem ofFields?_given (h : ofFields? c seen fields = some c') (s : Setting) :
    c'.TakenFrom c s (fields.lookup (some s.name)) ∧
      (s ∈ seen → fields.lookup (some s.name) = none) := by
  induction fields generalizing c seen with
  | nil =>
    obtain rfl := Option.some.inj h
    exact ⟨.refl c s, fun _ => rfl⟩
  | cons field fields ih =>
    obtain ⟨_ | name, v⟩ := field
    · cases h
    cases hname : Setting.ofName? name with
    | none =>
      -- a field of another name
      have hne : some s.name ≠ some name := fun heq =>
        Setting.name_ne hname s (Option.some.inj heq)
      rw [ofFields?_other hname] at h
      rw [lookup_cons_of_ne hne]
      exact ih h
    | some first =>
      obtain rfl := Setting.ofName?_eq_some_iff.mp hname
      rw [ofFields?_setting] at h
      obtain ⟨hunseen, h⟩ := Option.ite_none_left_eq_some.mp h
      obtain ⟨c₁, hset, hrest⟩ := Option.bind_eq_some_iff.mp h
      obtain ⟨htaken, hseen⟩ := ih hrest
      by_cases hs : s = first
      · -- the field of `s` itself; no later one may set it again
        subst hs
        have hgone := hseen List.mem_cons_self
        rw [hgone] at htaken
        rw [List.lookup_cons_self]
        exact ⟨(spelled_of_set? hset).of_agree htaken, fun hmem => absurd hmem hunseen⟩
      · have hne : some s.name ≠ some first.name := fun heq =>
          hs (Setting.name_inj.mp (Option.some.inj heq))
        rw [lookup_cons_of_ne hne]
        exact ⟨htaken.of_agree (agree_of_set? hset hs),
          fun hmem => hseen (List.mem_cons_of_mem first hmem)⟩

/-- An item sets the setting at its place, and no other item has that place. -/
theorem ofItems?_given {settings : List Setting} {items : List Json} (hnodup : settings.Nodup)
    (h : ofItems? c settings items = some c') (s : Setting) :
    c'.TakenFrom c s ((settings.zip items).lookup s) ∧
      (s ∉ settings → (settings.zip items).lookup s = none) := by
  induction settings generalizing c items with
  | nil =>
    cases items with
    | nil =>
      obtain rfl := Option.some.inj h
      exact ⟨.refl c s, fun _ => rfl⟩
    | cons v items => cases h
  | cons first settings ih =>
    cases items with
    | nil =>
      obtain rfl := Option.some.inj h
      exact ⟨.refl c s, fun _ => rfl⟩
    | cons v items =>
      obtain ⟨c₁, hset, hrest⟩ := Option.bind_eq_some_iff.mp h
      obtain ⟨hfirst, hnodup⟩ := List.nodup_cons.mp hnodup
      obtain ⟨htaken, hplace⟩ := ih hnodup hrest
      rw [List.zip_cons_cons]
      by_cases hs : s = first
      · subst hs
        -- the place of `s` is behind, so the rest leaves it alone
        rw [hplace hfirst] at htaken
        rw [List.lookup_cons_self]
        exact ⟨(spelled_of_set? hset).of_agree htaken, fun hmem => absurd List.mem_cons_self hmem⟩
      · rw [lookup_cons_of_ne hs]
        exact ⟨htaken.of_agree (agree_of_set? hset hs),
          fun hmem => hplace fun hin => hmem (List.mem_cons_of_mem first hin)⟩

/-- **Each setting is the one that the file gives for it, or else the default.** -/
theorem ofJson?_given {json : Json} (h : ofJson? json = some c) (s : Setting) :
    c.TakenFrom default s (given? json s) := by
  cases json with
  | object fields => exact (ofFields?_given h s).1
  | array items => exact (ofItems?_given (by decide) h s).1
  | _ => cases h

end JavacLauncher.Config
