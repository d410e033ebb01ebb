import JavacLauncher.Proofs.Config.Fields
import JavacLauncher.Proofs.Config.Overrides

/-!
# Objects with their fields in any order

Reading an object goes through its fields and fills the settings one after the other, with the defaults
in what is not filled yet and a list of what must not come again. What the object says has nothing to do
with that order. Which objects can be read is said by `Readable`, and what comes of them by `ReadsAs`;
neither looks at the order, and both pass over fields of other names.

Two questions are kept apart. Whether the reading goes through is settled by one induction, in which the
fields that are still to come decide (`exists_ofFields?_iff`): the settings that were filled before must
not have a field among them. What is read if it goes through is known already (`ofFields?_given`), and it
is determined by the fields of each setting (`ReadsAs.eq`), so that objects with the same fields for the
settings give the same result.
-/

namespace JavacLauncher.Config

variable {c c' d : Config} {s : Setting} {v : Json}

/-! ## Values -/

/-- The value `v` is how the setting `s` of `c` is written in a file. -/
inductive WrittenAs (c : Config) : Setting → Json → Prop where
  | selfArchive {t : Text} :
      c.selfArchive = some t → WrittenAs c .selfArchive (.string (some t))
  | noSelfArchive : c.selfArchive = none → WrittenAs c .selfArchive .null
  | searchPaths {ts : List Text} :
      c.searchPaths = ts → WrittenAs c .searchPaths (.array (ts.map fun t => .string (some t)))
  | compilerArchive {t : Text} :
      c.compilerArchive = t → WrittenAs c .compilerArchive (.string (some t))
  | javaHome {t : Text} :
      c.javaHome = some (.ofText t) → WrittenAs c .javaHome (.string (some t))
  | noJavaHome : c.javaHome = none → WrittenAs c .javaHome .null
  | javaVersion {t : Text} :
      c.javaVersion = some t → WrittenAs c .javaVersion (.string (some t))
  | noJavaVersion : c.javaVersion = none → WrittenAs c .javaVersion .null
  | invocation {i : Invocation} :
      c.invocation = i → WrittenAs c .invocation (.string (some i.name))
  /-- A mode may also be the name of a field that has no value. -/
  | invocationField {i : Invocation} :
      c.invocation = i → WrittenAs c .invocation (.object [(some i.name, .null)])

/-- The value `v` is of the type of the setting `s`. -/
def Setting.Admits (s : Setting) (v : Json) : Prop := ∃ c : Config, c.WrittenAs s v

theorem text?_eq_some_iff {t : Text} : text? v = some t ↔ v = .string (some t) := by
  cases v <;> simp [text?]

theorem optionalText?_eq_some_iff {t? : Option Text} :
    optionalText? v = some t? ↔
      (v = .null ∧ t? = none) ∨ ∃ t, v = .string (some t) ∧ t? = some t := by
  cases v with
  | null => simp [optionalText?, eq_comm]
  | string content? => cases content? <;> simp [optionalText?, text?, eq_comm]
  | _ => simp [optionalText?, text?]

theorem texts?_eq_some_iff {ts : List Text} :
    texts? v = some ts ↔ v = .array (ts.map fun t => .string (some t)) := by
  cases v with
  | array items =>
    rw [texts?, mapM_eq_some_iff_eq_map fun _ _ => text?_eq_some_iff, Json.array.injEq]
  | _ => simp [texts?]

theorem invocation?_eq_some_iff {i : Invocation} :
    invocation? v = some i ↔
      v = .string (some i.name) ∨ v = .object [(some i.name, .null)] := by
  unfold invocation?
  split
  · simp [Invocation.ofName?_eq_some_iff]
  · simp [Invocation.ofName?_eq_some_iff]
  · rename_i hstring hobject
    simp only [reduceCtorEq, false_iff, not_or]
    exact ⟨hstring _, hobject _⟩

/-- What the readers of values accept is what is written. -/
theorem spelled_iff_writtenAs : c.Spelled s v ↔ c.WrittenAs s v := by
  constructor
  · intro h
    cases s with
    | selfArchive =>
      rcases optionalText?_eq_some_iff.mp h with ⟨rfl, hc⟩ | ⟨t, rfl, hc⟩
      · exact .noSelfArchive hc
      · exact .selfArchive hc
    | searchPaths =>
      obtain rfl := texts?_eq_some_iff.mp h
      exact .searchPaths rfl
    | compilerArchive =>
      obtain rfl := text?_eq_some_iff.mp h
      exact .compilerArchive rfl
    | javaHome =>
      obtain ⟨home?, hread, hc⟩ := h
      rcases optionalText?_eq_some_iff.mp hread with ⟨rfl, rfl⟩ | ⟨t, rfl, rfl⟩
      · exact .noJavaHome hc
      · exact .javaHome hc
    | javaVersion =>
      rcases optionalText?_eq_some_iff.mp h with ⟨rfl, hc⟩ | ⟨t, rfl, hc⟩
      · exact .noJavaVersion hc
      · exact .javaVersion hc
    | invocation =>
      rcases invocation?_eq_some_iff.mp h with rfl | rfl
      · exact .invocation rfl
      · exact .invocationField rfl
  · intro h
    cases h with
    | selfArchive hc => exact optionalText?_eq_some_iff.mpr (.inr ⟨_, rfl, hc⟩)
    | noSelfArchive hc => exact optionalText?_eq_some_iff.mpr (.inl ⟨rfl, hc⟩)
    | searchPaths hc => exact texts?_eq_some_iff.mpr (by rw [hc])
    | compilerArchive hc => exact text?_eq_some_iff.mpr (by rw [hc])
    | javaHome hc => exact ⟨_, optionalText?_eq_some_iff.mpr (.inr ⟨_, rfl, rfl⟩), hc⟩
    | noJavaHome hc => exact ⟨_, optionalText?_eq_some_iff.mpr (.inl ⟨rfl, rfl⟩), hc⟩
    | javaVersion hc => exact optionalText?_eq_some_iff.mpr (.inr ⟨_, rfl, hc⟩)
    | noJavaVersion hc => exact optionalText?_eq_some_iff.mpr (.inl ⟨rfl, hc⟩)
    | invocation hc => exact invocation?_eq_some_iff.mpr (.inl (by rw [hc]))
    | invocationField hc => exact invocation?_eq_some_iff.mpr (.inr (by rw [hc]))

/-- A value is never how two different things are written. -/
theorem WrittenAs.agree (h : c.WrittenAs s v) (hd : d.WrittenAs s v) : c.Agree d s := by
  rw [← spelled_iff_writtenAs] at h hd
  cases s
  case javaHome =>
    obtain ⟨home?, hread, hc⟩ := h
    obtain ⟨other?, hother, hd⟩ := hd
    obtain rfl := Option.some.inj (hread.symm.trans hother)
    exact hc.trans hd.symm
  all_goals exact Option.some.inj (h.symm.trans hd)

theorem Agree.symm (h : c.Agree d s) : d.Agree c s := by
  cases s <;> exact Eq.symm h

/-- Settings are the same if each one of them is. -/
theorem eq_of_agree (h : ∀ s, c.Agree d s) : c = d := by
  have hselfArchive := h .selfArchive
  have hsearchPaths := h .searchPaths
  have hcompilerArchive := h .compilerArchive
  have hjavaHome := h .javaHome
  have hjavaVersion := h .javaVersion
  have hinvocation := h .invocation
  cases c
  cases d
  dsimp only [Agree] at *
  subst hselfArchive hsearchPaths hcompilerArchive hjavaHome hjavaVersion hinvocation
  rfl

/-- A setting can be set to the values of its type, whatever the settings are. -/
theorem exists_set?_iff (c : Config) : (∃ c', c.set? s v = some c') ↔ s.Admits v := by
  constructor
  · rintro ⟨c', h⟩
    exact ⟨c', spelled_iff_writtenAs.mp (spelled_of_set? h)⟩
  · rintro ⟨d, h⟩
    have hd := spelled_iff_writtenAs.mpr h
    cases s
    case javaHome =>
      obtain ⟨home?, hread, _⟩ := hd
      exact ⟨_, Option.map_eq_some_iff.mpr ⟨_, hread, rfl⟩⟩
    all_goals exact ⟨_, Option.map_eq_some_iff.mpr ⟨_, hd, rfl⟩⟩

/-! ## Fields -/

variable {name : Text} {fields : List (Option Text × Json)}

/-- One of the fields is for the setting `s`. -/
def Setting.IsGiven (s : Setting) (fields : List (Option Text × Json)) : Prop :=
  ∃ v, (some s.name, v) ∈ fields

/-- The fields can be read: their names are texts, with no half of a surrogate pair on its own, and the
settings have at most one field each, with a value of the right type. Fields of other names may come more
than once and hold anything. -/
structure Readable (fields : List (Option Text × Json)) : Prop where
  named : ∀ field ∈ fields, field.1.isSome
  once : ∀ s : Setting, (fields.map Prod.fst).count (some s.name) ≤ 1
  admitted : ∀ (s : Setting) (v : Json), (some s.name, v) ∈ fields → s.Admits v

/-- The settings `c` are what the fields say: each setting as in its field, or else the default. -/
structure ReadsAs (fields : List (Option Text × Json)) (c : Config) : Prop where
  given : ∀ (s : Setting) (v : Json), (some s.name, v) ∈ fields → c.WrittenAs s v
  absent : ∀ s : Setting, ¬ s.IsGiven fields → c.Agree default s

theorem Setting.isGiven_iff : s.IsGiven fields ↔ some s.name ∈ fields.map Prod.fst := by
  simp [IsGiven]

/-- **The fields for the settings determine what is read.** -/
theorem ReadsAs.eq {fields' : List (Option Text × Json)} (h : ReadsAs fields c)
    (h' : ReadsAs fields' c')
    (hsame : ∀ (s : Setting) (v : Json), (some s.name, v) ∈ fields ↔ (some s.name, v) ∈ fields') :
    c = c' := by
  refine eq_of_agree fun s => ?_
  by_cases hgiven : s.IsGiven fields
  · obtain ⟨v, hv⟩ := hgiven
    exact (h.given s v hv).agree (h'.given s v ((hsame s v).mp hv))
  · have hgiven' : ¬ s.IsGiven fields' := fun ⟨v, hv⟩ => hgiven ⟨v, (hsame s v).mpr hv⟩
    exact (h.absent s hgiven).trans (h'.absent s hgiven').symm

theorem isGiven_cons_other (h : Setting.ofName? name = none) :
    s.IsGiven ((some name, v) :: fields) ↔ s.IsGiven fields := by
  rw [Setting.isGiven_iff, Setting.isGiven_iff]
  simp [Setting.name_ne h s]

theorem isGiven_cons_setting {other : Setting} :
    other.IsGiven ((some s.name, v) :: fields) ↔ other = s ∨ other.IsGiven fields := by
  rw [Setting.isGiven_iff, Setting.isGiven_iff]
  simp [Setting.name_inj]

theorem readable_nil : Readable [] where
  named := nofun
  once := fun _ => Nat.zero_le 1
  admitted := nofun

theorem Readable.tail {field : Option Text × Json} (h : Readable (field :: fields)) :
    Readable fields where
  named := fun _ hmem => h.named _ (List.mem_cons_of_mem field hmem)
  once := fun s => Nat.le_trans List.count_le_count_cons (h.once s)
  admitted := fun s v hmem => h.admitted s v (List.mem_cons_of_mem field hmem)

/-- A field of another name makes no difference. -/
theorem readable_cons_other (h : Setting.ofName? name = none) :
    Readable ((some name, v) :: fields) ↔ Readable fields := by
  refine ⟨Readable.tail, fun hfields => ⟨?_, fun s => ?_, fun s w hmem => ?_⟩⟩
  · exact List.forall_mem_cons.mpr ⟨rfl, hfields.named⟩
  · have hne : some name ≠ some s.name := fun heq => Setting.name_ne h s (Option.some.inj heq).symm
    rw [List.map_cons, List.count_cons_of_ne hne]
    exact hfields.once s
  · rcases List.mem_cons.mp hmem with heq | hmem
    · exact absurd (Option.some.inj (Prod.mk.inj heq).1) (Setting.name_ne h s)
    · exact hfields.admitted s w hmem

/-- A field for a setting has a value of its type, and no other field is for that setting. -/
theorem readable_cons_setting :
    Readable ((some s.name, v) :: fields) ↔ s.Admits v ∧ ¬ s.IsGiven fields ∧ Readable fields := by
  constructor
  · intro h
    refine ⟨h.admitted s v List.mem_cons_self, ?_, h.tail⟩
    have honce := h.once s
    rw [List.map_cons, List.count_cons_self] at honce
    rw [Setting.isGiven_iff, ← List.count_eq_zero]
    omega
  · rintro ⟨hadmits, hgone, hfields⟩
    refine ⟨List.forall_mem_cons.mpr ⟨rfl, hfields.named⟩, fun other => ?_, fun other w hmem => ?_⟩
    · by_cases hother : other = s
      · subst hother
        rw [Setting.isGiven_iff, ← List.count_eq_zero] at hgone
        rw [List.map_cons, List.count_cons_self]
        omega
      · have hne : some s.name ≠ some other.name := fun heq =>
          hother (Setting.name_inj.mp (Option.some.inj heq).symm)
        rw [List.map_cons, List.count_cons_of_ne hne]
        exact hfields.once other
    · rcases List.mem_cons.mp hmem with heq | hmem
      · obtain ⟨hname, rfl⟩ := Prod.mk.inj heq
        obtain rfl := Setting.name_inj.mp (Option.some.inj hname)
        exact hadmits
      · exact hfields.admitted other w hmem

/-! ## Reading fields -/

variable {seen : List Setting}

/-- **Which fields can be read**: readable ones, unless one of them is for a setting in `seen`. -/
theorem exists_ofFields?_iff :
    (∃ c', ofFields? c seen fields = some c') ↔ Readable fields ∧ ∀ s ∈ seen, ¬ s.IsGiven fields := by
  induction fields generalizing c seen with
  | nil =>
    refine ⟨fun _ => ⟨readable_nil, ?_⟩, fun _ => ⟨c, rfl⟩⟩
    rintro s _ ⟨v, hmem⟩
    exact absurd hmem List.not_mem_nil
  | cons field fields ih =>
    obtain ⟨_ | name, v⟩ := field
    · constructor
      · rintro ⟨c', h⟩
        cases h
      · rintro ⟨h, _⟩
        exact absurd (h.named _ List.mem_cons_self) Bool.false_ne_true
    cases hname : Setting.ofName? name with
    | none =>
      rw [ofFields?_other hname, readable_cons_other hname, ih]
      simp only [isGiven_cons_other hname]
    | some s =>
      obtain rfl := Setting.ofName?_eq_some_iff.mp hname
      rw [ofFields?_setting, readable_cons_setting]
      simp only [isGiven_cons_setting, not_or]
      constructor
      · rintro ⟨c', h⟩
        obtain ⟨hunseen, h⟩ := Option.ite_none_left_eq_some.mp h
        obtain ⟨c₁, hset, hrest⟩ := Option.bind_eq_some_iff.mp h
        obtain ⟨hfields, hfree⟩ := ih.mp ⟨c', hrest⟩
        obtain ⟨hgone, hfree⟩ := List.forall_mem_cons.mp hfree
        refine ⟨⟨(exists_set?_iff c).mp ⟨c₁, hset⟩, hgone, hfields⟩, fun other hother => ?_⟩
        exact ⟨fun heq => hunseen (heq ▸ hother), hfree other hother⟩
      · rintro ⟨⟨hadmits, hgone, hfields⟩, hfree⟩
        have hunseen : s ∉ seen := fun hmem => (hfree s hmem).1 rfl
        obtain ⟨c₁, hset⟩ := (exists_set?_iff c).mpr hadmits
        -- `s` is filled now, and no field that is left is for it
        obtain ⟨c', hrest⟩ := ih.mpr
          ⟨hfields, List.forall_mem_cons.mpr ⟨hgone, fun other hother => (hfree other hother).2⟩⟩
        exact ⟨c', Option.ite_none_left_eq_some.mpr
          ⟨hunseen, Option.bind_eq_some_iff.mpr ⟨c₁, hset, hrest⟩⟩⟩

theorem readable_iff : Readable fields ↔ ∃ c, ofFields? default [] fields = some c := by
  rw [exists_ofFields?_iff]
  exact ⟨fun h => ⟨h, nofun⟩, fun h => h.1⟩

instance (fields : List (Option Text × Json)) : Decidable (Readable fields) :=
  decidable_of_iff ((ofFields? default [] fields).isSome)
    (Option.isSome_iff_exists.trans readable_iff.symm)

/-- The only field for a setting is the one that is looked up. -/
theorem Readable.lookup_eq (h : Readable fields) (hmem : (some s.name, v) ∈ fields) :
    fields.lookup (some s.name) = some v := by
  obtain ⟨before, after, rfl⟩ := List.append_of_mem hmem
  refine List.lookup_eq_some_iff.mpr ⟨before, after, rfl, fun field hfield => ?_⟩
  have honce := h.once s
  rw [List.map_append, List.count_append, List.map_cons, List.count_cons_self] at honce
  have hnone : some s.name ∉ before.map Prod.fst := by
    rw [← List.count_eq_zero]
    omega
  rw [bne_iff_ne]
  exact fun heq => hnone (heq ▸ List.mem_map_of_mem hfield)

/-- What is read is what the fields say. -/
theorem readsAs_of_ofFields? (h : ofFields? default [] fields = some c) : ReadsAs fields c := by
  have hfields : Readable fields := readable_iff.mpr ⟨c, h⟩
  constructor
  · intro s v hmem
    have htaken := (ofFields?_given h s).1
    rw [hfields.lookup_eq hmem] at htaken
    exact spelled_iff_writtenAs.mp htaken
  · intro s habsent
    have htaken := (ofFields?_given h s).1
    have hnone : fields.lookup (some s.name) = none := by
      rw [List.lookup_eq_none_iff]
      intro field hfield
      rw [Setting.isGiven_iff] at habsent
      rw [bne_iff_ne]
      exact fun heq => habsent (heq ▸ List.mem_map_of_mem hfield)
    rw [hnone] at htaken
    exact htaken

/-! ## Reading texts -/

variable {t : Text}

theorem parse_of_readable (hread : Json.read? t = some (.object fields)) (h : Readable fields) :
    ∃ c, parse t = .ok c ∧ ReadsAs fields c := by
  obtain ⟨c, hc⟩ := readable_iff.mp h
  refine ⟨c, ?_, readsAs_of_ofFields? hc⟩
  unfold parse
  rw [hread, Option.bind_some, ofJson?, hc]

theorem parse_of_not_readable (hread : Json.read? t = some (.object fields)) (h : ¬ Readable fields) :
    parse t = .error .malformedConfig := by
  have hnone : ofFields? default [] fields = none := by
    rw [Option.eq_none_iff_forall_ne_some]
    exact fun c hc => h (readable_iff.mpr ⟨c, hc⟩)
  unfold parse
  rw [hread, Option.bind_some, ofJson?, hnone]

/--
**The order of the fields is of no account, and neither are fields of other names.**

An object whose settings have at most one field each, with a value of the right type, can be read: a
setting that has a field is as the field says, and the others have their defaults. So two such objects
with the same fields for the settings read the same. An object with two fields for one setting cannot be
read, whatever they hold.
-/
theorem parse_object_unordered (hread : Json.read? t = some (.object fields)) :
    (Readable fields → ∃ c, parse t = .ok c ∧ ReadsAs fields c) ∧
    (∀ t' fields', Json.read? t' = some (.object fields') → Readable fields → Readable fields' →
      (∀ (s : Setting) (v : Json), (some s.name, v) ∈ fields ↔ (some s.name, v) ∈ fields') →
      parse t = parse t') ∧
    ∀ s : Setting, 1 < (fields.map Prod.fst).count (some s.name) →
      parse t = .error .malformedConfig := by
  refine ⟨parse_of_readable hread, ?_, fun s htwice => ?_⟩
  · intro t' fields' hread' hfields hfields' hsame
    obtain ⟨c, hc, hreads⟩ := parse_of_readable hread hfields
    obtain ⟨c', hc', hreads'⟩ := parse_of_readable hread' hfields'
    rw [hc, hc', hreads.eq hreads' hsame]
  · exact parse_of_not_readable hread fun hfields => absurd (hfields.once s) (Nat.not_le_of_lt htwice)

/-- Fields of another name stand around the settings' own ones, and one of them has a setting's name
inside it. The second object has the same settings the other way round. -/
theorem parse_object_unordered_scattered :
    let text : Text :=
      "\x7b\"x\":[\x7b\"java_home\":[]\x7d],\"java_home\":\"/jdk\",\"x\":\"\",\"search_paths\":[\"lib\"]\x7d".toList
    let fields : List (Option Text × Json) :=
      [(some "x".toList, .array [.object [(some "java_home".toList, .array [])]]),
        (some "java_home".toList, .string (some "/jdk".toList)), (some "x".toList, .string (some [])),
        (some "search_paths".toList, .array [.string (some "lib".toList)])]
    let text' : Text := "\x7b\"search_paths\":[\"lib\"],\"java_home\":\"/jdk\"\x7d".toList
    let fields' : List (Option Text × Json) :=
      [(some "search_paths".toList, .array [.string (some "lib".toList)]),
        (some "java_home".toList, .string (some "/jdk".toList))]
    let doubled : Text := "\x7b\"java_home\":\"/jdk\",\"java_home\":\"/jdk\"\x7d".toList
    let config : Config := { default with
      searchPaths := ["lib".toList]
      javaHome := some (.ofString "/jdk") }
    (Json.read? text = some (.object fields) ∧ Readable fields) ∧
    (Json.read? text' = some (.object fields') ∧ Readable fields') ∧
    (parse text = .ok config ∧ ReadsAs fields config) ∧
    parse text = parse text' ∧
    parse doubled = .error .malformedConfig := by
  intro text fields text' fields' doubled config
  have hread : Json.read? text = some (.object fields) := by
    simp only [text, fields]
    cbv
  have hread' : Json.read? text' = some (.object fields') := by
    simp only [text', fields']
    cbv
  have hdoubled : Json.read? doubled = some (.object
      [(some "java_home".toList, .string (some "/jdk".toList)),
        (some "java_home".toList, .string (some "/jdk".toList))]) := by
    simp only [doubled]
    cbv
  have hfields : Readable fields := by decide +kernel
  have hfields' : Readable fields' := by decide +kernel
  have hsame : ∀ (s : Setting) (v : Json),
      (some s.name, v) ∈ fields ↔ (some s.name, v) ∈ fields' := by
    intro s v
    have hother : s.name ≠ "x".toList := Setting.name_ne (by decide) s
    have hjavaHome : "java_home".toList = Setting.javaHome.name := rfl
    have hsearchPaths : "search_paths".toList = Setting.searchPaths.name := rfl
    simp only [fields, fields', List.mem_cons, List.not_mem_nil, or_false, Prod.mk.injEq,
      Option.some.injEq, hjavaHome, hsearchPaths, Setting.name_inj, hother, false_and, false_or]
    exact or_comm
  have hconfig : parse text = .ok config := by decide +kernel
  obtain ⟨c, hc, hreads⟩ := (parse_object_unordered hread).1 hfields
  obtain rfl := Except.ok.inj (hc.symm.trans hconfig)
  refine ⟨⟨hread, hfields⟩, ⟨hread', hfields'⟩, ⟨hconfig, hreads⟩, ?_, ?_⟩
  · exact (parse_object_unordered hread).2.1 _ _ hread' hfields hfields' hsame
  · exact (parse_object_unordered hdoubled).2.2 .javaHome (by decide +kernel)

end JavacLauncher.Config
