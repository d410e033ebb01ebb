import JavacLauncher.Proofs.Install.Search
import JavacLauncher.Proofs.Text.Utf8

/-!
# How the support files are decided

A search for support files ends in one of four ways. `Decides` has one rule for each of them, which
says of the layout, the version and what there is when it ends so. The rules are complete
(`decides_supportFiles`) and exclude each other (`supportFiles_eq_of_decides`), so they are the
search.

Where a file is found is told by the number of the search directory (`FoundAt`): a directory may be
searched twice, and two directories may have the same file, but the number is one
(`FoundAt.unique`). A file that is found nowhere is looked up in the last directory once more, for its
name alone. Joining puts a plain name behind whatever the directory is called, so taking the last name
off gives it back (`reported_of_isPlainName`).
-/

namespace JavacLauncher

/-! ## Supported versions -/

namespace Version

/-- The versions 1.4 to 1.7. -/
def IsSupported (v : Version) : Prop := v.major = 1 ∧ 4 ≤ v.minor ∧ v.minor ≤ 7

instance (v : Version) : Decidable v.IsSupported :=
  inferInstanceAs (Decidable (_ ∧ _ ∧ _))

/-- The annotated library for a supported version. -/
def libraryName (v : Version) : Text := if v.minor = 7 then "jdk7.jar".toList else "jdk6.jar".toList

theorem isSupported_iff {v : Version} :
    v.IsSupported ↔ v = ⟨1, 4⟩ ∨ v = ⟨1, 5⟩ ∨ v = ⟨1, 6⟩ ∨ v = ⟨1, 7⟩ := by
  constructor
  · obtain ⟨major, minor⟩ := v
    rintro ⟨hmajor, hlow, hhigh⟩
    obtain rfl : major = 1 := hmajor
    simp only [UInt32.le_iff_toNat_le] at hlow hhigh
    change 4 ≤ minor.toNat at hlow
    change minor.toNat ≤ 7 at hhigh
    simp only [mk.injEq, true_and, ← UInt32.toNat_inj]
    change minor.toNat = 4 ∨ minor.toNat = 5 ∨ minor.toNat = 6 ∨ minor.toNat = 7
    omega
  · rintro (rfl | rfl | rfl | rfl) <;> decide

theorem annotatedLibrary_of_isSupported {v : Version} (h : v.IsSupported) :
    v.annotatedLibrary = .ok v.libraryName := by
  rcases isSupported_iff.mp h with rfl | rfl | rfl | rfl <;> rfl

theorem annotatedLibrary_of_not_isSupported {v : Version} (h : ¬v.IsSupported) :
    v.annotatedLibrary = .error (.unsupportedVersion v.display) := by
  have hnone : annotatedLibraries.find? (fun entry => entry.1 = v) = none := by
    rw [List.find?_eq_none]
    intro entry hentry hv
    obtain rfl := of_decide_eq_true hv
    have hall : ∀ entry ∈ annotatedLibraries, entry.1.IsSupported := by decide
    exact h (hall entry hentry)
  unfold annotatedLibrary
  rw [hnone]

end Version

/-! ## Plain names -/

/-- The name of a file in a directory, without any way to get there. -/
structure IsPlainName (name : Text) : Prop where
  ne_nil : name ≠ []
  ne_dot : name ≠ ".".toList
  ne_dotDot : name ≠ "..".toList
  slash_notMem : '/' ∉ name

theorem IsPlainName.isName {name : Text} (h : IsPlainName name) : Path.IsName (Utf8.encode name) where
  ne_nil := fun hnil => h.ne_nil (Utf8.encode_injective hnil)
  ne_dot := fun hdot => h.ne_dot (Utf8.encode_injective hdot)
  ne_dotDot := fun hdotDot => h.ne_dotDot (Utf8.encode_injective hdotDot)
  slash_notMem := mt (Utf8.mem_encode_iff (by decide)).mp h.slash_notMem

theorem isPlainName_libraryName (v : Version) : IsPlainName v.libraryName := by
  unfold Version.libraryName
  split <;> exact ⟨by decide, by decide, by decide, by decide⟩

namespace Layout

/-! ## Where a file is found -/

/-- The path that a file of this name has in the search directory with the number `i`. -/
def pathIn? (layout : Layout) (name : Text) (i : Nat) : Option Path :=
  layout.searchDirs[i]?.map fun dir => dir.join (.ofText name)

/-- The first search directory with a file of this name is the one with the number `i`, and `path` is
the file. -/
structure FoundAt (layout : Layout) (isPresent : Path → Bool) (name : Text) (i : Nat) (path : Path) :
    Prop where
  pathIn : layout.pathIn? name i = some path
  present : isPresent path = true
  absentBefore : ∀ k < i, ∀ earlier, layout.pathIn? name k = some earlier → isPresent earlier = false

/-- No search directory has a file of this name. -/
def IsNowhere (layout : Layout) (isPresent : Path → Bool) (name : Text) : Prop :=
  ∀ dir ∈ layout.searchDirs, isPresent (dir.join (.ofText name)) = false

instance (layout : Layout) (isPresent : Path → Bool) (name : Text) :
    Decidable (layout.IsNowhere isPresent name) :=
  inferInstanceAs (Decidable (∀ dir ∈ layout.searchDirs, _))

instance (layout : Layout) (isPresent : Path → Bool) (name : Text) (i : Nat) (path : Path) :
    Decidable (layout.FoundAt isPresent name i path) :=
  decidable_of_iff (layout.pathIn? name i = some path ∧ isPresent path = true ∧
      ∀ k < i, ∀ earlier ∈ layout.pathIn? name k, isPresent earlier = false)
    ⟨fun h => ⟨h.1, h.2.1, h.2.2⟩, fun h => ⟨h.pathIn, h.present, h.absentBefore⟩⟩

/-- What is said of a file that is nowhere: the last name of its path in the last directory. -/
def reported (layout : Layout) (name : Text) : Text :=
  Lookup.name ⟨(layout.searchDirs.getLastD ⟨[]⟩).join (.ofText name), false⟩

variable {layout : Layout} {isPresent : Path → Bool} {name : Text}

theorem pathIn?_eq_some_iff {i : Nat} {path : Path} : layout.pathIn? name i = some path ↔
    ∃ dir, layout.searchDirs[i]? = some dir ∧ dir.join (.ofText name) = path :=
  Option.map_eq_some_iff

/-- A file before the first one would be present and absent. -/
theorem FoundAt.le {i k : Nat} {path other : Path} (h : layout.FoundAt isPresent name i path)
    (h' : layout.FoundAt isPresent name k other) : i ≤ k := by
  refine Nat.le_of_not_lt fun hlt => ?_
  have habsent := h.absentBefore k hlt other h'.pathIn
  rw [h'.present] at habsent
  cases habsent

theorem FoundAt.unique {i k : Nat} {path other : Path} (h : layout.FoundAt isPresent name i path)
    (h' : layout.FoundAt isPresent name k other) : i = k ∧ path = other := by
  obtain rfl : i = k := Nat.le_antisymm (h.le h') (h'.le h)
  exact ⟨rfl, Option.some.inj (h.pathIn.symm.trans h'.pathIn)⟩

/-- What is present in a directory is found there or before. -/
theorem exists_foundAt {i : Nat} {path : Path} (hpath : layout.pathIn? name i = some path)
    (hpresent : isPresent path = true) :
    ∃ k ≤ i, ∃ first, layout.FoundAt isPresent name k first := by
  induction i using Nat.strongRecOn generalizing path with
  | ind i ih =>
    by_cases h : ∃ k < i, ∃ earlier, layout.pathIn? name k = some earlier ∧ isPresent earlier = true
    · obtain ⟨k, hk, earlier, hearlier, hthere⟩ := h
      obtain ⟨first, hfirst, hfound⟩ := ih k hk hearlier hthere
      exact ⟨first, Nat.le_trans hfirst (Nat.le_of_lt hk), hfound⟩
    · refine ⟨i, Nat.le_refl i, path, hpath, hpresent, ?_⟩
      intro k hk earlier hearlier
      exact Bool.eq_false_iff.mpr fun hthere => h ⟨k, hk, earlier, hearlier, hthere⟩

theorem not_isNowhere_iff :
    ¬layout.IsNowhere isPresent name ↔ ∃ i path, layout.FoundAt isPresent name i path := by
  constructor
  · intro h
    obtain ⟨dir, hdir, hpresent⟩ : ∃ dir ∈ layout.searchDirs,
        isPresent (dir.join (.ofText name)) = true := by
      simpa [IsNowhere] using h
    obtain ⟨i, hi⟩ := List.getElem?_of_mem hdir
    obtain ⟨k, _, first, hfound⟩ := exists_foundAt (pathIn?_eq_some_iff.mpr ⟨dir, hi, rfl⟩) hpresent
    exact ⟨k, first, hfound⟩
  · rintro ⟨i, path, hfound⟩ hnowhere
    obtain ⟨dir, hi, rfl⟩ := pathIn?_eq_some_iff.mp hfound.pathIn
    have habsent := hnowhere dir (List.mem_of_getElem? hi)
    rw [hfound.present] at habsent
    cases habsent

/-- A file is looked up as the one that is found first. -/
theorem find_eq_of_foundAt {i : Nat} {path : Path} (h : layout.FoundAt isPresent name i path) :
    Lookup.find isPresent name layout.searchDirs = .ok ⟨path, true⟩ := by
  obtain ⟨dir, hi, rfl⟩ := pathIn?_eq_some_iff.mp h.pathIn
  have hmem := List.mem_of_getElem? hi
  have hfirst : layout.searchDirs.find? (fun dir => isPresent (dir.join (.ofText name))) =
      some dir := by
    obtain ⟨hlt, hdir⟩ := List.getElem?_eq_some_iff.mp hi
    refine List.find?_eq_some_iff_getElem.mpr ⟨h.present, i, hlt, hdir, ?_⟩
    intro k hk
    have hbefore := List.getElem?_eq_getElem (Nat.lt_trans hk hlt)
    rw [h.absentBefore k hk _ (pathIn?_eq_some_iff.mpr ⟨_, hbefore, rfl⟩)]
    rfl
  unfold Lookup.find
  rw [List.getLast?_eq_some_getLast (List.ne_nil_of_mem hmem), hfirst]

/-- **The name that is reported for a plain name is that name**, wherever it was looked for. -/
theorem reported_of_isPlainName (layout : Layout) (h : IsPlainName name) :
    layout.reported name = name := by
  have hlast : ((layout.searchDirs.getLastD ⟨[]⟩).join (.ofText name)).fileName? =
      some (Utf8.encode name) := Path.fileName?_join h.isName _
  unfold reported Lookup.name
  dsimp only
  rw [hlast]
  exact Utf8.decodeLossy_encode name

/-! ## The decision -/

/-- How the search for support files ends. -/
inductive Decides (layout : Layout) (isPresent : Path → Bool) (compiler : Text) (v : Version) :
    Except LaunchError SupportFiles → Prop where
  | unsupported : ¬v.IsSupported → Decides layout isPresent compiler v
      (.error (.unsupportedVersion (Text.ofNat v.major.toNat ++ '.' :: Text.ofNat v.minor.toNat)))
  | noDirectories : v.IsSupported → layout.searchDirs = [] →
      Decides layout isPresent compiler v (.error .emptyPathSet)
  /-- Each file is the one of its name that is found first. -/
  | found {i k : Nat} {first second : Path} : v.IsSupported →
      layout.FoundAt isPresent compiler i first → layout.FoundAt isPresent v.libraryName k second →
      Decides layout isPresent compiler v (.ok ⟨first, second⟩)
  /-- The compiler, the library or both are nowhere, and are told of in this order. -/
  | missing {absent : List Text} : v.IsSupported → layout.searchDirs ≠ [] → absent ≠ [] →
      absent = [compiler, v.libraryName].filter (fun name => layout.IsNowhere isPresent name) →
      Decides layout isPresent compiler v (.error (.missingFiles (absent.map layout.reported)))

theorem missing_eq (layout : Layout) (isPresent : Path → Bool) (names : List Text) :
    layout.missing isPresent names =
      (names.filter fun name => layout.IsNowhere isPresent name).map layout.reported := by
  have hnowhere (name : Text) : (!layout.searchDirs.any fun dir => isPresent (dir.join (.ofText name))) =
      decide (layout.IsNowhere isPresent name) := by
    rw [Bool.eq_iff_iff, decide_eq_true_iff]
    simp [IsNowhere]
  unfold missing
  simp only [hnowhere]
  rfl

variable {compiler : Text} {v : Version}

/-- Each rule says how the search ends. -/
theorem supportFiles_eq_of_decides {outcome : Except LaunchError SupportFiles}
    (h : layout.Decides isPresent compiler v outcome) :
    layout.supportFiles isPresent compiler v = outcome := by
  cases h with
  | unsupported hv =>
    rw [← failure?_eq_some_iff, failure?_supportFiles, Version.annotatedLibrary_of_not_isSupported hv]
    rfl
  | noDirectories hv hdirs =>
    rw [← failure?_eq_some_iff, failure?_supportFiles, Version.annotatedLibrary_of_isSupported hv,
      if_pos hdirs]
    rfl
  | found hv hfirst hsecond =>
    unfold supportFiles
    rw [Version.annotatedLibrary_of_isSupported hv]
    simp only [bind, Except.bind, find_eq_of_foundAt hfirst, find_eq_of_foundAt hsecond]
    rfl
  | missing hv hdirs hne habsent =>
    subst habsent
    rw [← failure?_eq_some_iff, failure?_supportFiles, Version.annotatedLibrary_of_isSupported hv,
      if_neg hdirs]
    show layout.missingFault? isPresent [compiler, v.libraryName] = _
    unfold missingFault?
    rw [missing_eq]
    split
    · rename_i hnone
      exact absurd (List.map_eq_nil_iff.mp hnone) hne
    · rfl

/-- Every search ends by one of the rules. -/
theorem decides_supportFiles (layout : Layout) (isPresent : Path → Bool) (compiler : Text)
    (v : Version) :
    layout.Decides isPresent compiler v (layout.supportFiles isPresent compiler v) := by
  obtain ⟨outcome, h⟩ : ∃ outcome, layout.Decides isPresent compiler v outcome := by
    by_cases hv : v.IsSupported
    · by_cases hdirs : layout.searchDirs = []
      · exact ⟨_, .noDirectories hv hdirs⟩
      · by_cases hnone : [compiler, v.libraryName].filter
          (fun name => layout.IsNowhere isPresent name) = []
        · have hall := List.filter_eq_nil_iff.mp hnone
          simp only [List.mem_cons, List.not_mem_nil, or_false, forall_eq_or_imp, forall_eq,
            decide_eq_true_eq, not_isNowhere_iff] at hall
          obtain ⟨⟨i, first, hfirst⟩, k, second, hsecond⟩ := hall
          exact ⟨_, .found hv hfirst hsecond⟩
        · exact ⟨_, .missing hv hdirs hnone rfl⟩
    · exact ⟨_, .unsupported hv⟩
  rwa [supportFiles_eq_of_decides h]

/-- **The search for support files ends as the rules say, and in no other way.** Plain names are
reported as they are. -/
theorem supportFiles_eq_iff_decides (layout : Layout) (isPresent : Path → Bool) (compiler : Text)
    (v : Version) :
    (∀ outcome, layout.supportFiles isPresent compiler v = outcome ↔
      layout.Decides isPresent compiler v outcome) ∧
    (IsPlainName compiler → layout.reported compiler = compiler) ∧
    layout.reported v.libraryName = v.libraryName := by
  refine ⟨fun outcome => ⟨?_, supportFiles_eq_of_decides⟩, reported_of_isPlainName layout,
    reported_of_isPlainName layout (isPlainName_libraryName v)⟩
  rintro rfl
  exact decides_supportFiles layout isPresent compiler v

end Layout

end JavacLauncher
