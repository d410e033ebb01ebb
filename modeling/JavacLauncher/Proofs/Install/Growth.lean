import JavacLauncher.Proofs.Install.Decision
import Mathlib.Data.List.Basic

/-!
# When files are added

Files are only added between two searches of the same layout. A name that was found is still found
then, in the same directory or in one before it, where a file was added (`FoundAt.exists_of_le`); and a
name that is nowhere afterwards was nowhere before (`IsNowhere.of_le`). Both archives are found or the
missing ones are told of by the rules of `Decides`, so this is all that can happen to a search
(`supportFiles_of_more`).

An added file changes what is found only if it lies before it. Files behind do not matter, even if
they have the name that is looked for, and neither does a directory that is searched twice
(`FoundAt.of_shadowed`).
-/

namespace JavacLauncher.Layout

/-- There is nothing in the one file system that is not in the other. -/
def Within (before after : Path → Bool) : Prop := ∀ path, before path = true → after path = true

/-- Every file of this name that was added lies in or behind the directory where one was found. -/
def AddedBehind (layout : Layout) (before after : Path → Bool) (name : Text) : Prop :=
  ∀ i path, layout.pathIn? name i = some path → after path = true → before path = false →
    ∃ k ≤ i, ∃ first, layout.FoundAt before name k first

variable {layout : Layout} {before after : Path → Bool} {name compiler : Text} {v : Version}

/-! ## One name -/

theorem Within.absent (h : Within before after) {path : Path} (habsent : after path = false) :
    before path = false := by
  refine Bool.eq_false_iff.mpr fun hpresent => ?_
  rw [h path hpresent] at habsent
  cases habsent

/-- A file that was found hides nothing that is found later on. -/
theorem FoundAt.exists_of_le {i : Nat} {path : Path} (h : layout.FoundAt before name i path)
    (hmore : Within before after) : ∃ k ≤ i, ∃ first, layout.FoundAt after name k first :=
  exists_foundAt h.pathIn (hmore path h.present)

theorem IsNowhere.of_le (h : layout.IsNowhere after name) (hmore : Within before after) :
    layout.IsNowhere before name := fun dir hdir => hmore.absent (h dir hdir)

/-- In front of a file that was found none of its name may be added. -/
theorem FoundAt.addedBehind {k : Nat} {first : Path} (h : layout.FoundAt before name k first)
    (hnone : ∀ i < k, ∀ path, layout.pathIn? name i = some path → after path = false) :
    layout.AddedBehind before after name := by
  intro i path hpath hadded _
  refine ⟨k, Nat.le_of_not_lt fun hlt => ?_, first, h⟩
  rw [hnone i hlt path hpath] at hadded
  cases hadded

/-- What is absent in front of a found file stays absent, if files are added behind it only. -/
theorem FoundAt.of_shadowed {i : Nat} {path : Path} (h : layout.FoundAt before name i path)
    (hmore : Within before after) (hbehind : layout.AddedBehind before after name) :
    layout.FoundAt after name i path := by
  refine ⟨h.pathIn, hmore path h.present, ?_⟩
  intro k hk earlier hearlier
  refine Bool.eq_false_iff.mpr fun hadded => ?_
  obtain ⟨found, hle, first, hfound⟩ := hbehind k earlier hearlier hadded (h.absentBefore k hk _ hearlier)
  exact absurd (h.le hfound) (by omega)

theorem isNowhere_iff_of_addedBehind (hmore : Within before after)
    (hbehind : layout.AddedBehind before after name) :
    layout.IsNowhere after name ↔ layout.IsNowhere before name := by
  refine ⟨fun h => h.of_le hmore, fun h => ?_⟩
  refine Classical.byContradiction fun hfound => ?_
  obtain ⟨i, path, hpath⟩ := not_isNowhere_iff.mp hfound
  obtain ⟨dir, hi, rfl⟩ := pathIn?_eq_some_iff.mp hpath.pathIn
  obtain ⟨k, _, first, hfirst⟩ :=
    hbehind i _ hpath.pathIn hpath.present (h dir (List.mem_of_getElem? hi))
  exact not_isNowhere_iff.mpr ⟨k, first, hfirst⟩ h

/-! ## Both archives -/

/-- Where both archives of a successful search were found. -/
theorem exists_foundAt_of_supportFiles {isPresent : Path → Bool} {support : SupportFiles}
    (h : layout.supportFiles isPresent compiler v = .ok support) :
    v.IsSupported ∧ ∃ i k, layout.FoundAt isPresent compiler i support.compiler ∧
      layout.FoundAt isPresent v.libraryName k support.library := by
  have hdecides := h ▸ decides_supportFiles layout isPresent compiler v
  cases hdecides with
  | found hv hfirst hsecond => exact ⟨hv, _, _, hfirst, hsecond⟩

theorem missing_sublist (hmore : Within before after) (layout : Layout) (names : List Text) :
    (layout.missing after names).Sublist (layout.missing before names) := by
  rw [missing_eq, missing_eq]
  refine (List.monotone_filter_right names fun name h => ?_).map _
  exact decide_eq_true ((of_decide_eq_true h).of_le hmore)

/-- A search that tells of missing files tells of all that are missing. -/
theorem supportFiles_eq_missingFiles_iff {isPresent : Path → Bool} {names : List Text} :
    layout.supportFiles isPresent compiler v = .error (.missingFiles names) ↔
      v.IsSupported ∧ layout.searchDirs ≠ [] ∧ names ≠ [] ∧
        names = layout.missing isPresent [compiler, v.libraryName] := by
  rw [missing_eq]
  constructor
  · intro h
    have hdecides := h ▸ decides_supportFiles layout isPresent compiler v
    cases hdecides with
    | missing hv hdirs hne habsent =>
      subst habsent
      exact ⟨hv, hdirs, mt List.map_eq_nil_iff.mp hne, rfl⟩
  · rintro ⟨hv, hdirs, hne, rfl⟩
    exact supportFiles_eq_of_decides (.missing hv hdirs (mt (List.map_eq_nil_iff.mpr) hne) rfl)

/-- The same files are found and the same ones are missing, if files are added behind only. -/
theorem Decides.of_addedBehind {outcome : Except LaunchError SupportFiles}
    (h : layout.Decides before compiler v outcome) (hmore : Within before after)
    (hbehind : ∀ name ∈ [compiler, v.libraryName], layout.AddedBehind before after name) :
    layout.Decides after compiler v outcome := by
  obtain ⟨hcompiler, hlibrary⟩ : layout.AddedBehind before after compiler ∧
      layout.AddedBehind before after v.libraryName := by simpa using hbehind
  cases h with
  | unsupported hv => exact .unsupported hv
  | noDirectories hv hdirs => exact .noDirectories hv hdirs
  | found hv hfirst hsecond =>
    exact .found hv (hfirst.of_shadowed hmore hcompiler) (hsecond.of_shadowed hmore hlibrary)
  | missing hv hdirs hne habsent =>
    refine .missing hv hdirs hne (habsent.trans (List.filter_congr fun name hname => ?_))
    rw [decide_eq_decide]
    exact (isNowhere_iff_of_addedBehind hmore (hbehind name hname)).symm

/-- **Adding files never makes a search worse.** What was found is found in the same directory or an
earlier one, what is missing was missing, and nothing changes if every file that was added lies
behind one that was found. -/
theorem supportFiles_of_more (hmore : Within before after) (layout : Layout) (compiler : Text)
    (v : Version) :
    (∀ support, layout.supportFiles before compiler v = .ok support →
      ∃ support', layout.supportFiles after compiler v = .ok support' ∧
        ∃ i k i' k', layout.FoundAt before compiler i support.compiler ∧
          layout.FoundAt after compiler i' support'.compiler ∧ i' ≤ i ∧
          layout.FoundAt before v.libraryName k support.library ∧
          layout.FoundAt after v.libraryName k' support'.library ∧ k' ≤ k) ∧
    (∀ names, layout.supportFiles after compiler v = .error (.missingFiles names) →
      ∃ names', layout.supportFiles before compiler v = .error (.missingFiles names') ∧
        names.Sublist names') ∧
    ((∀ name ∈ [compiler, v.libraryName], layout.AddedBehind before after name) →
      layout.supportFiles after compiler v = layout.supportFiles before compiler v) := by
  refine ⟨?_, ?_, ?_⟩
  · intro support h
    obtain ⟨hv, i, k, hcompiler, hlibrary⟩ := exists_foundAt_of_supportFiles h
    obtain ⟨i', hi, first, hfirst⟩ := hcompiler.exists_of_le hmore
    obtain ⟨k', hk, second, hsecond⟩ := hlibrary.exists_of_le hmore
    exact ⟨⟨first, second⟩, supportFiles_eq_of_decides (.found hv hfirst hsecond), i, k, i', k',
      hcompiler, hfirst, hi, hlibrary, hsecond, hk⟩
  · intro names h
    obtain ⟨hv, hdirs, hne, rfl⟩ := supportFiles_eq_missingFiles_iff.mp h
    have hsublist := missing_sublist hmore layout [compiler, v.libraryName]
    refine ⟨_, supportFiles_eq_missingFiles_iff.mpr ⟨hv, hdirs, ?_, rfl⟩, hsublist⟩
    intro hnone
    rw [hnone, List.sublist_nil] at hsublist
    exact hne hsublist
  · intro hbehind
    exact supportFiles_eq_of_decides
      ((decides_supportFiles layout before compiler v).of_addedBehind hmore hbehind)

/-- A directory that is searched twice: an archive that is added there is found in front, and one
that is added behind both changes nothing. -/
theorem supportFiles_of_more_twice :
    let layout : Layout := ⟨.ofString "/a/checkers.jar", ["/a", "/b", "/a", "/c"].map .ofString⟩
    let compiler := "javac.jar".toList
    let before (p : Path) : Bool := p ∈ ["/b/javac.jar", "/b/jdk7.jar"].map Path.ofString
    let front (p : Path) : Bool := before p || p = .ofString "/a/jdk7.jar"
    let behind (p : Path) : Bool := before p || p = .ofString "/c/jdk7.jar"
    Within before front ∧ Within before behind ∧
    layout.supportFiles before compiler ⟨1, 7⟩ =
      .ok ⟨.ofString "/b/javac.jar", .ofString "/b/jdk7.jar"⟩ ∧
    (∃ support, layout.supportFiles front compiler ⟨1, 7⟩ = .ok support ∧
      ∃ k ≤ 1, layout.FoundAt front "jdk7.jar".toList k support.library) ∧
    layout.supportFiles behind compiler ⟨1, 7⟩ = layout.supportFiles before compiler ⟨1, 7⟩ := by
  intro layout compiler before front behind
  have hfront : Within before front := fun p hp => by simp [front, hp]
  have hbehind : Within before behind := fun p hp => by simp [behind, hp]
  have hbefore : layout.supportFiles before compiler ⟨1, 7⟩ =
      .ok ⟨.ofString "/b/javac.jar", .ofString "/b/jdk7.jar"⟩ := by rfl
  have hfirst : layout.FoundAt before compiler 1 (.ofString "/b/javac.jar") := by decide
  have hsecond : layout.FoundAt before "jdk7.jar".toList 1 (.ofString "/b/jdk7.jar") := by
    decide
  obtain ⟨hfound, _, _⟩ := supportFiles_of_more hfront layout compiler ⟨1, 7⟩
  obtain ⟨_, _, hsame⟩ := supportFiles_of_more hbehind layout compiler ⟨1, 7⟩
  obtain ⟨support, hsupport, i, k, i', k', _, _, _, hlibrary, hlibrary', hk⟩ := hfound _ hbefore
  obtain ⟨rfl, _⟩ := hsecond.unique hlibrary
  refine ⟨hfront, hbehind, hbefore, ⟨support, hsupport, k', hk, hlibrary'⟩, hsame ?_⟩
  simp only [List.mem_cons, List.not_mem_nil, or_false, forall_eq_or_imp, forall_eq]
  refine ⟨hfirst.addedBehind ?_, hsecond.addedBehind ?_⟩
  all_goals
    intro k hk path hpath
    obtain rfl := Nat.lt_one_iff.mp hk
    obtain rfl := Option.some.inj hpath
    rfl

end JavacLauncher.Layout
