import JavacLauncher.Install
import JavacLauncher.Proofs.Path.Absolute
import JavacLauncher.Proofs.Path.Parent

/-!
# What an installation's search finds

Between the location that the launcher is given and the archives that it names lie several
stages, each of which may fail. For each stage there is one statement that says what a success
is made of; later proofs use these and do not look into the stages again.

The failures are followed as well (`failure?`). A chain of stages fails with the error of the first
one that fails, so what a stage reports can be said of the stage alone
(`Layout.failure?_supportFiles`).

Two more things are followed through them. The paths stay absolute: the current directory is absolute,
normalising keeps that, and so do going to the directory above and being seen from an absolute
directory. And an archive that is named was there when it was looked for: the search calls a
file found exactly if its path leads to something (`Lookup.find_eq_ok`).
-/

namespace JavacLauncher

/-- The error of what fails. -/
def failure? {ε α : Type} : Except ε α → Option ε
  | .ok _ => none
  | .error e => some e

theorem failure?_eq_some_iff {ε α : Type} {outcome : Except ε α} {e : ε} :
    failure? outcome = some e ↔ outcome = .error e := by
  cases outcome <;> simp [failure?]

/-- Of two stages, the second one can only fail if the first one does not. -/
theorem failure?_bind {ε α β : Type} (first : Except ε α) (second : α → Except ε β) :
    failure? (first >>= second) =
      (failure? first).or (first.toOption.bind fun a => failure? (second a)) := by
  cases first <;> rfl

/-- If the first result does not matter to the second stage's error, the stages fail one by one. -/
theorem failure?_bind_of_forall {ε α β : Type} {first : Except ε α} {second : α → Except ε β}
    {later? : Option ε} (h : ∀ a, failure? (second a) = later?) :
    failure? (first >>= second) = (failure? first).or later? := by
  cases first with
  | error e => rfl
  | ok a => exact h a

/-- What only wraps up a result does not fail. -/
theorem failure?_bind_pure {ε α β : Type} (first : Except ε α) (f : α → β) :
    failure? (first >>= fun a => pure (f a)) = failure? first := by
  cases first <;> rfl

/-- A located archive is the normal form of a path that was made absolute. -/
theorem Location.locate_eq_ok {currentDir : Except SystemError Path} {location : Text}
    {archive : Path} (h : Location.locate currentDir location = .ok archive) :
    ∃ (written : Text) (path : Path), Location.path? location.trim = .ok written ∧
      (Path.ofText written).absolute currentDir = .ok path ∧ archive = path.normalize := by
  unfold Location.locate at h
  obtain ⟨written, hwritten, h⟩ := bind_eq_ok_iff.mp h
  obtain ⟨path, hpath, h⟩ := bind_eq_ok_iff.mp h
  exact ⟨written, path, hwritten, hpath, (Except.ok.inj h).symm⟩

namespace Lookup

/-- The search places a file in one of the directories, and says rightly whether it is there. -/
theorem find_eq_ok {isPresent : Path → Bool} {name : Text} {dirs : List Path} {l : Lookup}
    (h : find isPresent name dirs = .ok l) :
    ∃ dir ∈ dirs, l.path = dir.join (.ofText name) ∧ l.isFound = isPresent l.path := by
  unfold find at h
  split at h
  · cases h
  · rename_i last hlast
    split at h
    · rename_i dir hdir
      obtain rfl := Except.ok.inj h
      exact ⟨dir, List.mem_of_find?_eq_some hdir, rfl, (List.find?_some hdir).symm⟩
    · rename_i hnone
      obtain rfl := Except.ok.inj h
      have hmem := List.mem_of_getLast? hlast
      refine ⟨last, hmem, rfl, ?_⟩
      have habsent := List.find?_eq_none.mp hnone last hmem
      exact (Bool.eq_false_iff.mpr habsent).symm

/-- A file that is in none of the directories is placed in the last one. -/
theorem find_of_ne_nil (isPresent : Path → Bool) (name : Text) {dirs : List Path} (h : dirs ≠ []) :
    ∃ l, find isPresent name dirs = .ok l ∧
      l.isFound = dirs.any (fun dir => isPresent (dir.join (.ofText name))) ∧
      (l.isFound = false → l.path = (dirs.getLast h).join (.ofText name)) := by
  unfold find
  rw [List.getLast?_eq_some_getLast h]
  dsimp only
  cases hfirst : dirs.find? fun dir => isPresent (dir.join (.ofText name)) with
  | some dir =>
    have hpresent := List.find?_some hfirst
    have hany : dirs.any (fun dir => isPresent (dir.join (.ofText name))) = true :=
      List.any_eq_true.mpr ⟨dir, List.mem_of_find?_eq_some hfirst, hpresent⟩
    exact ⟨_, rfl, hany.symm, fun habsent => by cases habsent⟩
  | none =>
    have hany : dirs.any (fun dir => isPresent (dir.join (.ofText name))) = false :=
      List.any_eq_false.mpr (List.find?_eq_none.mp hfirst)
    exact ⟨_, rfl, hany.symm, fun _ => rfl⟩

theorem ensureFound_eq_ok_iff {files : List Lookup} :
    ensureFound files = .ok () ↔ ∀ l ∈ files, l.isFound = true := by
  have hmissing : (files.filter fun l => !l.isFound) = [] ↔ ∀ l ∈ files, l.isFound = true := by
    rw [List.filter_eq_nil_iff]
    simp
  rw [← hmissing]
  unfold ensureFound
  split
  · rename_i hnone
    exact iff_of_true rfl hnone
  · rename_i missing hsome
    refine iff_of_false (by simp) ?_
    intro hnone
    rw [hnone] at hsome
    exact hsome rfl

theorem failure?_ensureFound (files : List Lookup) :
    failure? (ensureFound files) =
      match (files.filter fun l => !l.isFound).map name with
      | [] => none
      | names => some (.missingFiles names) := by
  unfold ensureFound
  cases files.filter fun l => !l.isFound <;> rfl

end Lookup

namespace Layout

/-- A path of a file of this name in one of the search directories, where there is something. -/
def Holds (layout : Layout) (isPresent : Path → Bool) (name : Text) (path : Path) : Prop :=
  ∃ dir ∈ layout.searchDirs, path = dir.join (.ofText name) ∧ isPresent path = true

/-- The names of files that are in no search directory, as they are reported. -/
def missing (isPresent : Path → Bool) (layout : Layout) (names : List Text) : List Text :=
  (names.filter fun name =>
      !layout.searchDirs.any fun dir => isPresent (dir.join (.ofText name))).map fun name =>
    Lookup.name ⟨(layout.searchDirs.getLastD ⟨[]⟩).join (.ofText name), false⟩

/-- The error that tells of missing files, if there are any. -/
def missingFault? (isPresent : Path → Bool) (layout : Layout) (names : List Text) : Option LaunchError :=
  match layout.missing isPresent names with
  | [] => none
  | missing => some (.missingFiles missing)

/-- A layout is an archive in a directory, and that directory's search directories. -/
theorem ofLocation_eq_ok {currentDir : Except SystemError Path} {location : Text}
    {entries : List Text} {layout : Layout} (h : ofLocation currentDir location entries = .ok layout) :
    ∃ archive dir : Path, Location.locate currentDir location = .ok archive ∧
      archive.parent? = some dir ∧ layout = ⟨archive, searchDirectories dir entries⟩ := by
  unfold ofLocation at h
  obtain ⟨archive, harchive, h⟩ := bind_eq_ok_iff.mp h
  cases hparent : archive.parent? with
  | none =>
    rw [hparent] at h
    cases h
  | some dir =>
    rw [hparent] at h
    exact ⟨archive, dir, harchive, hparent, (Except.ok.inj h).symm⟩

/-- A file that was found lies in the layout. -/
theorem holds_of_find {layout : Layout} {isPresent : Path → Bool} {name : Text} {l : Lookup}
    (h : Lookup.find isPresent name layout.searchDirs = .ok l) (hfound : l.isFound = true) :
    layout.Holds isPresent name l.path := by
  obtain ⟨dir, hdir, hpath, hpresent⟩ := Lookup.find_eq_ok h
  exact ⟨dir, hdir, hpath, hpresent.symm.trans hfound⟩

theorem Holds.isPresent {layout : Layout} {isPresent : Path → Bool} {name : Text} {path : Path}
    (h : layout.Holds isPresent name path) : isPresent path = true := by
  obtain ⟨_, _, _, hpresent⟩ := h
  exact hpresent

/-- What lies in an absolute directory has an absolute path, whatever its name. -/
theorem Holds.isAbsolute {layout : Layout} {isPresent : Path → Bool} {name : Text} {path : Path}
    (h : layout.Holds isPresent name path) (hdirs : ∀ dir ∈ layout.searchDirs, dir.IsAbsolute) :
    path.IsAbsolute := by
  obtain ⟨dir, hdir, rfl, _⟩ := h
  exact (hdirs dir hdir).join _

/-- Support files that are given out have been found. -/
theorem supportFiles_eq_ok {isPresent : Path → Bool} {compiler : Text} {v : Version}
    {layout : Layout} {support : SupportFiles}
    (h : layout.supportFiles isPresent compiler v = .ok support) :
    ∃ library : Text, v.annotatedLibrary = .ok library ∧
      layout.Holds isPresent compiler support.compiler ∧
      layout.Holds isPresent library support.library := by
  unfold supportFiles at h
  obtain ⟨library, hlibrary, h⟩ := bind_eq_ok_iff.mp h
  obtain ⟨first, hfirst, h⟩ := bind_eq_ok_iff.mp h
  obtain ⟨second, hsecond, h⟩ := bind_eq_ok_iff.mp h
  obtain ⟨⟨⟩, hfound, h⟩ := bind_eq_ok_iff.mp h
  obtain rfl := Except.ok.inj h
  have hall := Lookup.ensureFound_eq_ok_iff.mp hfound
  have hfirstFound := hall first List.mem_cons_self
  have hsecondFound := hall second (List.mem_cons_of_mem _ List.mem_cons_self)
  exact ⟨library, hlibrary, holds_of_find hfirst hfirstFound, holds_of_find hsecond hsecondFound⟩

/-! ## What a search reports -/

/-- What a search reports is what is missing. -/
theorem map_name_filter_of_find {isPresent : Path → Bool} {layout : Layout} {names : List Text}
    {files : List Lookup}
    (h : names.mapM (fun name => Lookup.find isPresent name layout.searchDirs) = .ok files) :
    (files.filter fun l => !l.isFound).map Lookup.name = layout.missing isPresent names := by
  induction names generalizing files with
  | nil =>
    obtain rfl := Except.ok.inj h
    rfl
  | cons name names ih =>
    rw [List.mapM_cons] at h
    obtain ⟨l, hl, h⟩ := bind_eq_ok_iff.mp h
    obtain ⟨others, hothers, h⟩ := bind_eq_ok_iff.mp h
    obtain rfl := Except.ok.inj h
    have hdirs : layout.searchDirs ≠ [] := by
      intro hnone
      rw [hnone] at hl
      cases hl
    obtain ⟨_, hfind, hfound, hplace⟩ := Lookup.find_of_ne_nil isPresent name hdirs
    rw [hl] at hfind
    obtain rfl := Except.ok.inj hfind
    unfold missing
    rw [List.filter_cons, List.filter_cons, ← hfound]
    cases hcase : l.isFound with
    | true => exact ih hothers
    | false =>
      have hname : l.name =
          Lookup.name ⟨(layout.searchDirs.getLastD ⟨[]⟩).join (.ofText name), false⟩ := by
        unfold Lookup.name
        rw [hplace hcase, List.getLastD_eq_getLast?, List.getLast?_eq_some_getLast hdirs]
        rfl
      exact congrArg₂ List.cons hname (ih hothers)

theorem failure?_supportFiles (isPresent : Path → Bool) (compiler : Text) (v : Version)
    (layout : Layout) :
    failure? (layout.supportFiles isPresent compiler v) =
      (failure? v.annotatedLibrary).or
        ((if layout.searchDirs = [] then some .emptyPathSet else none).or
          (v.annotatedLibrary.toOption.bind fun library =>
            layout.missingFault? isPresent [compiler, library])) := by
  unfold supportFiles
  cases v.annotatedLibrary with
  | error e => rfl
  | ok library =>
    by_cases hdirs : layout.searchDirs = []
    · rw [if_pos hdirs, hdirs]
      rfl
    · obtain ⟨first, hfirst, _⟩ := Lookup.find_of_ne_nil isPresent compiler hdirs
      obtain ⟨second, hsecond, _⟩ := Lookup.find_of_ne_nil isPresent library hdirs
      have hfiles : [compiler, library].mapM
          (fun name => Lookup.find isPresent name layout.searchDirs) = .ok [first, second] := by
        simp only [List.mapM_cons, hfirst, hsecond]
        rfl
      rw [if_neg hdirs]
      show _ = layout.missingFault? isPresent [compiler, library]
      unfold missingFault?
      rw [← map_name_filter_of_find hfiles, ← Lookup.failure?_ensureFound]
      simp only [bind, Except.bind, hfirst, hsecond]
      cases Lookup.ensureFound [first, second] <;> rfl

/-! ## Absolute paths -/

/-- **A layout's archive is reduced, and its search directories are absolute.** -/
theorem isReducedFile_of_ofLocation {currentDir : Except SystemError Path} {location : Text}
    {entries : List Text} {layout : Layout}
    (hdir : ∀ dir, currentDir = .ok dir → dir.IsAbsolute)
    (h : ofLocation currentDir location entries = .ok layout) :
    layout.selfArchive.IsReducedFile ∧ ∀ dir ∈ layout.searchDirs, dir.IsAbsolute := by
  obtain ⟨archive, dir, hlocate, hparent, rfl⟩ := ofLocation_eq_ok h
  obtain ⟨_, path, _, hpath, rfl⟩ := Location.locate_eq_ok hlocate
  have habsolute := (Path.absolute_eq_ok_iff.mp hpath).isAbsolute hdir
  refine ⟨Path.isReducedFile_normalize habsolute hparent, ?_⟩
  have hparentAbsolute := Path.isAbsolute_of_parent? (Path.isAbsolute_normalize habsolute) hparent
  intro searched hsearched
  obtain ⟨entry, _, rfl⟩ := List.mem_map.mp hsearched
  exact hparentAbsolute.join _

end Layout

end JavacLauncher
