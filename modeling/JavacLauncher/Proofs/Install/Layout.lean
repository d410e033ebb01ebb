import JavacLauncher.Proofs.Install.Decision
import JavacLauncher.Proofs.Location.Relative
import Mathlib.Data.List.Forall2

/-!
# What lies around the archive

A located archive is a reduced path, and a reduced path other than the root is the last name in its
directory (`Path.exists_parent`). The root is the only located path that lies in no directory.

How the root was written does not matter. It may be reached by a path from the root or by one from the
current directory, with names that are taken back and with more `..` than there are directories, and a
location may spell the dots by number. What the ways have in common is that the pieces lead to no name
at all (`LeadsToRoot`).
-/

namespace JavacLauncher

namespace Path

/-! ## Ways to the root -/

/-- The pieces on the way to `p` lead to the root, from the root or from the current directory. -/
inductive LeadsToRoot (currentDir : Except SystemError Path) (p : Path) : Prop where
  | absolute (hp : p.IsAbsolute) (hplace : follow [] (p.bytes.splitOn slash) = [])
  | relative (hp : ¬p.IsAbsolute) {dir : Path} (hdir : currentDir = .ok dir)
      (hplace : follow [] (dir.bytes.splitOn slash ++ p.bytes.splitOn slash) = [])

/-- No name is left on the way to the root. -/
theorem normalize_eq_root_iff {p : Path} (h : p.IsAbsolute) :
    p.normalize = ofNames [] ↔ p.reducedNames = [] := by
  rw [normalize_of_isAbsolute h]
  constructor
  · exact ofNames_inj (fun n hn => isName_of_mem_reducedNames hn) (fun _ hn => by cases hn)
  · rintro hnone
    rw [hnone]

theorem reducedNames_join_eq_follow {p : Path} (h : ¬p.IsAbsolute) (base : Path) :
    (base.join p).reducedNames =
      follow [] (base.bytes.splitOn slash ++ p.bytes.splitOn slash) := by
  rw [reducedNames_join h, reducedNames_eq_follow, follow_append, follow_names_eq, follow_names_eq]

theorem fromRoot_eq_root_iff {currentDir : Except SystemError Path}
    (hdir : ∀ dir, currentDir = .ok dir → dir.IsAbsolute) {p : Path} :
    p.fromRoot currentDir = .ok (ofNames []) ↔ LeadsToRoot currentDir p := by
  by_cases hp : p.IsAbsolute
  · rw [fromRoot_of_isAbsolute hp, Except.ok.injEq, normalize_eq_root_iff hp, reducedNames_eq_follow,
      follow_names_eq]
    constructor
    · exact .absolute hp
    · rintro (⟨-, hplace⟩ | ⟨hrelative, -, -⟩)
      · exact hplace
      · exact absurd hp hrelative
  · cases currentDir with
    | error cause =>
      -- nothing can be seen from a directory that is not known
      have hfails : p.fromRoot (.error cause) = .error (.system p cause) := by
        unfold fromRoot absolute
        rw [if_neg hp]
        rfl
      rw [hfails]
      refine iff_of_false (by simp) ?_
      rintro (⟨habsolute, -⟩ | ⟨-, hnone, -⟩)
      · exact hp habsolute
      · cases hnone
    | ok dir =>
      rw [fromRoot_ok, Except.ok.injEq, normalize_eq_root_iff ((hdir dir rfl).join p),
        reducedNames_join_eq_follow hp]
      constructor
      · exact .relative hp rfl
      · rintro (⟨habsolute, -⟩ | ⟨-, hsame, hplace⟩)
        · exact absurd habsolute hp
        · obtain rfl := Except.ok.inj hsame
          exact hplace

end Path

namespace Location

/-- **A location leads to the root exactly if the path that it is read as does.** -/
theorem locate_eq_root_iff {currentDir : Except SystemError Path} {location : Text}
    (hdir : ∀ dir, currentDir = .ok dir → dir.IsAbsolute) :
    locate currentDir location = .ok (.ofNames []) ↔
      ∃ plain, Reads location.trim (.ok plain) ∧ Path.LeadsToRoot currentDir (.ofText plain) := by
  rw [locate_eq_fromRoot]
  simp only [← path?_eq_iff, ← Path.fromRoot_eq_root_iff hdir]
  cases path? location.trim <;> simp [Except.bind]

theorem isReduced_of_locate {currentDir : Except SystemError Path} {location : Text} {archive : Path}
    (hdir : ∀ dir, currentDir = .ok dir → dir.IsAbsolute)
    (h : locate currentDir location = .ok archive) : archive.IsReduced := by
  obtain ⟨_, path, _, hpath, rfl⟩ := locate_eq_ok h
  exact Path.isReduced_normalize (((Path.absolute_eq_ok_iff.mp hpath).isAbsolute hdir))

end Location

namespace Layout

/-- The entry `entry` of the search path is looked for in `searched`, seen from `dir`. -/
structure SearchedFrom (dir : Path) (entry : Text) (searched : Path) : Prop where
  eq_join : searched = dir.join (.ofText entry)
  isAbsolute : searched.IsAbsolute
  eq_entry : (Path.ofText entry).IsAbsolute → searched = .ofText entry

theorem searchedFrom_searchDirectories {dir : Path} (h : dir.IsAbsolute) (entries : List Text) :
    List.Forall₂ (SearchedFrom dir) entries (searchDirectories dir entries) := by
  unfold searchDirectories
  rw [List.forall₂_map_right_iff, List.forall₂_same]
  intro entry _
  exact ⟨rfl, h.join _, Path.join_of_isAbsolute⟩

/-- `layout` lies around `archive`, which has the name `name` in the directory `dir`. -/
structure Surrounds (layout : Layout) (entries : List Text) (archive dir : Path) (name : Bytes) :
    Prop where
  selfArchive : layout.selfArchive = archive
  parent : archive.parent? = some dir
  fileName : archive.fileName? = some name
  join : dir.join ⟨name⟩ = archive
  searched : List.Forall₂ (SearchedFrom dir) entries layout.searchDirs

theorem ofLocation_of_error {currentDir : Except SystemError Path} {location : Text} {e : LaunchError}
    (h : Location.locate currentDir location = .error e) (entries : List Text) :
    ofLocation currentDir location entries = .error e := by
  unfold ofLocation
  rw [h]
  rfl

theorem ofLocation_of_ok {currentDir : Except SystemError Path} {location : Text} {archive : Path}
    (h : Location.locate currentDir location = .ok archive) (entries : List Text) :
    ofLocation currentDir location entries =
      match archive.parent? with
      | some dir => .ok ⟨archive, searchDirectories dir entries⟩
      | none => .error (.unrecognizedLocation location) := by
  unfold ofLocation
  rw [h]
  rfl

theorem exists_surrounds {currentDir : Except SystemError Path} {location : Text} {archive : Path}
    (hdir : ∀ dir, currentDir = .ok dir → dir.IsAbsolute)
    (h : Location.locate currentDir location = .ok archive) (hne : archive ≠ .ofNames [])
    (entries : List Text) :
    ∃ layout dir name, ofLocation currentDir location entries = .ok layout ∧
      layout.Surrounds entries archive dir name := by
  obtain ⟨dir, name, hparent, hname, hjoin, habsolute⟩ :=
    Path.exists_parent (Location.isReduced_of_locate hdir h) hne
  refine ⟨⟨archive, searchDirectories dir entries⟩, dir, name, ?_, rfl, hparent, hname, hjoin,
    searchedFrom_searchDirectories habsolute entries⟩
  rw [ofLocation_of_ok h, hparent]

/-- The root is in no directory, so there is no layout around it. -/
theorem ofLocation_of_root {currentDir : Except SystemError Path} {location : Text}
    (h : Location.locate currentDir location = .ok (.ofNames [])) (entries : List Text) :
    ofLocation currentDir location entries = .error (.unrecognizedLocation location) := by
  rw [ofLocation_of_ok h, Path.parent?_root]

/--
**A layout lies around every archive but the root.**

The archive is the last name in the directory that is searched from, and there is one search directory
for each entry, in the same order. A location of the root is reported as it was given, with its white
space.
-/
theorem ofLocation_surrounds {currentDir : Except SystemError Path} (location : Text)
    (entries : List Text) (hdir : ∀ dir, currentDir = .ok dir → dir.IsAbsolute) :
    (∀ e, ofLocation currentDir location entries = .error e ↔
      Location.locate currentDir location = .error e ∨
      Location.locate currentDir location = .ok (.ofNames []) ∧ e = .unrecognizedLocation location) ∧
    (Location.locate currentDir location = .ok (.ofNames []) ↔
      ∃ plain, Location.Reads location.trim (.ok plain) ∧
        Path.LeadsToRoot currentDir (.ofText plain)) ∧
    ∀ archive, Location.locate currentDir location = .ok archive → archive ≠ .ofNames [] →
      ∃ layout dir name, ofLocation currentDir location entries = .ok layout ∧
        layout.Surrounds entries archive dir name := by
  refine ⟨fun e => ?_, Location.locate_eq_root_iff hdir,
    fun archive harchive hne => exists_surrounds hdir harchive hne entries⟩
  -- locating fails, or leads to the root, or leads to an archive and then nothing fails
  cases hlocate : Location.locate currentDir location with
  | error reason =>
    rw [ofLocation_of_error hlocate]
    simp
  | ok archive =>
    by_cases hroot : archive = .ofNames []
    · rw [ofLocation_of_root (hroot ▸ hlocate)]
      simp [hroot, eq_comm]
    · obtain ⟨layout, _, _, hlayout, _⟩ := exists_surrounds hdir hlocate hroot entries
      rw [hlayout]
      simp [hroot]

/-- The root, by names that are taken back, by dots that are spelled by number, and by a way out of the
current directory; and an archive in the root. -/
theorem ofLocation_surrounds_root :
    let dir := Path.ofString "/home/user"
    let entries := ["binary".toList, "/usr/lib".toList, ".".toList]
    let layout : Layout := ⟨.ofString "/checkers.jar",
      [.ofString "/binary", .ofString "/usr/lib", .ofString "/."]⟩
    ofLocation (.error .noEntry) " /a/../..\n".toList entries =
      .error (.unrecognizedLocation " /a/../..\n".toList) ∧
    ofLocation (.ok dir) "jar:file:/%2e%2E/!/x".toList entries =
      .error (.unrecognizedLocation "jar:file:/%2e%2E/!/x".toList) ∧
    ofLocation (.ok dir) "../x/../../..".toList entries =
      .error (.unrecognizedLocation "../x/../../..".toList) ∧
    ofLocation (.ok dir) "../../checkers.jar".toList entries = .ok layout ∧
    layout.Surrounds entries (.ofString "/checkers.jar") (.ofString "/")
      (Bytes.ofString "checkers.jar") := by
  intro dir entries layout
  have hdir : ∀ current, (.ok dir : Except SystemError Path) = .ok current → current.IsAbsolute := by
    intro current hcurrent
    obtain rfl := Except.ok.inj hcurrent
    decide
  have hnone : ∀ current, (.error .noEntry : Except SystemError Path) = .ok current →
      current.IsAbsolute := nofun
  have hblank : Location.Reads (Text.trim " /a/../..\n".toList) (.ok "/a/../..".toList) :=
    Location.path?_eq_iff.mp (by decide +kernel)
  have haddress : Location.Reads (Text.trim "jar:file:/%2e%2E/!/x".toList) (.ok "/../".toList) :=
    Location.path?_eq_iff.mp (by decide +kernel)
  have hclimb : Location.Reads (Text.trim "../x/../../..".toList) (.ok "../x/../../..".toList) :=
    Location.path?_eq_iff.mp (by decide +kernel)
  refine ⟨?_, ?_, ?_, ?_⟩
  · obtain ⟨herror, hroot, -⟩ := ofLocation_surrounds " /a/../..\n".toList entries hnone
    exact (herror _).mpr (.inr ⟨hroot.mpr ⟨_, hblank, .absolute (by decide) (by decide)⟩, rfl⟩)
  · obtain ⟨herror, hroot, -⟩ := ofLocation_surrounds "jar:file:/%2e%2E/!/x".toList entries hdir
    exact (herror _).mpr (.inr ⟨hroot.mpr ⟨_, haddress, .absolute (by decide) (by decide)⟩, rfl⟩)
  · obtain ⟨herror, hroot, -⟩ := ofLocation_surrounds "../x/../../..".toList entries hdir
    exact (herror _).mpr
      (.inr ⟨hroot.mpr ⟨_, hclimb, .relative (by decide) rfl (by decide)⟩, rfl⟩)
  · obtain ⟨-, -, hlayout⟩ := ofLocation_surrounds "../../checkers.jar".toList entries hdir
    have hlocate : Location.locate (.ok dir) "../../checkers.jar".toList =
        .ok (.ofString "/checkers.jar") := by decide +kernel
    have hsame : ofLocation (.ok dir) "../../checkers.jar".toList entries = .ok layout := by
      decide +kernel
    have hparent : (Path.ofString "/checkers.jar").parent? = some (.ofString "/") := by decide
    have hname : (Path.ofString "/checkers.jar").fileName? = some (Bytes.ofString "checkers.jar") := by
      decide
    obtain ⟨found, parent, name, hfound, hsurrounds⟩ := hlayout _ hlocate (by decide)
    obtain rfl := Except.ok.inj (hfound.symm.trans hsame)
    obtain rfl := Option.some.inj (hsurrounds.parent.symm.trans hparent)
    obtain rfl := Option.some.inj (hsurrounds.fileName.symm.trans hname)
    exact ⟨hsame, hsurrounds⟩

end Layout

end JavacLauncher
