import JavacLauncher.Location
import JavacLauncher.Version

/-!
# The installation

Around the launcher's own archive lie the directories in which its support files are looked for: the
compiler, and the annotated library for the runtime's version. The first directory that holds a file
wins. Files that are in none of them are reported together.

What exists is a parameter, `isPresent`, so that the search is a function of it.
-/

namespace JavacLauncher

/-- Where a file was looked for. A file that is nowhere is placed in the last directory. -/
structure Lookup where
  path : Path
  isFound : Bool
  deriving DecidableEq, Repr, Inhabited

namespace Lookup

/-- The name that reports use: the file's own, or the whole path if it ends in no name. -/
def name (l : Lookup) : Text :=
  match l.path.fileName? with
  | some n => Utf8.decodeLossy n
  | none => l.path.display

/-- Looks for `name` in the directories, in order. -/
def find (isPresent : Path → Bool) (name : Text) (dirs : List Path) : Except LaunchError Lookup :=
  match dirs.getLast? with
  | none => .error .emptyPathSet
  | some last =>
    match dirs.find? fun dir => isPresent (dir.join (.ofText name)) with
    | some dir => .ok ⟨dir.join (.ofText name), true⟩
    | none => .ok ⟨last.join (.ofText name), false⟩

/-- Fails if a file was not found, with the names of all that were not. -/
def ensureFound (files : List Lookup) : Except LaunchError Unit :=
  match files.filter fun l => !l.isFound with
  | [] => .ok ()
  | missing => .error (.missingFiles (missing.map name))

end Lookup

/-- The files that a compiler run needs beside the launcher's own archive. -/
structure SupportFiles where
  compiler : Path
  library : Path
  deriving DecidableEq, Repr, Inhabited

/-- The launcher's own archive and the directories searched for support files. -/
structure Layout where
  selfArchive : Path
  searchDirs : List Path
  deriving DecidableEq, Repr, Inhabited

namespace Layout

/-- The search directories: each entry seen from the archive's directory. -/
def searchDirectories (dir : Path) (entries : List Text) : List Path :=
  entries.map fun entry => dir.join (.ofText entry)

/-- The layout around the archive at `location`. The root is in no directory, so it is no archive. -/
def ofLocation (currentDir : Except SystemError Path) (location : Text) (entries : List Text) :
    Except LaunchError Layout := do
  let archive ← Location.locate currentDir location
  match archive.parent? with
  | some dir => return ⟨archive, searchDirectories dir entries⟩
  | none => throw (.unrecognizedLocation location)

/-- Every path at which a support file is looked for, for any version. -/
def candidates (compiler : Text) (layout : Layout) : List Path :=
  let names := compiler :: (Version.annotatedLibraries.map (·.2)).eraseDups
  layout.searchDirs.flatMap fun dir => names.map fun name => dir.join (.ofText name)

/-- The support files for a runtime of version `v`. -/
def supportFiles (isPresent : Path → Bool) (compiler : Text) (v : Version) (layout : Layout) :
    Except LaunchError SupportFiles := do
  let library ← v.annotatedLibrary
  let compiler ← Lookup.find isPresent compiler layout.searchDirs
  let library ← Lookup.find isPresent library layout.searchDirs
  Lookup.ensureFound [compiler, library]
  return ⟨compiler.path, library.path⟩

end Layout

end JavacLauncher
