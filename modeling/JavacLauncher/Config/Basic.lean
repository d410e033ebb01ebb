import JavacLauncher.Invocation
import JavacLauncher.Json.Reader

/-!
# Settings

Settings come from a file and from the environment. A file is a JSON object with a field for each
setting, or an array of the settings in their order; what it leaves out has the default value. Fields
of other names are for others to read, but a setting may not be given twice.

The environment wins over the file, with one exception: `JAVA_HOME` is used only if no other home is
given. A setting is applied before the next variable is looked at, so a bad invocation leaves the
settings before it changed (`override` gives both the outcome and the settings).
-/

namespace JavacLauncher

/-- The launcher's settings. -/
structure Config where
  /-- Where the launcher's own archive is. -/
  selfArchive : Option Text
  /-- The directories to search for support files, seen from the archive's directory. -/
  searchPaths : List Text
  /-- The name of the compiler's archive. -/
  compilerArchive : Text
  /-- The home directory of the runtime. -/
  javaHome : Option Path
  /-- The runtime's version, if the runtime is not to be asked. -/
  javaVersion : Option Text
  invocation : Invocation
  deriving DecidableEq, Repr

namespace Config

/-- The settings without a file and without variables. -/
def default : Config where
  selfArchive := none
  searchPaths := ["binary".toList, ".".toList]
  compilerArchive := "javac.jar".toList
  javaHome := none
  javaVersion := none
  invocation := .spawn

instance : Inhabited Config := ⟨default⟩

/-! ## From a file -/

/-- The text of a string. -/
def text? : Json → Option Text
  | .string content? => content?
  | _ => none

/-- A text or nothing. -/
def optionalText? : Json → Option (Option Text)
  | .null => some none
  | v => (text? v).map some

/-- A list of texts. -/
def texts? : Json → Option (List Text)
  | .array items => items.mapM text?
  | _ => none

/-- An invocation: its name, or an object whose only field has that name and no value. -/
def invocation? : Json → Option Invocation
  | .string (some name) => Invocation.ofName? name
  | .object [(some name, .null)] => Invocation.ofName? name
  | _ => none

/-- The names of the settings, in their order. -/
inductive Setting where
  | selfArchive | searchPaths | compilerArchive | javaHome | javaVersion | invocation
  deriving DecidableEq, Repr, Inhabited

/-- All settings, in the order in which an array gives them. -/
def Setting.all : List Setting :=
  [.selfArchive, .searchPaths, .compilerArchive, .javaHome, .javaVersion, .invocation]

/-- The name of a setting's field. -/
def Setting.name : Setting → Text
  | .selfArchive => "self_archive".toList
  | .searchPaths => "search_paths".toList
  | .compilerArchive => "compiler_archive".toList
  | .javaHome => "java_home".toList
  | .javaVersion => "java_version".toList
  | .invocation => "invocation".toList

/-- The setting whose field has a name. -/
def Setting.ofName? (name : Text) : Option Setting := all.find? fun s => s.name = name

/-- The settings with one of them given by a value of a file. -/
def set? (c : Config) (s : Setting) (v : Json) : Option Config :=
  match s with
  | .selfArchive => (optionalText? v).map fun x => { c with selfArchive := x }
  | .searchPaths => (texts? v).map fun x => { c with searchPaths := x }
  | .compilerArchive => (text? v).map fun x => { c with compilerArchive := x }
  | .javaHome => (optionalText? v).map fun x => { c with javaHome := x.map .ofText }
  | .javaVersion => (optionalText? v).map fun x => { c with javaVersion := x }
  | .invocation => (invocation? v).map fun x => { c with invocation := x }

/-- Reads fields into the settings `c`; those in `seen` may not be given again. -/
def ofFields? (c : Config) (seen : List Setting) : List (Option Text × Json) → Option Config
  | [] => some c
  | (none, _) :: _ => none
  | (some name, v) :: fields =>
    match Setting.ofName? name with
    | none => ofFields? c seen fields
    | some s =>
      if s ∈ seen then none
      else do
        let c ← c.set? s v
        ofFields? c (s :: seen) fields

/-- Reads values into the settings `c`, each into the setting at its place. -/
def ofItems? (c : Config) : List Setting → List Json → Option Config
  | _, [] => some c
  | [], _ :: _ => none
  | s :: ss, v :: vs => do
    let c ← c.set? s v
    ofItems? c ss vs

/-- The settings that a value holds. -/
def ofJson? : Json → Option Config
  | .object fields => ofFields? default [] fields
  | .array items => ofItems? default Setting.all items
  | _ => none

/-- The settings that a text holds. -/
def parse (t : Text) : Except LaunchError Config :=
  match (Json.read? t).bind ofJson? with
  | some c => .ok c
  | none => .error .malformedConfig

/-! ## From the environment -/

/-- The variable that gives the location of the launcher's own archive. -/
def selfArchiveVariable : Text := "CHECKER_LAUNCHER_SELF_ARCHIVE".toList

/-- The variable that gives the runtime's version. -/
def javaVersionVariable : Text := "CHECKER_LAUNCHER_JAVA_VERSION".toList

/-- The variable that gives the invocation. -/
def invocationVariable : Text := "CHECKER_LAUNCHER_INVOCATION".toList

/-- The variable that gives the runtime's home for all programs. -/
def javaHomeVariable : Text := "JAVA_HOME".toList

/-- The variables that win over the file whatever else is set. -/
def overrideTexts (valueOf? : Text → Option Text) (c : Config) : Config :=
  { c with
    selfArchive := (valueOf? selfArchiveVariable).or c.selfArchive
    javaVersion := (valueOf? javaVersionVariable).or c.javaVersion }

/-- The home that `JAVA_HOME` names, unless it is blank. -/
def environmentHome? (valueOf? : Text → Option Text) : Option Path :=
  ((valueOf? javaHomeVariable).filter fun home => home.trim ≠ []).map .ofText

/-- Applies the environment to settings: the settings that result, and whether all went well. -/
def override (valueOf? : Text → Option Text) (c : Config) : Config × Except LaunchError Unit :=
  let c := c.overrideTexts valueOf?
  match (valueOf? invocationVariable).mapM Invocation.parse with
  | .error e => (c, .error e)
  | .ok invocation? =>
    ({ c with
        invocation := invocation?.getD c.invocation
        javaHome := c.javaHome.or (environmentHome? valueOf?) }, .ok ())

end Config

end JavacLauncher
