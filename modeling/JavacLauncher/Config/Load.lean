import JavacLauncher.Config.Basic
import JavacLauncher.Host

/-!
# Where settings are found

A file named in the environment is read, whatever it is. Without one, `launcher.json` beside the
launcher's program is read if it is a regular file, else the one in the user's directory for settings,
else none. Variables whose values are not text count as unset, except for the name of the file, which
may be any bytes.
-/

namespace JavacLauncher.Config

variable {σ : Type}

/-- The variable that names a file of settings. -/
def fileVariable : Text := "CHECKER_LAUNCHER_CONFIG".toList

/-- The name of a file of settings. -/
def fileName : Path := .ofString "launcher.json"

/-- The launcher's directory among the directories for settings. -/
def directoryName : Path := .ofString "checker-launcher"

/-- The settings in the file `path`. -/
def ofFile (host : Host σ) (s : σ) (path : Path) : Except LaunchError Config :=
  match host.read s path with
  | .error cause => .error (.system path cause)
  | .ok content =>
    match Utf8.decode? content with
    | some t => parse t
    | none => .error (.system path .notText)

/-- The directory that holds the launcher's program. -/
def programDirectory (host : Host σ) (s : σ) : Except LaunchError Path :=
  match host.program s with
  | .error cause => .error (.system ⟨[]⟩ cause)
  | .ok program =>
    match program.parent? with
    | some dir => .ok dir
    | none =>
      .error (.invalidConfig
        ("executable ".toList ++ Quoted.bytes program.bytes ++ " has no parent".toList))

/-- The user's home: the one the environment names, else the one the machine keeps. -/
def home? (host : Host σ) (s : σ) : Option Path :=
  match host.valueOf? s "HOME".toList with
  | some (b :: bs) => some ⟨b :: bs⟩
  | _ => host.accountHome? s

/-- The user's directory for settings. A relative path in the environment does not count. -/
def settingsDirectory? (host : Host σ) (s : σ) : Option Path :=
  match (host.valueOf? s "XDG_CONFIG_HOME".toList).filter fun dir => (Path.mk dir).IsAbsolute with
  | some dir => some ⟨dir⟩
  | none => (home? host s).map fun home => home.join (.ofString ".config")

/-- The files that are read if none is named, the first one first. -/
def defaultFiles (host : Host σ) (s : σ) : List Path :=
  (programDirectory host s).toOption.toList.map (·.join fileName) ++
    (settingsDirectory? host s).toList.map fun dir => (dir.join directoryName).join fileName

/-- The files that may be read for the settings. -/
def files (host : Host σ) (s : σ) : List Path :=
  match host.valueOf? s fileVariable with
  | some path => [⟨path⟩]
  | none => defaultFiles host s

/-- The settings before the environment is applied. -/
def base (host : Host σ) (s : σ) : Except LaunchError Config :=
  match host.valueOf? s fileVariable with
  | some path => ofFile host s ⟨path⟩
  | none =>
    match (defaultFiles host s).find? (host.isFile s) with
    | some path => ofFile host s path
    | none => .ok default

/-- The value of a variable, if it is text. -/
def textVariable? (host : Host σ) (s : σ) (name : Text) : Option Text :=
  (host.valueOf? s name).bind Utf8.decode?

/-- The variables that a launch looks at. -/
def variableNames : List Text :=
  [fileVariable, selfArchiveVariable, javaVersionVariable, invocationVariable, javaHomeVariable,
    "HOME".toList, "XDG_CONFIG_HOME".toList, "CLASSPATH".toList]

/-- The settings of a launch. -/
def load (host : Host σ) (s : σ) : Except LaunchError Config := do
  let config ← base host s
  match config.override (textVariable? host s) with
  | (config, .ok ()) => return config
  | (_, .error e) => throw e

/-- Where the launcher's own archive is: as set, or `checkers.jar` beside the launcher's program. -/
def selfArchiveLocation (host : Host σ) (s : σ) (config : Config) : Except LaunchError Text :=
  match config.selfArchive with
  | some location => .ok location
  | none => (programDirectory host s).map fun dir => (dir.join (.ofString "checkers.jar")).display

end JavacLauncher.Config
