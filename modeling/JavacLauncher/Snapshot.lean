import JavacLauncher.Launch

/-!
# A machine as it was found

A program that may look around but not start processes takes a snapshot: variables, directories, and
the files that a launch could ask for. The snapshot is a host of launches. What a runtime would say of
itself has been handed in, and the commands to start are written down.

`settingsFiles` and `supportFiles` say which files a snapshot has to hold: first those that may hold
settings, then, once these are known, those that a launch looks for.
-/

namespace JavacLauncher

/-- What is known of a machine. -/
structure Snapshot where
  environment : List (Text × Bytes)
  currentDir : Except SystemError Path
  program : Except SystemError Path
  /-- The files looked at: what they hold, or why they cannot be read. -/
  files : List (Path × Except SystemError Bytes)
  /-- What the runtime says of itself. -/
  greeting : Bytes
  /-- The commands to start, the first one first. -/
  commands : List (List Bytes)

namespace Snapshot

/-- What is known of a file; a file that was not looked at is missing. -/
def file (s : Snapshot) (p : Path) : Except SystemError Bytes :=
  (s.files.lookup p).getD (.error .noEntry)

/-- The snapshot as a host. Commands are written down and count as successful. -/
def host : Host Snapshot where
  currentDir s := s.currentDir
  isPresent s p := (s.file p).toOption.isSome
  isFile s p := (s.file p).toOption.isSome
  read s p := s.file p
  valueOf? s name := s.environment.lookup name
  accountHome? _ := none
  program s := s.program
  collect _ s := (.ok ⟨[], s.greeting⟩, s)
  run command s := (.ok (.exited 0), { s with commands := s.commands ++ [command] })

/-- The files that may hold settings. -/
def settingsFiles (s : Snapshot) : List Path := Config.files host s

/-- The files that a launch looks for; none if it fails before it looks. -/
def supportFiles (s : Snapshot) : List Path :=
  let found : Except LaunchError (List Path) := do
    let config ← Config.load host s
    let location ← config.selfArchiveLocation host s
    let layout ← Layout.ofLocation s.currentDir location config.searchPaths
    return layout.candidates config.compilerArchive
  found.toOption.getD []

/-- Whether a launch asks the runtime for its version. -/
def asksVersion (s : Snapshot) : Bool :=
  match Config.load host s with
  | .ok config => config.javaVersion.isNone
  | .error _ => false

/-- The commands as lines for a shell. -/
def lines (s : Snapshot) : List Text :=
  s.commands.map fun command =>
    [' '].intercalate (command.map fun arg => CommandLine.protect (Utf8.decodeLossy arg))

end Snapshot

end JavacLauncher
