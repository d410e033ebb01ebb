import JavacLauncher.Config.Load
import JavacLauncher.Plan

/-!
# A launch

A launch learns the runtime's version, from the settings or by asking the runtime; finds the archives;
makes the plan; and starts its command. The first stage that fails ends it. Only two stages start a
process: asking for the version, and starting the compiler. The launcher's own exit code is the
compiler's, or 1 if there was a failure.
-/

namespace JavacLauncher.Launch

variable {σ : Type}

/-- The version text that the runtime `java` prints. How the process ends does not matter. -/
def askVersion (host : Host σ) (java : Path) (s : σ) : Except LaunchError Text × σ :=
  match host.collect [java.bytes, Bytes.ofString "-version"] s with
  | (.ok out, s) => (Version.announced (Version.banner out.errors out.output), s)
  | (.error cause, s) => (.error (.execution (java.display ++ ": ".toList ++ cause.message)), s)

/-- The runtime's version: the one that is set, or else the one that the runtime prints. -/
def detectVersion (host : Host σ) (java : Path) (set? : Option Text) (s : σ) :
    Except LaunchError Version × σ :=
  match set? with
  | some t => (Version.parse t.trim, s)
  | none =>
    match askVersion host java s with
    | (.ok t, s) => (Version.parse t.trim, s)
    | (.error e, s) => (.error e, s)

/-- The plan for a runtime of known version. -/
def planFor (host : Host σ) (config : Config) (version : Version) (tokens : List Bytes)
    (classpath? : Option Bytes) (s : σ) : Except LaunchError Plan := do
  let location ← config.selfArchiveLocation host s
  let layout ← Layout.ofLocation (host.currentDir s) location config.searchPaths
  let support ← layout.supportFiles (host.isPresent s) config.compilerArchive version
  return ⟨javaCommand config.javaHome, layout.selfArchive, support, .ofTokens classpath? tokens⟩

/-- The plan of a launch. -/
def plan (host : Host σ) (config : Config) (tokens : List Bytes) (classpath? : Option Bytes) (s : σ) :
    Except LaunchError Plan × σ :=
  match detectVersion host (javaCommand config.javaHome) config.javaVersion s with
  | (.ok version, s) => (planFor host config version tokens classpath? s, s)
  | (.error e, s) => (.error e, s)

/-- The command that starts `command` in one of the two ways. -/
def started (invocation : Invocation) (command : List Bytes) : List Bytes :=
  match invocation with
  | .spawn => command
  | .shell =>
    [Bytes.ofString "sh", Bytes.ofString "-c",
      Utf8.encode (CommandLine.ofArguments (command.map Utf8.decodeLossy))]

/-- Runs a command to its end and gives its exit code. A failure names the command's program. -/
def execute (host : Host σ) (invocation : Invocation) (command : List Bytes) (s : σ) :
    Except LaunchError Nat × σ :=
  match command with
  | [] => (.error (.execution "empty command".toList), s)
  | program :: _ =>
    match host.run (started invocation command) s with
    | (.ok outcome, s) => (.ok outcome.code, s)
    | (.error cause, s) =>
      (.error (.execution (Utf8.decodeLossy program ++ ": ".toList ++ cause.message)), s)

/-- Plans a compiler run and runs it. -/
def launch (host : Host σ) (config : Config) (tokens : List Bytes) (classpath? : Option Bytes) (s : σ) :
    Except LaunchError Nat × σ :=
  match plan host config tokens classpath? s with
  | (.error e, s) => (.error e, s)
  | (.ok plan, s) =>
    match plan.command (host.currentDir s) with
    | .error e => (.error e, s)
    | .ok command => execute host config.invocation command s

/-- A launch with the settings and the class path that the machine gives. -/
def run (host : Host σ) (tokens : List Bytes) (s : σ) : Except LaunchError Nat × σ :=
  match Config.load host s with
  | .error e => (.error e, s)
  | .ok config => launch host config tokens (host.valueOf? s "CLASSPATH".toList) s

/-- The launcher's own exit code. -/
def exitCode : Except LaunchError Nat → Nat
  | .ok code => code
  | .error _ => 1

/-- What the launcher tells the user on the error stream. -/
def report : Except LaunchError Nat → Text
  | .ok _ => []
  | .error e => "checker-javac: ".toList ++ e.message ++ ['\n']

end JavacLauncher.Launch
