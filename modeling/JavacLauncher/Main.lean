import JavacLauncher.Snapshot

/-!
# The launcher as a program

Looks at the machine, plans the launch, and prints the command that starts the compiler as a line for
the shell that called it, which starts it with `eval`. The runtime's greeting is read from standard input
where no version is set. A launch that fails is reported on the error stream.
-/

namespace JavacLauncher.Main

/-- Why the system refused something. -/
def cause : IO.Error → SystemError
  | .noFileOrDirectory _ code _ => .code code.toNat
  | .permissionDenied _ code _ => .code code.toNat
  | .inappropriateType _ code _ => .code code.toNat
  | .resourceExhausted _ code _ => .code code.toNat
  | .invalidArgument _ code _ => .code code.toNat
  | _ => .code 5

/-- What a question to the system comes to. -/
def asked {α : Type} (question : IO α) : IO (Except SystemError α) := do
  try return .ok (← question)
  catch e => return .error (cause e)

/-- What the files at some paths hold. -/
def readAll (paths : List Path) : IO (List (Path × Except SystemError Bytes)) :=
  paths.mapM fun p => do
    let content ← asked (IO.FS.readBinFile (String.ofList p.display))
    return (p, content.map fun bs => bs.toList)

/-- All that can be known before any file is read. -/
def look : IO Snapshot := do
  let environment ← Config.variableNames.filterMapM fun name => do
    return (← IO.getEnv (String.ofList name)).map fun value => (name, Bytes.ofString value)
  let currentDir ← asked IO.currentDir
  let program ← asked IO.appPath
  return ⟨environment, currentDir.map fun p => .ofString p.toString,
    program.map fun p => .ofString p.toString, [], [], []⟩

/-- Plans a launch and prints the command that starts it. -/
def run (args : List String) : IO UInt32 := do
  let s ← look
  let s := { s with files := ← readAll s.settingsFiles }
  let s := { s with files := s.files ++ (← readAll s.supportFiles) }
  let greeting ← if s.asksVersion then (← IO.getStdin).readToEnd else pure ""
  let s := { s with greeting := Bytes.ofString greeting }
  let (result, s) := Launch.run Snapshot.host (args.map Bytes.ofString) s
  for line in s.lines do
    IO.println (String.ofList line)
  IO.eprint (String.ofList (Launch.report result))
  return UInt32.ofNat (Launch.exitCode result)

end JavacLauncher.Main

/-- The launcher. -/
def main (args : List String) : IO UInt32 := JavacLauncher.Main.run args
