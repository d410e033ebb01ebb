import JavacLauncher.Machine.Exec

/-!
# The machine in memory as a host

What a launch asks is answered from the machine's tree, environment and standpoint, and the processes
that it starts run on the machine.
-/

namespace JavacLauncher.Machine

/-- The current directory; it has no name any more once it has been removed. -/
def currentDir (m : Machine) : Except SystemError Path :=
  if m.tree.isGone m.standpoint then .error .noEntry else .ok (.ofNames m.standpoint.place)

/-- Whether a path leads to anything. -/
def isPresent (m : Machine) (p : Path) : Bool := (m.tree.resolve true m.standpoint p).toOption.isSome

/-- Whether a path leads to a regular file. -/
def isFile (m : Machine) (p : Path) : Bool :=
  match m.tree.look m.standpoint p with
  | .ok n => (n.kind matches .file _ | .program _)
  | .error _ => false

/-- What a file holds. -/
def fileContent (m : Machine) (p : Path) : Except SystemError Bytes := m.tree.readFile m.standpoint p

/-- The value of a variable. -/
def valueOf? (m : Machine) (name : Text) : Option Bytes := m.environment.lookup (Utf8.encode name)

/-- Runs a command on the machine's own streams. -/
def run (argv : List Bytes) : Action (Except SystemError Outcome) :=
  Exec.command argv [(0, inputStream), (1, outputStream), (2, errorStream)]

/-- Runs a command without input and collects what it writes. -/
def collect (argv : List Bytes) : Action (Except SystemError Output) := do
  let input ← openStream (.device .null)
  let out ← openStream newBuffer
  let err ← openStream newBuffer
  let result ← Exec.command argv [(0, input), (1, out), (2, err)]
  let output ← takeStream out
  let errors ← takeStream err
  return result.map fun _ => ⟨output, errors⟩

/-- The machine as a host of launches. -/
def host : Host Machine where
  currentDir := currentDir
  isPresent := isPresent
  isFile := isFile
  read := fileContent
  valueOf? := valueOf?
  accountHome? m := m.accountHome?
  program m := .ok m.program
  collect argv m := (collect argv).run m
  run argv m := (run argv).run m

end JavacLauncher.Machine
