import JavacLauncher.Shell.Program
import JavacLauncher.Machine.Lookup
import JavacLauncher.Tool.Table

/-!
# Starting programs

The system starts a program from a file: one of its own programs, or a script whose first line names the
program to read it. It refuses files that are not executable, scripts without a known first line, and
arguments that take too much room.
-/

namespace JavacLauncher.Exec

/-- How much of a file the system reads to learn its kind. -/
def lineLimit : Nat := 256

/-- How many scripts may be read by scripts. -/
def scriptLimit : Nat := 6

/-- The longest argument, with the NUL that ends it. -/
def argumentLimit : Nat := 131072

/-- The room for all arguments and the environment. -/
def totalLimit : Nat := 2097152

/-- Blanks in the first line of a script. -/
def isBlank (b : UInt8) : Bool := b = 0x20 || b = 0x09

/--
The program that a script's first line names, and the argument given there. A file that ends with its
mark names the program without a name.
-/
def interpreter? (content : Bytes) : Option (Bytes × Option Bytes) :=
  match content.take lineLimit with
  | 0x23 :: 0x21 :: rest =>
    let line := rest.takeWhile fun b => b ≠ 0x0A && b ≠ 0
    let isCut := line.length = rest.length && content.length ≥ lineLimit
    let isWhole := rest[line.length]? = some 0x0A
    let line := line.dropWhile isBlank
    let name := line.takeWhile fun b => !isBlank b
    let argument := (((line.drop name.length).dropWhile isBlank).reverse.dropWhile isBlank).reverse
    if (name = [] ∧ isWhole) ∨ (isCut ∧ name.length = line.length) then none
    else some (name, if argument = [] then none else some argument)
  | _ => none

/-- The room that texts take: each with a NUL and a pointer. -/
def room (ts : List Text) : Nat := ts.foldl (fun n t => n + t.length + 9) 0

/-- Whether arguments and environment fit. -/
def fits (p : Process) (argv : List Text) : Bool :=
  let environment := p.environment.map fun e => e.1 ++ '=' :: e.2
  (argv ++ environment).all (fun t => t.length + 1 ≤ argumentLimit) &&
    room argv + room environment ≤ totalLimit

/-- A program of the system, by its name. -/
abbrev Programs := Text → Process → List Text → Action Outcome

/-- Starts a program from a file, through as many scripts as the bound allows. -/
def file (programs : Programs) : Nat → Starter
  | 0, _, _, _ => return .error .tooManyLinks
  | n + 1, p, path, argv => do
    match ← p.look path with
    | .error e => return .error e
    | .ok node =>
      match node.kind with
      | .program name =>
        if !node.isExecutable then return .error .permissionDenied
        else if !fits p argv then return .error .argumentsTooLong
        else return .ok (← Machine.whileRunning p.id (programs name p argv))
      | .file content =>
        if !node.isExecutable then return .error .permissionDenied
        else if !fits p argv then return .error .argumentsTooLong
        else
          match interpreter? content with
          | none => return .error .execFormat
          | some ([], _) => return .error .permissionDenied
          | some (name, argument?) =>
            let name := Octets.ofBytes name
            file programs n p name (name :: (argument?.map Octets.ofBytes).toList ++ path :: argv.tail)
      | _ => return .error .permissionDenied

/-- How deep programs may start programs. -/
def depth : Nat := 64

/-- The names under which the system has a shell, with its dialect. -/
def shells : List (Text × Bool) := [("dash", false), ("bash", true)].map fun e => (e.1.toList, e.2)

/-- The programs of the system; each may start others as deep as the bound allows. -/
def programs : Nat → Programs
  | 0, _, _, _ => return .killed (UInt8.ofNat Signal.kill)
  | n + 1, name, p, argv => do
    if !(← Machine.step) then return .killed (UInt8.ofNat Signal.kill)
    let start := file (programs n) scriptLimit
    match shells.lookup name with
    | some isExtended => Shell.program start isExtended p argv
    | none =>
      match Tool.table.lookup name with
      | some tool => tool.run p argv
      | none =>
        match Tool.startingTable.lookup name with
        | some tool => (tool start).run p argv
        | none => return .exited 127

/-- Starts a program from a file of the machine. -/
def start : Starter := file (programs depth) scriptLimit

/-- The permissions that new files do not get. -/
def initialMask : Nat := 0o022

/-- Starts a program by its name, on given streams. A NUL in an argument is refused at once. -/
def command (argv : List Bytes) (descriptors : List (Nat × Nat)) :
    Action (Except SystemError Outcome) := do
  if argv.any (·.contains 0) then return .error .nulInArgument
  let id ← Machine.newProcess
  let m ← get
  let p : Process :=
    { standpoint := m.standpoint
      environment := m.environment.map fun e => (Octets.ofBytes e.1, Octets.ofBytes e.2)
      descriptors := descriptors
      id := id
      parent := 1
      mask := initialMask
      ignored := []
      niceness := 0
      limits := [] }
  named start p (argv.map Octets.ofBytes)

end JavacLauncher.Exec
