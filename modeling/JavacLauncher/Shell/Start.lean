import JavacLauncher.Shell.Builtin.Directory
import JavacLauncher.Shell.Builtin.Process

/-!
# Starting programs from a shell

A name with a slash is the path of a program; any other name is looked up in the directories of `PATH`. A
file of no known format is read by a shell if it looks like text.
-/

namespace JavacLauncher.Shell

/-- How much of a file the shell looks at to see whether it is text. -/
def textLimit : Nat := 128

/-- Characters that no text holds. -/
def isControl (c : Char) : Bool :=
  let n := c.toNat
  n < 9 || (16 ≤ n && n < 27) || (28 ≤ n && n < 32) || n = 127

/-- Whether a file of no known format is a script for the shell: its first line holds text. -/
def isScript (isExtended : Bool) (content : Text) : Bool :=
  let line := (content.take textLimit).takeWhile (· ≠ '\n')
  if isExtended then !line.contains '\x00' && !("\x7fELF".toList.isPrefixOf content)
  else line.all fun c => !isControl c

/-- The status for a program that could not be started: not found, or found and not usable. -/
def startStatus (e : SystemError) : Nat :=
  if e = .noEntry ∨ e = .notDirectory ∨ e = .nameTooLong ∨ e = .tooManyLinks then 127 else 126

/-- How the shell says that a program could not be started. -/
def startMessage (e : SystemError) : Text :=
  match e with
  | .code 2 | .code 20 => "not found".toList
  | .code n => SystemError.describe n
  | e => e.message

/-- The directories in which the system's programs are. -/
def standardDirectories : Text := "/usr/sbin:/usr/bin:/sbin:/bin".toList

/-- The paths to start a program of a name from, the first one being usable, or why there are none. -/
def pathsOf (s : Session) (name : Text) : Except SystemError (List Text) :=
  if '/' ∈ name then .ok [name]
  else
    let paths := Builtin.candidates s name
    match paths.dropWhile fun path => !Builtin.isRunnable s path with
    | [] =>
      .error (paths.foldl (fun e path =>
        match s.machine.tree.look s.process.standpoint (Process.pathOf path) with
        | .ok _ => .permissionDenied
        | .error new => if new = .noEntry ∨ new = .notDirectory then e else new) .noEntry)
    | found => .ok found

variable (starter : Starter)

/-- Starts a program from a file, or lets a shell read the file. -/
def startFile (p : Process) (path : Text) (name : Text) (args : List Text) : Run (Except SystemError Outcome) := do
  let s ← get
  match ← act (starter p path (name :: args)) with
  | .error e =>
    if e = .execFormat then
      match ← act (p.readFile path) with
      | .ok content =>
        let shell := if s.isExtended then "/bin/bash".toList else "/bin/sh".toList
        if isScript s.isExtended content then act (starter p shell (shell :: path :: args))
        else return .error .execFormat
      | .error e => return .error e
    else return .error e
  | result => return result

/-- Tries paths in turn. -/
def startFirst (p : Process) (name : Text) (args : List Text) (worst : SystemError) :
    List Text → Run (Except SystemError Outcome)
  | [] => return .error worst
  | path :: paths => do
    match ← startFile starter p path name args with
    | .ok o => return .ok o
    | .error e => startFirst p name args (if e = .noEntry ∨ e = .notDirectory then worst else e) paths

/-- What the extended dialect says of a program that it could not start. -/
def extendedStartMessage (s : Session) (name : Text) (e : SystemError) : Text :=
  let isDirectory : Bool :=
    match s.machine.tree.look s.process.standpoint (Process.pathOf name) with
    | .ok n => n.kind = .directory
    | .error _ => false
  if '/' ∉ name ∧ (e = .noEntry ∨ e = .notDirectory) then
    name ++ (if s.command? = some "exec".toList then ": not found".toList else ": command not found".toList)
  else if isDirectory ∧ '/' ∈ name then name ++ ": Is a directory".toList
  else if e = .execFormat then name ++ ": cannot execute binary file: Exec format error".toList
  else if e = .noEntry ∧ Builtin.isPresent s name then name ++ ": cannot execute: required file not found".toList
  else name ++ ": ".toList ++ (match e with
    | .code n => SystemError.describe n
    | e => e.message)

/-- Says that a program could not be started. -/
def failToStart (name : Text) (e : SystemError) : Run Unit := do
  let s ← get
  if s.isExtended then failWith (startStatus e) (extendedStartMessage s name e)
  else failWith (startStatus e) (name ++ ": ".toList ++ startMessage e)

/-- Lets a program take the shell's place. -/
def replaceBy (o : Outcome) : Run Unit := do
  modify fun s => { s with traps := [], status := codeOf o }
  match o with
  | .exited _ => throw .exit
  | .killed n => throw (.killed n.toNat)

/-- Runs a program to its end, in the shell's place if nothing comes after it. -/
def runProgram (isLast : Bool) (name : Text) (args : List Text) : Run Unit := do
  let s ← get
  match pathsOf s name with
  | .error e =>
    warn (match s.isExtended with
      | true => extendedStartMessage s name e
      | false => name ++ ": ".toList ++ startMessage e)
    setStatus (if s.isExtended ∧ e = .permissionDenied then 126 else 127)
  | .ok paths =>
    if '/' ∉ name ∧ name ∉ s.located then set { s with located := s.located ++ [name] }
    let s ← get
    let isReplacing := isLast && s.traps.all fun e => e.2 = []
    let id ← if isReplacing then pure s.process.id else act Machine.newProcess
    let parent := if isReplacing then s.process.parent else s.process.id
    let environment :=
      if s.isExtended then
        (s.environment.filter fun e => e.1 ≠ ['_']) ++ [(['_'], (paths.head?).getD name)]
      else s.environment
    let p := { s.process with environment := environment, id := id, parent := parent }
    match ← startFirst starter p name args .noEntry paths with
    | .ok o =>
      if isReplacing then replaceBy o
      else
        setStatus (codeOf o)
        takeSignals
        tellOfSignal o
    | .error e =>
      let named := if s.isExtended then (paths.head?).getD name else name
      failToStart named e
      if isReplacing then throw .exit

/-- Lets a program take the shell's place, or goes wrong. -/
def replaceShell (name : Text) (args : List Text) : Run Unit := do
  let s ← get
  let p := { s.process with environment := s.environment }
  let result ←
    match pathsOf s name with
    | .ok paths => startFirst starter p name args .noEntry paths
    | .error e => pure (.error e)
  match result with
  | .ok o => replaceBy o
  | .error e =>
    if s.isExtended ∧ ('/' ∈ name ∨ e ≠ .noEntry) then
      let absolute := if name.head? = some '/' then name else Builtin.logicalPath s.directory name
      set { s with command? := none }
      failToStart absolute e
      if startStatus e = 126 then warn ("exec: ".toList ++ absolute ++ ": cannot execute: ".toList ++ startMessage e)
    else failToStart name e
    setStatus (startStatus e)
    throw .exit

end JavacLauncher.Shell
