import JavacLauncher.Shell.Eval

/-!
# The shell as a program

A shell is told on its command line which options are on and where its commands are: in an argument, in a
file, or on standard input. It begins with the variables of its environment and some of its own.
-/

namespace JavacLauncher.Shell

/-- How deep commands may stand within commands and calls. -/
def maxDepth : Nat := 12000

/-- The directories of `PATH` where the environment has none. -/
def defaultDirectories : Text := "/usr/local/sbin:/usr/local/bin:/usr/sbin:/usr/bin:/sbin:/bin".toList

/-- The path of the current directory as a new shell has it: the one it is told, if that leads there. -/
def initialDirectory (m : Machine) (p : Process) : Option Text :=
  let told? := (p.valueOf? "PWD".toList).filter fun t =>
    t.head? = some '/' &&
      (match m.tree.directory p.standpoint (Process.pathOf t) with
        | .ok at_ => at_.node = p.standpoint.node
        | .error _ => false)
  match told? with
  | some t => some t
  | none =>
    if m.tree.isGone p.standpoint then none
    else some (Octets.ofBytes (Path.ofNames p.standpoint.place).bytes)

/-- A session before anything is known of it. -/
def Session.start (isExtended : Bool) (m : Machine) (p : Process) : Session where
  machine := m
  process := p
  shellId := p.id
  bindings := []
  functions := []
  positional := []
  name := "sh".toList
  command? := none
  status := 0
  substituted := 0
  line := if isExtended then 1 else 0
  callers := []
  options := if isExtended then ['h', 'B'] else []
  extras := if isExtended then ["sourcepath", "checkwinsize", "cmdhist", "globskipdots"].map String.toList else []
  loops := 0
  saved := []
  traps := []
  arrived := []
  aliases := []
  located := []
  documents := #[]
  jobs := []
  lastJob? := none
  optionIndex := 1
  optionOffset := 0
  isWriteFailed := false
  directory := []
  directories := []
  isExtended := isExtended
  isSubshell := false
  showsCommands := true
  sources := []
  random := p.id
  startTime := 0
  isInTrap := false
  earlierStatus? := none

/-- What the two dialects give a variable at first. -/
def initialValues (isExtended : Bool) (p : Process) : List (Text × Text) :=
  let both := [("OPTIND", "1"), ("PS4", "+ ")]
  let plain := [("PS1", "# "), ("PS2", "> "), ("IFS", " \t\n")]
  let extended :=
    [("BASH", "/bin/bash"), ("BASH_VERSION", "5.2.21(1)-release"), ("HOSTTYPE", "x86_64"),
      ("MACHTYPE", "x86_64-pc-linux-gnu"), ("OSTYPE", "linux-gnu"), ("UID", "0"), ("EUID", "0"), ("OPTERR", "1"),
      ("HOSTNAME", "localhost"), ("TERM", "dumb"), ("IFS", " \t\n")]
  ((both ++ if isExtended then extended else plain).map fun e => (e.1.toList, e.2.toList)) ++
    [("PPID".toList, Text.ofNat p.parent), ("PATH".toList, defaultDirectories)]

/-- The variables that keep the value a shell gives them, whatever the environment says. -/
def ownNames : List Text := ["IFS", "OPTIND", "PPID"].map String.toList

/-- Gives a session the variables it begins with. -/
def Session.withVariables (s : Session) : Session :=
  let p := s.process
  let s := (initialValues s.isExtended p).foldl (fun s e => s.putText e.1 e.2) s
  let s := (p.environment.filter fun e => isName e.1).foldl (fun s e =>
    (if e.1 ∈ ownNames then s else s.putText e.1 e.2).share e.1) s
  let directory := (initialDirectory s.machine p).getD []
  let s := ({ s with directory := directory }.putText "PWD".toList directory).share "PWD".toList
  if s.isExtended then
    let level := ((p.valueOf? "SHLVL".toList).bind numeral?).getD 0
    let s := (s.putText "SHLVL".toList (Text.ofNat (level + 1))).share "SHLVL".toList
    let s := s.share "OLDPWD".toList
    let version := ["5", "2", "21", "1", "release", "x86_64-pc-linux-gnu"].map String.toList
    s.put "BASH_VERSINFO".toList (.list (version.zipIdx.map fun e => (e.2, e.1)))
  else s

/-- Where the commands of a shell are. -/
inductive Script where
  | text (t : Text)
  | file (path : Text)
  | input
  deriving DecidableEq, Repr, Inhabited

/-- What a command line says: the options that are on, what the shell is called, where its commands are, and
its arguments. -/
structure CommandLine where
  options : List Char
  name : Text
  script : Script
  arguments : List Text
  deriving Repr, Inhabited

/-- The options of a command line. -/
structure LineOptions where
  letters : List Char
  hasText : Bool
  readsInput : Bool
  rest : List Text
  deriving Repr, Inhabited

/-- Long options of the extended dialect, which change nothing here. -/
def longOptions : List Text :=
  ["--norc", "--noprofile", "--login", "--posix", "--verbose", "--noediting", "--restricted"].map String.toList

/-- Reads the options of a command line, or says what is wrong with them. -/
def readLineOptions (isExtended : Bool) : Nat → LineOptions → Except Text LineOptions
  | 0, o => .ok o
  | n + 1, o =>
    match o.rest with
    | ['-'] :: rest | ['-', '-'] :: rest => .ok { o with rest := rest }
    | (sign :: c :: t) :: rest =>
      if isExtended ∧ (sign :: c :: t) ∈ longOptions then readLineOptions isExtended n { o with rest := rest }
      else if sign ≠ '-' ∧ sign ≠ '+' then .ok o
      else do
        let o ← readLetters (sign = '-') (c :: t) { o with rest := rest }
        readLineOptions isExtended n o
    | _ => .ok o
where
  readLetters (isOn : Bool) : Text → LineOptions → Except Text LineOptions
    | [], o => .ok o
    | c :: t, o => do
      let turn (c : Char) : LineOptions :=
        { o with letters := (if isOn then [c] else []) ++ o.letters.filter (· ≠ c) }
      if c = 'c' then readLetters isOn t { o with hasText := true }
      else if c = 'l' then readLetters isOn t o
      else if c = 's' then readLetters isOn t { turn c with readsInput := isOn }
      else if c = 'o' ∨ (c = 'O' ∧ isExtended) then
        match o.rest with
        | name :: rest =>
          match (optionNames isExtended).lookup (String.ofList name) with
          | some c => readLetters isOn t { turn c with rest := rest }
          | none =>
            if c = 'O' then readLetters isOn t { o with rest := rest }
            else if isExtended then throw (name ++ ": invalid option name".toList)
            else throw ("Illegal option ".toList ++ (if isOn then ['-'] else ['+']) ++ "o ".toList ++ name)
        | [] => readLetters isOn t o
      else if (optionNames isExtended).any (fun e => e.2 = c) ∨ (isExtended ∧ (c = 'i' ∨ c = 'r' ∨ c = 'D')) then
        readLetters isOn t (turn c)
      else if isExtended then throw ((if isOn then '-' else '+') :: c :: ": invalid option".toList)
      else throw ("Illegal option ".toList ++ [if isOn then '-' else '+', c])

/-- Reads a command line. -/
def CommandLine.read (isExtended : Bool) (argv : List Text) : Except Text CommandLine := do
  let own := argv.headD "sh".toList
  let o ← readLineOptions isExtended (argv.length + 1) ⟨[], false, false, argv.tail⟩
  match o.hasText, o.rest with
  | true, [] =>
    throw (if isExtended then "-c: option requires an argument".toList else "-c requires an argument".toList)
  | true, t :: rest =>
    return ⟨(if isExtended then ['c'] else []) ++ o.letters, rest.headD own, .text t, rest.tail⟩
  | false, [] => return ⟨o.letters ++ ['s'], own, .input, []⟩
  | false, file :: rest =>
    if o.readsInput then return ⟨o.letters, own, .input, file :: rest⟩
    else return ⟨o.letters, file, .file file, rest⟩

variable (starter : Starter)

/-- Runs a text in a new shell. -/
def runShell (isExtended : Bool) (p : Process) (line : CommandLine) (isWhole : Bool) (script : Text) :
    Action Outcome := do
  let m ← get
  if m.tree.isGone p.standpoint ∧ (initialDirectory m p).isNone then
    p.complain (if isExtended then
        "shell-init: error retrieving current directory: getcwd: cannot access parent directories: ".toList ++
          SystemError.describe 2
      else "sh: 0: getcwd() failed: ".toList ++ SystemError.describe 2)
  let s := (Session.start isExtended (← get) p).withVariables
  let session := { s with
    options := line.options ++ s.options
    name := line.name
    positional := line.arguments
    line := 1
    sources := match line.script with
      | .file path => [path]
      | _ => [] }
  let self := evaluate starter maxDepth
  runToEnd self session (runText self { isTested := false, isLast := isWhole } script)

/-- The path of a script that the extended dialect is given by name. -/
def scriptPath (m : Machine) (p : Process) (name : Text) : Text :=
  let isPresent (path : Text) : Bool := (m.tree.look p.standpoint (Process.pathOf path)).toOption.isSome
  if '/' ∈ name ∨ isPresent name then name
  else
    let dirs := ((p.valueOf? "PATH".toList).getD defaultDirectories).splitOn ':'
    ((dirs.map fun d => d ++ '/' :: name).find? isPresent).getD name

/-- The shell: commands in an argument, in a file, or on standard input. -/
def program (isExtended : Bool) (p : Process) (argv : List Text) : Action Outcome := do
  let own := argv.headD "sh".toList
  let fail (t : Text) : Action Outcome := do
    p.complain (own ++ (if isExtended then ": ".toList else ": 0: ".toList) ++ t)
    return .exited 2
  match CommandLine.read isExtended argv with
  | .error message => fail message
  | .ok line =>
    match line.script with
    | .text t => runShell starter isExtended p line true t
    | .input => runShell starter isExtended p line false (← p.readInput)
    | .file name =>
      let m ← get
      let path := if isExtended then scriptPath m p name else name
      match ← p.openFile path .toRead with
      | .error e =>
        if isExtended then
          let _ ← fail (name ++ ": ".toList ++ (match e with
            | .code n => SystemError.describe n
            | e => e.message))
          return .exited (if e = .noEntry then 127 else 126)
        else fail ("cannot open ".toList ++ name ++ ": ".toList ++ openMessage false e)
      | .ok stream =>
        match ← Machine.read stream none with
        | .ok bs =>
          let t := Octets.ofBytes bs
          if isExtended ∧ !isScript true t then
            let _ ← fail (name ++ ": ".toList ++ name ++ ": cannot execute binary file".toList)
            return .exited 126
          else runShell starter isExtended p line false t
        | .error e =>
          if isExtended then
            let _ ← fail (name ++ ": ".toList ++ (match e with
              | .code n => SystemError.describe n
              | e => e.message))
            return .exited 126
          else runShell starter isExtended p line false []

end JavacLauncher.Shell
