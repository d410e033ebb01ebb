import JavacLauncher.Machine.Basic
import JavacLauncher.Machine.Signal
import JavacLauncher.Shell.Arithmetic
import JavacLauncher.Shell.Parser
import JavacLauncher.Shell.Pattern

/-!
# The state of a shell

A shell has variables, functions and arguments of its own beside the process it runs in. Commands are
run in `Run`: they change the session, and they may jump, out of a loop, a function or the whole shell.

A command that goes wrong leaves a message and a status. In some places it also ends the shell, or, in the
extended dialect, the line it stands on; then it jumps.
-/

namespace JavacLauncher.Shell

/-- A jump out of the commands being run. The status is the session's. -/
inductive Jump where
  /-- The shell ends. -/
  | exit
  /-- Something went wrong that a shell does not go on after. -/
  | failure
  /-- The rest of the line is left out. -/
  | abandon
  | killed (signal : Nat)
  /-- Out of so many loops. -/
  | leave (loops : Nat)
  /-- To the next round of the loop so many loops out. -/
  | next (loops : Nat)
  | leaveFunction
  deriving DecidableEq, Repr, Inhabited

/-- What a variable holds. -/
inductive Content where
  | text (t : Text)
  /-- An array: its elements by their numbers, in order. -/
  | list (elements : List (Nat × Text))
  /-- An array whose subscripts are texts. -/
  | table (elements : List (Text × Text))
  deriving DecidableEq, Repr, Inhabited

/-- What else is known of a variable. -/
structure Traits where
  isExported : Bool
  isFixed : Bool
  /-- What is assigned is an expression. -/
  isInteger : Bool
  /-- Letters become small, or big. -/
  isLower : Bool
  isUpper : Bool
  deriving DecidableEq, Repr, Inhabited

/-- A variable. It may have traits without having a value. -/
structure Variable where
  name : Text
  content : Option Content
  traits : Traits
  deriving DecidableEq, Repr, Inhabited

/-- What a function gives back when it ends. -/
inductive Saved where
  | variable (name : Text) (old : Option Variable)
  | options (letters : List Char)
  deriving Repr, Inhabited

/-- A function. -/
structure Function where
  line : Nat
  body : Command

/-- A command in the background. -/
structure Job where
  process : Process
  /-- What is still to be run. -/
  body? : Option (Action Outcome)
  /-- How it ended. -/
  outcome? : Option Outcome
  deriving Inhabited

structure Session where
  machine : Machine
  process : Process
  /-- The number of the process that the shell began in; its subshells go by it too. -/
  shellId : Nat
  bindings : List Variable
  functions : List (Text × Function)
  /-- The arguments. -/
  positional : List Text
  /-- What the shell is called in messages. -/
  name : Text
  /-- The command of the shell itself that is being run. -/
  command? : Option Text
  status : Nat
  /-- The status of the last substitution in the command being run. -/
  substituted : Nat
  line : Nat
  /-- The functions being called. -/
  callers : List Text
  /-- The options that are on, by their letters. -/
  options : List Char
  /-- The options of the extended dialect that are on. -/
  extras : List Text
  /-- How many loops are being run in the function being called. -/
  loops : Nat
  /-- What the commands being run have made their own. -/
  saved : List (List Saved)
  /-- Scripts to run when a signal comes; 0 stands for the end of the shell. -/
  traps : List (Nat × Text)
  /-- Signals whose scripts are still to be run. -/
  arrived : List Nat
  aliases : List (Text × Text)
  /-- The programs that have been found by name, in the order in which they were found. -/
  located : List Text
  documents : Array Word
  jobs : List Job
  lastJob? : Option Nat
  /-- The argument that the search for options has come to, and how far into the one before it. -/
  optionIndex : Nat
  optionOffset : Nat
  /-- Whether the command being run could not write. -/
  isWriteFailed : Bool
  /-- The current directory by the names that led to it. -/
  directory : Text
  directories : List Text
  isExtended : Bool
  isSubshell : Bool
  /-- Whether commands are shown; not while the text in front of them is made. -/
  showsCommands : Bool
  /-- The names of the files read for commands. -/
  sources : List Text
  random : Nat
  startTime : Nat
  isInTrap : Bool
  /-- The status from before the script of a signal, or of the end of the shell, that is being run. -/
  earlierStatus? : Option Nat
  deriving Inhabited

abbrev Run := ExceptT Jump (StateM Session)

/-- Does something to the machine. -/
def act {α : Type} (a : Action α) : Run α := do
  let s ← get
  let (x, m) := a s.machine
  set { s with machine := m }
  return x

def setStatus (n : Nat) : Run Unit := modify fun s => { s with status := n }

/-- What a command is evaluated as. -/
structure Flags where
  /-- Its status is looked at, so failing does not end the shell. -/
  isTested : Bool
  /-- Nothing comes after it. -/
  isLast : Bool
  deriving DecidableEq, Repr, Inhabited

namespace Flags

def plain : Flags := ⟨false, false⟩
def tested : Flags := ⟨true, false⟩
def last : Flags := ⟨false, true⟩

/-- The flags of a part that something comes after. -/
def notLast (f : Flags) : Flags := { f with isLast := false }

end Flags

/-! ## Options -/

/-- The long names of options, in the order in which they are shown. -/
def plainOptionNames : List (String × Char) :=
  [("errexit", 'e'), ("noglob", 'f'), ("ignoreeof", 'I'), ("interactive", 'i'), ("monitor", 'm'), ("noexec", 'n'),
    ("stdin", 's'), ("xtrace", 'x'), ("verbose", 'v'), ("vi", 'V'), ("emacs", 'E'), ("noclobber", 'C'),
    ("allexport", 'a'), ("notify", 'b'), ("nounset", 'u'), ("privileged", 'p'), ("nolog", '\x01'), ("debug", '\x02')]

/-- Those of the extended dialect. -/
def extendedOptionNames : List (String × Char) :=
  [("allexport", 'a'), ("braceexpand", 'B'), ("emacs", '\x03'), ("errexit", 'e'), ("errtrace", 'E'),
    ("functrace", 'T'), ("hashall", 'h'), ("histexpand", 'H'), ("history", '\x04'), ("ignoreeof", '\x05'),
    ("interactive-comments", '\x06'), ("keyword", 'k'), ("monitor", 'm'), ("noclobber", 'C'), ("noexec", 'n'),
    ("noglob", 'f'), ("nolog", '\x01'), ("notify", 'b'), ("nounset", 'u'), ("onecmd", 't'), ("physical", 'P'),
    ("pipefail", '\x07'), ("posix", '\x08'), ("privileged", 'p'), ("verbose", 'v'), ("vi", '\x0e'), ("xtrace", 'x')]

/-- The letter of pipelines that fail with any of their parts. -/
def pipefail : Char := '\x07'

/-- The long names of options in a dialect. -/
def optionNames (isExtended : Bool) : List (String × Char) :=
  if isExtended then extendedOptionNames else plainOptionNames

/-! ## Messages -/

/-- What messages begin with: the name of the shell, the line, and the command if there is one. -/
def Session.front (s : Session) : Text :=
  let line := (if s.isExtended then "line ".toList else []) ++ Text.ofNat s.line
  s.name ++ ": ".toList ++ line ++ ": ".toList ++
    match s.command? with
    | some c => c ++ ": ".toList
    | none => []

/-- The deepest nesting of calls in the plain dialect. -/
def maxCalls : Nat := 1000

/-- A message of the shell. -/
def warn (t : Text) : Run Unit := do
  let s ← get
  act (s.process.complain (s.front ++ t))

/-- A message, and a status. -/
def failWith (status : Nat) (t : Text) : Run Unit := do
  warn t
  setStatus status

/-- A message, and the end of the shell, or of the command of the shell that it comes from. -/
def abort {α : Type} (t : Text) : Run α := do
  warn t
  let s ← get
  setStatus (if s.isExtended then 1 else 2)
  throw (if s.isExtended then .abandon else .failure)

/-- A message, and the end of the shell of the extended dialect, because a parameter cannot be replaced. The
status tells a shell whose commands are an argument from others. -/
def endOfExtended {α : Type} (t : Text) : Run α := do
  modify fun s => { s with command? := none }
  warn t
  let s ← get
  setStatus (if s.options.contains 'c' ∧ !s.isSubshell then 127 else 1)
  throw .failure

/-- A message in which the command being run is not named. -/
def abortPlainly {α : Type} (t : Text) : Run α := do
  if (← get).isExtended then modify fun s => { s with command? := none }
  abort t

/-! ## Variables -/

def Traits.none : Traits := ⟨false, false, false, false, false⟩

namespace Content

/-- The element at a number. -/
def at? (c : Content) (n : Nat) : Option Text :=
  match c with
  | .text t => if n = 0 then some t else none
  | .list es => es.lookup n
  | .table es => es.lookup (Text.ofNat n)

/-- What an array is where a text is asked for. -/
def text? (c : Content) : Option Text := c.at? 0

/-- All elements. -/
def elements : Content → List Text
  | .text t => [t]
  | .list es => es.map (·.2)
  | .table es => es.map (·.2)

/-- All subscripts. -/
def subscripts : Content → List Text
  | .text _ => [['0']]
  | .list es => es.map fun e => Text.ofNat e.1
  | .table es => es.map (·.1)

/-- Elements with one more, or another one, at a number. -/
def insertAt (n : Nat) (t : Text) : List (Nat × Text) → List (Nat × Text)
  | [] => [(n, t)]
  | (m, u) :: es =>
    if n < m then (n, t) :: (m, u) :: es
    else if n = m then (n, t) :: es
    else (m, u) :: insertAt n t es

/-- The place of a subscript that is a text among the others. -/
def place (k : Text) : Nat :=
  k.foldl (fun n c => (n * 16777619 % 4294967296) ^^^ c.toNat) 2166136261 % 1024

/-- Elements with one more, or another one, at a text. -/
def insertUnder (k t : Text) : List (Text × Text) → List (Text × Text)
  | [] => [(k, t)]
  | (l, u) :: es =>
    if k = l then (k, t) :: es
    else if place k ≤ place l ∧ (es.lookup k).isNone then (k, t) :: (l, u) :: es
    else (l, u) :: insertUnder k t es

end Content

namespace Session

def has (s : Session) (letter : Char) : Bool := s.options.contains letter

def hasExtra (s : Session) (name : String) : Bool := s.extras.contains name.toList

def find? (s : Session) (name : Text) : Option Variable := s.bindings.find? fun v => v.name = name

/-- The values of parameters of the extended dialect that go on by themselves. -/
def livingValue? (s : Session) (name : Text) : Option Text :=
  if s.isExtended then
    match String.ofList name with
    | "LINENO" => some (Text.ofNat s.line)
    | "RANDOM" => some (Text.ofNat ((s.random / 65536) % 32768))
    | "SECONDS" => some ['0']
    | "BASHPID" => some (Text.ofNat s.process.id)
    | _ => none
  else none

/-- The content of a variable. -/
def content? (s : Session) (name : Text) : Option Content :=
  match s.livingValue? name with
  | some t => some (.text t)
  | none =>
    match s.isExtended, String.ofList name with
    | true, "FUNCNAME" => if s.callers = [] then none else some (.list (s.callers.zipIdx.map fun e => (e.2, e.1)))
    | true, "BASH_SOURCE" => some (.list (s.sources.zipIdx.map fun e => (e.2, e.1)))
    | true, "DIRSTACK" => some (.list ((s.directory :: s.directories).zipIdx.map fun e => (e.2, e.1)))
    | true, "PIPESTATUS" =>
      ((s.find? name).bind Variable.content).orElse fun _ => some (.list [(0, Text.ofNat s.status)])
    | _, _ => (s.find? name).bind Variable.content

/-- The value of a variable as a text. -/
def valueOf? (s : Session) (name : Text) : Option Text := (s.content? name).bind Content.text?

/-- Puts a variable in the place of the one of its name, or behind all others. -/
def putVariable (s : Session) (v : Variable) : Session :=
  if s.bindings.any fun w => w.name = v.name then
    { s with bindings := s.bindings.map fun w => if w.name = v.name then v else w }
  else { s with bindings := s.bindings ++ [v] }

/-- Drops a variable. -/
def dropVariable (s : Session) (name : Text) : Session :=
  { s with bindings := s.bindings.filter fun v => v.name ≠ name }

/-- The variable of a name, or a new one. -/
def variableOf (s : Session) (name : Text) : Variable := (s.find? name).getD ⟨name, none, .none⟩

/-- Gives a variable a content, with no regard to anything else. -/
def put (s : Session) (name : Text) (c : Content) : Session :=
  s.putVariable { s.variableOf name with content := some c }

def putText (s : Session) (name value : Text) : Session := s.put name (.text value)

/-- Lets the programs that the shell starts see a variable. -/
def share (s : Session) (name : Text) : Session :=
  let v := s.variableOf name
  s.putVariable { v with traits := { v.traits with isExported := true } }

/-- Keeps a variable from being changed. -/
def fix (s : Session) (name : Text) : Session :=
  let v := s.variableOf name
  s.putVariable { v with traits := { v.traits with isFixed := true } }

/-- The bucket that the plain dialect keeps a variable in; it lists variables bucket by bucket. -/
def bucket (name : Text) : Nat :=
  match name with
  | [] => 0
  | c :: _ => (name.foldl (fun n c => n + c.toNat) (c.toNat * 16)) % 39

/-- The variables of the plain dialect that come first in their buckets. -/
def firstNames : List Text :=
  ["OPTIND", "PS4", "PS2", "PS1", "PATH", "MAILPATH", "MAIL", "IFS"].map String.toList

/-- Variables in the order in which the plain dialect lists them. -/
def listed (vs : List Variable) : List Variable :=
  let first := firstNames.filterMap fun n => vs.find? fun v => v.name = n
  let others := vs.filter fun v => v.name ∉ firstNames
  let all := (first ++ others).map fun v => (bucket v.name, v)
  (all.mergeSort fun a b => a.1 ≤ b.1).map (·.2)

/-- The environment of the programs that the shell starts. -/
def environment (s : Session) : List (Text × Text) :=
  let vs := s.bindings.filter fun v => v.traits.isExported
  (if s.isExtended then vs else listed vs).filterMap fun v =>
    match v.content with
    | some (.text t) => some (v.name, t)
    | _ => none

/-- The characters that separate fields. -/
def separators (s : Session) : Text := (s.valueOf? "IFS".toList).getD [' ', '\t', '\n']

/-- The letters that `$-` shows, in the order in which the dialect knows them. -/
def optionLetters (s : Session) : Text :=
  let all := if s.isExtended then "abefhkmnptuvxBCEHPT".toList else "efIimnsxvVECabu".toList
  let known := all.filter s.options.contains
  known ++ (if s.isExtended then s.options.filter fun c => c = 'c' || c = 's' else [])

/-- The value of a parameter that is not a list, if it has one. -/
def parameter? (s : Session) (name : Text) : Option Text :=
  match name with
  | ['#'] => some (Text.ofNat s.positional.length)
  | ['?'] => some (Text.ofNat s.status)
  | ['$'] => some (Text.ofNat s.shellId)
  | ['-'] => some s.optionLetters
  | ['!'] => s.lastJob?.map Text.ofNat
  | ['0'] => some s.name
  | _ =>
    match numeral? name with
    | some n => if n = 0 then some s.name else s.positional[n - 1]?
    | none => s.valueOf? name

/-- The cells of arithmetic expressions. -/
def cells (s : Session) : Arithmetic.Cells where
  isExtended := s.isExtended
  value? c :=
    match c.subscript with
    | none => s.valueOf? c.name
    | some t =>
      match s.content? c.name with
      | some (.table es) => es.lookup t
      | some content => (numeral? t).bind content.at?
      | none => none
  isTable name :=
    match s.content? name with
    | some (.table _) => true
    | _ => false

end Session

/-- Raises small letters, or lowers big ones, as the traits of a variable ask for. -/
def Traits.adapt (t : Traits) (value : Text) : Text :=
  if t.isLower then value.map Char.toLower else if t.isUpper then value.map Char.toUpper else value

/-- Fails if a variable may not be changed. -/
def insistChangeable (name : Text) : Run Unit := do
  let s ← get
  if (s.find? name).any fun v => v.traits.isFixed then
    if s.isExtended then
      warn (name ++ ": readonly variable".toList)
      setStatus 1
      throw .abandon
    else abort (name ++ ": is read only".toList)

/-- What the shell has to know of when a variable changes. -/
def noteChange (name : Text) : Run Unit := do
  if name = "OPTIND".toList then modify fun s =>
    { s with optionIndex := max 1 (((s.valueOf? name).bind numeral?).getD 1), optionOffset := 0 }
  let s ← get
  if s.has 'a' ∧ name ≠ ['_'] then set (s.share name)

/-- Gives a variable, or an element of an array, a value as it stands. -/
def assignCell (name : Text) (subscript : Option Text) (value : Text) : Run Unit := do
  insistChangeable name
  let s ← get
  let v := s.variableOf name
  let value := v.traits.adapt value
  let content : Content :=
    match subscript, v.content with
    | none, some (.list es) => .list (Content.insertAt 0 value es)
    | none, some (.table es) => .table (Content.insertUnder ['0'] value es)
    | none, _ => .text value
    | some k, some (.table es) => .table (Content.insertUnder k value es)
    | some k, some (.list es) =>
      let n := (numeral? k).getD
        (match k with
        | '-' :: k => ((es.getLast?.map fun e => e.1 + 1).getD 0) - (numeral? k).getD 0
        | _ => 0)
      .list (Content.insertAt n value es)
    | some k, some (.text t) => .list (Content.insertAt ((numeral? k).getD 0) value [(0, t)])
    | some k, none => .list [((numeral? k).getD 0, value)]
  set (s.putVariable { v with content := some content })
  noteChange name

/-- The value of an expression. The variables it assigns to get their values. -/
def calculate (t : Text) : Run Int := do
  let s ← get
  match Arithmetic.evaluate s.cells t with
  | .ok (v, assigned) =>
    for (c, n) in assigned do
      assignCell c.name c.subscript (Arithmetic.display n)
    return v
  | .error trouble =>
    if s.isExtended then abort (trouble.extendedMessage t) else abort (trouble.message t)

/-- Gives a variable a value. -/
def assign (name value : Text) : Run Unit := do
  let s ← get
  if (s.variableOf name).traits.isInteger then
    let n ← calculate value
    assignCell name none (Arithmetic.display n)
  else assignCell name none value

/-- Gives a variable a value, if the name can name one. -/
def assignNamed (name value : Text) : Run Unit := do
  if !isName name then abort (name ++ ": bad variable name".toList)
  assign name value

/-- Gives a variable an array. -/
def assignContent (name : Text) (c : Content) : Run Unit := do
  insistChangeable name
  modify fun s => s.put name c
  noteChange name

/-- Removes a variable. -/
def unsetVariable (name : Text) : Run Unit := do
  insistChangeable name
  modify fun s => s.dropVariable name
  if name = "OPTIND".toList then modify fun s => { s with optionIndex := 1, optionOffset := 0 }

/-- Notes what a variable is, so that the command being run can give it back. -/
def keepVariable (name : Text) : Run Unit := modify fun s =>
  match s.saved with
  | kept :: outer =>
    if kept.any fun
      | .variable n _ => n = name
      | _ => false
    then s
    else { s with saved := (.variable name (s.find? name) :: kept) :: outer }
  | [] => s

/-- Gives back what was noted. -/
def Session.restore (s : Session) : Saved → Session
  | .variable _ (some v) => s.putVariable v
  | .variable name none => s.dropVariable name
  | .options letters => { s with options := letters }

/-- Gives back all that the command being run has noted. -/
def restoreKept : Run Unit := modify fun s =>
  match s.saved with
  | kept :: outer => { kept.foldl Session.restore s with saved := outer }
  | [] => s

/-- Does something at the end of a command, however it ends. -/
@[inline]
def ensuring {α : Type} (body : Run α) (finish : Run Unit) : Run α := do
  let result ← tryCatch (do return Sum.inl (← body)) fun j => return Sum.inr j
  finish
  match result with
  | .inl a => return a
  | .inr j => throw j

/-! ## Signals -/

/-- A signal comes to the shell. -/
def receive (signal : Nat) : Run Unit := do
  match (← get).traps.lookup signal with
  | some [] => pure ()
  | some _ => modify fun s => { s with arrived := s.arrived ++ [signal] }
  | none => if signal ∈ Signal.ignored then pure () else throw (.killed signal)

/-- Takes the signals that have come from other processes. -/
def takeSignals : Run Unit := do
  let s ← get
  if s.machine.signals ≠ [] then
    for n in ← act (Machine.takeSignals s.process.id) do
      receive n

/-! ## Directories -/

/-- The path of the current directory; a directory that has been removed has none. -/
def physicalDirectory : Run (Option Text) := do
  let s ← get
  if s.machine.tree.isGone s.process.standpoint then return none
  else return some (Octets.ofBytes (Path.ofNames s.process.standpoint.place).bytes)

end JavacLauncher.Shell
