import JavacLauncher.Machine.Signal
import JavacLauncher.Machine.Basic

/-!
# Tools of the system

Tools are small programs that scripts rely on. What a tool writes to standard output is gathered and written
in larger pieces, at the latest when the tool ends; what it complains of is written at once. A tool that goes
wrong says so under the name by which it was called.
-/

namespace JavacLauncher.Tool

/-- A tool being run: its process and the name by which it was called. -/
structure Call where
  process : Process
  name : Text
  /-- What is said to whoever calls the tool wrongly; if nothing is kept, where help is to be had. -/
  advice? : Option Text
  deriving Inhabited

/-- What is still to be written: the last part first, and how much it is. -/
structure Pending where
  parts : List Text
  size : Nat
  /-- Whether something could not be written. -/
  failure? : Option SystemError
  deriving Inhabited

/-- A tool at work. It may end at any point. -/
abbrev Work := ReaderT Call (ExceptT Outcome (StateT Pending Action))

/-- How much is gathered before it is written. -/
def gathered : Nat := 4096

/-- Does something to the machine. -/
def act {α : Type} (a : Action α) : Work α := fun _ => ExceptT.lift (StateT.lift a)

def process : Work Process := do return (← read).process

/-- Ends the tool. -/
def stop {α : Type} (status : Nat) : Work α := throw (.exited (UInt8.ofNat status))

/-- Writes what has been gathered. -/
def flush : Work Unit := do
  let p ← get
  if p.size > 0 then
    set { p with parts := [], size := 0 }
    match ← act ((← process).write 1 p.parts.reverse.flatten) with
    | .done => pure ()
    | .refused e => modify fun p => { p with failure? := some e }
    | .broken => throw (.killed 13)

/-- Writes to standard output. -/
def say (t : Text) : Work Unit := do
  if t ≠ [] then
    modify fun p => { p with parts := t :: p.parts, size := p.size + t.length }
    if (← get).size ≥ gathered then flush

/-- Writes a line to standard output. -/
def sayLine (t : Text) : Work Unit := say (t ++ ['\n'])

/-- Writes to standard output at once. -/
def sayNow (t : Text) : Work Unit := do
  say t
  flush

/-- Writes a line to the error stream. -/
def complainPlainly (t : Text) : Work Unit := do act ((← process).complain t)

/-- A complaint under the tool's name. What has been gathered is written before it. -/
def complain (t : Text) : Work Unit := do
  flush
  complainPlainly ((← read).name ++ ": ".toList ++ t)

/-- A complaint, and the end of the tool. -/
def fail {α : Type} (status : Nat) (t : Text) : Work α := do
  complain t
  stop status

/-! ## Names in messages -/

/-- What tools say of a refusal. -/
def describe : SystemError → Text
  | .code n => SystemError.describe n
  | e => e.message

/-- A character that is no text, as an escape. -/
def escapeChar (c : Char) : Text :=
  match c with
  | '\x07' => ['\\', 'a']
  | '\x08' => ['\\', 'b']
  | '\x0c' => ['\\', 'f']
  | '\n' => ['\\', 'n']
  | '\r' => ['\\', 'r']
  | '\t' => ['\\', 't']
  | '\x0b' => ['\\', 'v']
  | c =>
    let ds := Nat.toDigits 8 c.toNat
    '\\' :: List.replicate (3 - ds.length) '0' ++ ds

/-- Whether a character is one that can be shown. -/
def isShown (c : Char) : Bool := ' ' ≤ c && c ≤ '~'

/-- Whether a character means something to shells. -/
def isShellChar (c : Char) : Bool := " !\"$&()*;<=>[^\x60|?\\'".toList.contains c || !isShown c

/-- Whether a name has to be quoted for a shell. -/
def needsQuotes (t : Text) : Bool :=
  t.any isShellChar || t.head? = some '#' || t.head? = some '~' || t = ['\x7b'] || t = ['\x7d']

/-- The pieces of a name between quotes: those of characters that cannot be shown are written as escapes. -/
def quotedPieces : Bool → Text → Text
  | isEscaping, [] => if isEscaping then ['\''] else []
  | isEscaping, c :: t =>
    if isShown c then
      (if isEscaping then "'\'".toList else []) ++ (if c = '\'' then "'\\''".toList else [c]) ++ quotedPieces false t
    else (if isEscaping then [] else "'$'".toList) ++ escapeChar c ++ quotedPieces true t

/-- A name in quotes as a shell reads it. -/
def inShellQuotes (t : Text) : Text :=
  if t.contains '\'' && t.all (fun c => isShown c && !"\"\\$\x60!".toList.contains c) then '"' :: t ++ ['"']
  else
    match t with
    | [] => "''".toList
    | c :: _ =>
      let body := quotedPieces false t
      let body := if isShown c then body else body
      if (t.getLast?).any isShown then '\'' :: body ++ ['\''] else '\'' :: body

/-- A name that a message begins with; it is quoted if a shell would not take it as it is. -/
def quoteName (t : Text) : Text := if t = [] ∨ needsQuotes t ∨ ':' ∈ t then inShellQuotes t else t

/-- An argument in quotes. -/
def quoteArgument (t : Text) : Text :=
  '\'' :: t.flatMap (fun c =>
    if c = '\'' ∨ c = '\\' then ['\\', c] else if isShown c then [c] else escapeChar c) ++ ['\'']

/-- A complaint about a file. -/
def complainOf (file : Text) (e : SystemError) : Work Unit := complain (quoteName file ++ ": ".toList ++ describe e)

/-- A complaint about what could not be done with a file. -/
def refuse (what : String) (file : Text) (e : SystemError) : Work Unit :=
  complain (what.toList ++ ' ' :: inShellQuotes file ++ ": ".toList ++ describe e)

/-- Where to look for help, behind a complaint about how the tool was called. -/
def suggestHelp {α : Type} (status : Nat) : Work α := do
  let call ← read
  complainPlainly (call.advice?.getD ("Try '".toList ++ call.name ++ " --help' for more information.".toList))
  stop status

/-- A complaint about how the tool was called. -/
def misuse {α : Type} (status : Nat) (t : Text) : Work α := do
  complain t
  suggestHelp status

/-! ## Options -/

/-- Whether an option has a value. -/
inductive Taking where
  | nothing
  | value
  /-- A value only if it is written with the option. -/
  | maybe
  deriving DecidableEq, Repr, Inhabited

/-- The options that a tool knows. -/
structure Spec where
  /-- The letters; one that has a value is followed by a colon, one that may have one by two. -/
  letters : String
  /-- Long names, each with its letter or another short text that stands for it. -/
  longs : List (String × String × Taking)
  /-- The status of a tool that was called wrongly. -/
  trouble : Nat
  /-- Options are only looked for in front of all operands. -/
  isOrdered : Bool
  deriving Inhabited

/-- An option that was given. -/
abbrev Given := String × Option Text

/-- The options and the operands of a call. -/
structure Parsed where
  options : List Given
  operands : List Text
  deriving Inhabited

namespace Parsed

def has (p : Parsed) (name : String) : Bool := p.options.any fun o => o.1 = name

/-- The last value of an option. -/
def value? (p : Parsed) (name : String) : Option Text :=
  ((p.options.filter fun o => o.1 = name).getLast?).bind (·.2)

/-- All values of an option. -/
def values (p : Parsed) (name : String) : List Text :=
  (p.options.filter fun o => o.1 = name).filterMap (·.2)

/-- The last of several options. -/
def last? (p : Parsed) (names : List String) : Option String :=
  ((p.options.filter fun o => names.contains o.1).getLast?).map (·.1)

end Parsed

/-- What a letter takes, if it is known. -/
def Spec.taking? (s : Spec) (c : Char) : Option Taking :=
  if c = ':' then none
  else
    match cut? c s.letters.toList with
    | some (_, ':' :: ':' :: _) => some .maybe
    | some (_, ':' :: _) => some .value
    | some _ => some .nothing
    | none => none

/-- The long options that a text may mean. -/
def Spec.candidates (s : Spec) (name : Text) : List (String × String × Taking) :=
  match s.longs.find? fun l => l.1.toList = name with
  | some l => [l]
  | none => s.longs.filter fun l => (after? name l.1.toList).isSome

/-- Reads the letters of an argument; the arguments behind it are given back. -/
def readLetters (s : Spec) : Text → List Text → Work (List Given × List Text)
  | [], args => return ([], args)
  | c :: t, args => do
    match s.taking? c with
    | none => misuse s.trouble ("invalid option -- '".toList ++ [c, '\''])
    | some .nothing =>
      let (os, args) ← readLetters s t args
      return ((String.singleton c, none) :: os, args)
    | some .maybe => return ([(String.singleton c, if t = [] then none else some t)], args)
    | some .value =>
      match t, args with
      | [], [] => misuse s.trouble ("option requires an argument -- '".toList ++ [c, '\''])
      | [], a :: args => return ([(String.singleton c, some a)], args)
      | t, args => return ([(String.singleton c, some t)], args)

/-- Reads a long option. -/
def readLong (s : Spec) (t : Text) (args : List Text) : Work (Given × List Text) := do
  let (name, value?) :=
    match cut? '=' t with
    | some (name, value) => (name, some value)
    | none => (t, none)
  let found := s.candidates name
  let same := match found with
    | l :: ls => ls.all fun m => m.2.1 = l.2.1
    | [] => true
  match found with
  | [] => misuse s.trouble ("unrecognized option '--".toList ++ t ++ ['\''])
  | l :: more =>
    if !same then
      misuse s.trouble ("option '--".toList ++ t ++ "' is ambiguous; possibilities:".toList ++
        (l :: more).flatMap fun l => " '--".toList ++ l.1.toList ++ ['\''])
    else
      match l.2.2, value?, args with
      | .nothing, some _, _ =>
        misuse s.trouble ("option '--".toList ++ l.1.toList ++ "' doesn't allow an argument".toList)
      | .value, none, [] => misuse s.trouble ("option '--".toList ++ l.1.toList ++ "' requires an argument".toList)
      | .value, none, a :: args => return ((l.2.1, some a), args)
      | _, v, args => return ((l.2.1, v), args)

/-- Reads options and operands. -/
def parseArguments (s : Spec) : Nat → List Text → Work Parsed
  | 0, args => return ⟨[], args⟩
  | _ + 1, [] => return ⟨[], []⟩
  | _ + 1, ['-', '-'] :: args => return ⟨[], args⟩
  | n + 1, ('-' :: '-' :: c :: t) :: args => do
    let (o, args) ← readLong s (c :: t) args
    let p ← parseArguments s n args
    return { p with options := o :: p.options }
  | n + 1, ('-' :: c :: t) :: args => do
    let (os, args) ← readLetters s (c :: t) args
    let p ← parseArguments s n args
    return { p with options := os ++ p.options }
  | n + 1, a :: args => do
    if s.isOrdered then return ⟨[], a :: args⟩
    else
      let p ← parseArguments s n args
      return { p with operands := a :: p.operands }

/-- Gives other advice to whoever calls the tool wrongly. -/
def advising {α : Type} (advice : Text) (w : Work α) : Work α := withReader (fun c => { c with advice? := some advice }) w

/-- The options and operands of a call. -/
def parse (s : Spec) (args : List Text) : Work Parsed := parseArguments s (args.length + 1) args

/-- A complaint that there is nothing to work on. -/
def insistOperands (p : Parsed) (count : Nat) (what : String) : Work Unit := do
  match p.operands with
  | [] => if count > 0 then misuse 1 ("missing ".toList ++ what.toList)
  | ops =>
    if ops.length < count then
      misuse 1 ("missing ".toList ++ (if what = "file operand" then "destination file operand after ".toList
        else "operand after ".toList) ++ quoteArgument (ops.getLastD []))

/-- A complaint about an operand too many. -/
def refuseOperands (p : Parsed) (count : Nat) : Work Unit := do
  match p.operands.drop count with
  | [] => pure ()
  | o :: _ => misuse 1 ("extra operand ".toList ++ quoteArgument o)

/-! ## Files -/

/-- The tool as a program. -/
abbrev Body := List Text → Work Unit

/-- Runs a tool to its end. -/
def Body.run (body : Body) (p : Process) (argv : List Text) : Action Outcome := do
  let work : Work Unit := do
    let o ← tryCatch (do body argv.tail; return none) fun o => return some o
    flush
    match (← get).failure? with
    | some e => fail 1 ("write error: ".toList ++ describe e)
    | none =>
      match o with
      | some o => throw o
      | none => pure ()
  let (result, _) ← (work ⟨p, argv.headD [], none⟩).run.run ⟨[], 0, none⟩
  match result with
  | .ok () => return .exited 0
  | .error o => return o

/-- What a file holds, or standard input for `-`. -/
def contentOf (file : Text) : Work (Except SystemError Text) := do
  let p ← process
  if file = ['-'] then act (p.read 0 none) else act (p.readFile file)

/-- What the operands hold, one by one; standard input if there are none. Those that cannot be read are
complained of, and the status is then 1. -/
def eachContent (files : List Text) (use : Text → Text → Work Unit) : Work Unit := do
  let files := if files = [] then [['-']] else files
  let mut status := 0
  for file in files do
    match ← contentOf file with
    | .ok t => use file t
    | .error e =>
      complainOf file e
      status := 1
  if status ≠ 0 then
    flush
    stop status

/-- What all operands hold together. -/
def allContent (files : List Text) : Work (Text × Nat) := do
  let files := if files = [] then [['-']] else files
  let mut parts : List Text := []
  let mut status := 0
  for file in files do
    match ← contentOf file with
    | .ok t => parts := t :: parts
    | .error e =>
      complainOf file e
      status := 1
  return (parts.reverse.flatten, status)

/-- The pieces of a text that end with a character, each with it; the last one may lack it. -/
def piecesWith (ending : Char) (t : Text) : List Text :=
  let pieces := t.splitOn ending
  pieces.dropLast.map (· ++ [ending]) ++ (pieces.getLast?.toList.filter (· ≠ []))

/-- The lines of a text, without what ends them. -/
def linesOf (ending : Char) (t : Text) : List Text :=
  let pieces := t.splitOn ending
  if pieces.getLast? = some [] then pieces.dropLast else pieces

/-- Ends with a status, if it is one of failure. -/
def endWith (status : Nat) : Work Unit := do
  if status ≠ 0 then stop status

end JavacLauncher.Tool
