import JavacLauncher.Shell.Session

/-!
# Commands of the shell itself

Each takes its arguments without its name and leaves a status. What they have in common is here: how they
write, and how they read their options.
-/

namespace JavacLauncher.Shell.Builtin

/-- A command of the shell that runs no others. -/
abbrev Body := List Text → Run Unit

/-- Writes to standard output. Where nobody reads any more, the shell is ended. -/
def say (t : Text) : Run Unit := do
  if t ≠ [] then
    match ← act ((← get).process.write 1 t) with
    | .done => pure ()
    | .refused _ => modify fun s => { s with isWriteFailed := true }
    | .broken => throw (.killed 13)

/-- Writes a line. -/
def sayLine (t : Text) : Run Unit := say (t ++ ['\n'])

/-- The options in front of some arguments, each with its value if it takes one, and what follows them. A
colon behind a letter says that the option takes a value. -/
structure Options where
  options : List (Char × Text)
  rest : List Text
  deriving Repr, Inhabited

namespace Options

def has (o : Options) (c : Char) : Bool := o.options.any fun e => e.1 = c

/-- The last of some letters that is among the options. -/
def last? (o : Options) (letters : Text) : Option Char :=
  ((o.options.filter fun e => letters.contains e.1).getLast?).map (·.1)

def value? (o : Options) (c : Char) : Option Text := (o.options.reverse.find? fun e => e.1 = c).map (·.2)

end Options

/-- What is wrong with options. -/
inductive OptionTrouble where
  | unknown (c : Char)
  | missing (c : Char)
  deriving DecidableEq, Repr, Inhabited

/-- Whether a letter is known, and whether it takes a value. -/
def letterKind (known : Text) (c : Char) : Bool × Bool :=
  match cut? c known with
  | some (_, ':' :: _) => (c ≠ ':', c ≠ ':')
  | some _ => (c ≠ ':', false)
  | none => (false, false)

/-- The letters of one argument, and the arguments behind it. -/
def readLetters (known : Text) : Text → List Text → Except OptionTrouble (List (Char × Text) × List Text)
  | [], args => .ok ([], args)
  | c :: t, args => do
    let (isKnown, hasValue) := letterKind known c
    if !isKnown then throw (.unknown c)
    else if hasValue then
      match t, args with
      | [], [] => throw (.missing c)
      | [], a :: args => return ([(c, a)], args)
      | t, args => return ([(c, t)], args)
    else
      let (os, args) ← readLetters known t args
      return ((c, []) :: os, args)

/-- The options in front of some arguments. -/
def readOptions (known : Text) : Nat → List Text → Except OptionTrouble Options
  | 0, args => .ok ⟨[], args⟩
  | _ + 1, ['-', '-'] :: args => .ok ⟨[], args⟩
  | n + 1, ('-' :: c :: t) :: args => do
    let (os, args) ← readLetters known (c :: t) args
    let more ← readOptions known n args
    return ⟨os ++ more.options, more.rest⟩
  | _ + 1, args => .ok ⟨[], args⟩

/-- How a command is used, in the extended dialect. -/
def usage (command : String) (how : String) : Run Unit := do
  act ((← get).process.complain (command.toList ++ ": usage: ".toList ++ command.toList ++ ' ' :: how.toList))

/-- The options in front of some arguments; a command with others goes wrong. -/
def options (known : String) (how : String) (args : List Text) : Run Options := do
  match readOptions known.toList (args.length + 1) args with
  | .ok o => return o
  | .error trouble =>
    let s ← get
    if s.isExtended then
      match trouble with
      | .unknown c => warn ('-' :: c :: ": invalid option".toList)
      | .missing c => warn ('-' :: c :: ": option requires an argument".toList)
      if how ≠ "" then usage (String.ofList (s.command?.getD [])) how
      setStatus 2
      throw .failure
    else
      match trouble with
      | .unknown c => abort ("Illegal option -".toList ++ [c])
      | .missing c => abort ("No arg for -".toList ++ c :: " option".toList)

/-- The number that an argument gives. -/
def number (t : Text) : Run Nat := do
  match (numeral? t).filter (· ≤ 2147483647) with
  | some n => return n
  | none =>
    if (← get).isExtended then abort (t ++ ": numeric argument required".toList)
    else abort ("Illegal number: ".toList ++ t)

/-- Goes wrong with a status. The extended dialect goes on after its command. -/
def goWrong (status : Nat) (t : Text) : Run Unit := do
  let s ← get
  if s.isExtended then failWith status t else abort t

end JavacLauncher.Shell.Builtin
