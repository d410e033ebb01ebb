import JavacLauncher.Shell.Syntax

/-!
# Reading the shell's language, character by character

A command is read when it is to be run, up to the end of its line, so what comes before a mistake is run
before the mistake is found, and an alias is known from the line on that comes after its definition. The
reader holds what is left of the text. The text of an alias is put in front of what is left; the alias is
not looked at again before the character after its text has been read.

What the reader has to look out for next is noted in `Checks`: line ends to skip, reserved words, aliases,
or the end mark of a document, in which nothing is replaced.
-/

namespace JavacLauncher.Shell

/-- Why a text is no command. -/
inductive Mistake where
  /-- A token, by its name and its spelling, where another one, or no such token, may stand. -/
  | unexpected (name spelling : Text) (expected? : Option Text)
  /-- The text ends within quotes or brackets that this character closes. -/
  | unclosed (c : Char)
  | other (message : Text)
  deriving DecidableEq, Repr, Inhabited

/-- A mistake and the line in which it is noticed. -/
structure SyntaxError where
  mistake : Mistake
  line : Nat
  deriving DecidableEq, Repr, Inhabited

/-- A text that characters are taken from. -/
structure Source where
  rest : Text
  /-- The alias that the text stands for. -/
  alias? : Option Text
  endsInBlank : Bool
  deriving DecidableEq, Repr, Inhabited

/-- What to look out for when the next token is read. -/
structure Checks where
  skipsLines : Bool
  knowsReserved : Bool
  knowsAliases : Bool
  isEndMark : Bool
  deriving DecidableEq, Repr, Inhabited

namespace Checks

def none : Checks := ⟨false, false, false, false⟩
def lines : Checks := ⟨true, false, false, false⟩
def aliases : Checks := ⟨false, false, true, false⟩
def commands : Checks := ⟨false, true, true, false⟩
def reserved : Checks := ⟨true, true, false, false⟩
def all : Checks := ⟨true, true, true, false⟩
def endMark : Checks := ⟨false, false, false, true⟩

/-- Looks out for what either looks out for. -/
def union (a b : Checks) : Checks :=
  ⟨a.skipsLines || b.skipsLines, a.knowsReserved || b.knowsReserved, a.knowsAliases || b.knowsAliases,
    a.isEndMark || b.isEndMark⟩

end Checks

/-- The head of a redirection. -/
inductive Redirection where
  | to (descriptor : Option Nat) (kind : RedirectKind)
  /-- A document follows the line, with tabs in front of its lines or not. -/
  | document (descriptor : Option Nat) (dropsTabs : Bool)
  deriving DecidableEq, Repr, Inhabited

/-- What the shell's language is made of. The word that a token is is kept in the reader. -/
inductive Token where
  | endOfText
  | newline
  | operator (t : Text)
  | reserved (t : Text)
  | redirect (r : Redirection)
  | word
  deriving DecidableEq, Repr, Inhabited

/-- A document that is still to be read. -/
structure Pending where
  number : Nat
  endMark : Text
  dropsTabs : Bool
  isQuoted : Bool
  deriving DecidableEq, Repr, Inhabited

/-- What has been read and what is left to read. -/
structure Reader where
  /-- The texts to read from, the first one first; the last one is never dropped. -/
  sources : List Source
  /-- Aliases whose text has been read to its end, but nothing behind it. -/
  spent : List Text
  line : Nat
  checks : Checks
  /-- The last token has been given back. -/
  isPushedBack : Bool
  token : Token
  /-- The last word, as it was spelled if it had no quotes. -/
  word : Word
  isQuoted : Bool
  pending : List Pending
  /-- The documents found so far, by number. -/
  documents : Array Word
  aliases : List (Text × Text)
  isExtended : Bool
  deriving Inhabited

/-- Reads on. -/
abbrev Parse := StateT Reader (Except SyntaxError)

namespace Reader

/-- A reader at the beginning of a text. -/
def ofText (isExtended : Bool) (documents : Array Word) (t : Text) : Reader :=
  ⟨[⟨t, none, false⟩], [], 1, .none, false, .newline, [], false, [], documents, [], isExtended⟩

/-- The reader on another text. -/
def onText (r : Reader) (t : Text) : Reader :=
  { r with sources := [⟨t, none, false⟩], spent := [], isPushedBack := false }

/-- What is left to read. -/
def rest (r : Reader) : Text := r.sources.flatMap Source.rest

/-- The next character of some sources, the sources then, the aliases that have come to their end, and
whether one of them ended in a blank. -/
def next (spent : List Text) (isBlank : Bool) : List Source → Option Char × List Source × List Text × Bool
  | [] => (none, [], spent, isBlank)
  | ⟨c :: t, name?, b⟩ :: more => (some c, ⟨t, name?, b⟩ :: more, spent, isBlank)
  | [⟨[], name?, b⟩] => (none, [⟨[], name?, b⟩], spent, isBlank)
  | ⟨[], name?, b⟩ :: more => next (name?.toList ++ spent) (isBlank || b) more

/-- How deep words and tokens may stand within one another. -/
def nesting : Nat := 1000

/-- Whether an alias is being read. -/
def isInUse (r : Reader) (name : Text) : Bool :=
  name ∈ r.spent || r.sources.any fun s => s.alias? = some name

end Reader

namespace Parse

/-- More rounds than any text needs. -/
def rounds : Nat := 1000000000

/-- Fails at the current line. -/
def fail {α : Type} (m : Mistake) : Parse α := do
  throw ⟨m, (← get).line⟩

/-- Does a step again and again, until it gives a result. -/
@[specialize]
def loop {α β : Type} (step : α → Parse (α ⊕ β)) : Nat → α → Parse β
  | 0, _ => fail (.other "too long".toList)
  | n + 1, a => do
    match ← step a with
    | .inl a => loop step n a
    | .inr b => return b

/-- Takes a character. -/
def take : Parse (Option Char) := do
  let r ← get
  let (c?, sources, spent, isBlank) := Reader.next [] false r.sources
  let checks := if isBlank then r.checks.union .aliases else r.checks
  set { r with sources := sources, spent := spent, checks := checks }
  return c?

/-- Gives a character back. -/
def giveBack (c? : Option Char) : Parse Unit := modify fun r =>
  match c?, r.sources with
  | some c, s :: more => { r with sources := { s with rest := c :: s.rest } :: more }
  | _, _ => r

/-- Looks at the next character. -/
def peek : Parse (Option Char) := do
  let c? ← take
  giveBack c?
  return c?

/-- Notes that a line has ended. -/
def endLine : Parse Unit := modify fun r => { r with line := r.line + 1 }

/-- Takes a character; a backslash at the end of a line, and that end, are passed over. -/
def takeJoined : Parse (Option Char) :=
  loop (fun _ => do
    let c? ← take
    if c? = some '\\' then
      let d? ← take
      if d? = some '\n' then
        endLine
        return .inl ()
      else
        giveBack d?
        return .inr c?
    else return .inr c?) rounds ()

/-- Takes the next character if it is a certain one. -/
def takeIf (c : Char) : Parse Bool := do
  let d? ← takeJoined
  if d? = some c then return true
  else
    giveBack d?
    return false

/-- Takes characters as long as they are of a kind. -/
def takeWhile (isFit : Char → Bool) : Parse Text := do
  let t ← loop (fun (t : Text) => do
    let c? ← takeJoined
    match c?.filter isFit with
    | some c => return .inl (c :: t)
    | none =>
      giveBack c?
      return .inr t) rounds []
  return t.reverse

/-- Looks out for something in the next token. -/
def check (c : Checks) : Parse Unit := modify fun r => { r with checks := c }

/-- Gives the last token back. -/
def pushBack : Parse Unit := modify fun r => { r with isPushedBack := true }

/-- Gives the last token back as the end of the text. -/
def pushBackEnd : Parse Unit := modify fun r => { r with isPushedBack := true, token := .endOfText }

/-- Does something on another text, and comes back to this one. -/
def onText {α : Type} (t : Text) (line : Nat) (body : Parse α) : Parse α := do
  let r ← get
  set { r.onText t with line := line }
  let a ← body
  modify fun s => { s with sources := r.sources, spent := r.spent, line := r.line, isPushedBack := false }
  return a

end Parse

end JavacLauncher.Shell
