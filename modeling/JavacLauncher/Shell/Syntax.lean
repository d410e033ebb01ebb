import JavacLauncher.Text.Basic

/-!
# The shell's language

A word is made of parts, because only what stands outside quotes is split and matched against file
names. A word may hold commands, and commands hold words. All texts are octets.

There are two dialects. The plain one is the language of `sh`; the extended one adds what `bash` knows
beyond it: arrays, conditional commands, and more that can be done to the value of a parameter.
-/

namespace JavacLauncher.Shell

/-- What a redirection does with its target. -/
inductive RedirectKind where
  | input
  | output
  /-- Empties a file even where that is protected. -/
  | clobber
  | append
  | inputFrom
  | outputTo
  | readWrite
  /-- Both what is written and what is complained about goes to the target. -/
  | everything
  | appendEverything
  /-- The target itself is the text to read, followed by the end of a line. -/
  | hereText
  deriving DecidableEq, Repr, Inhabited

mutual

/-- A part of a word. -/
inductive Part where
  /-- Characters outside quotes. -/
  | plain (t : Text)
  /-- Characters in quotes, or behind a backslash. Even without characters it makes a field. -/
  | quoted (t : Text)
  /-- A parameter, with what is to be done to its value. -/
  | parameter (isQuoted : Bool) (name : Text) (subscript : Option (List Part)) (operation : Operation)
  /-- What a command writes. -/
  | output (isQuoted : Bool) (line : Nat) (body : Option Command)
  /-- The value of an expression. -/
  | arithmetic (isQuoted : Bool) (expression : List Part)
  /-- A file with what a command writes, or one whose content a command reads. -/
  | channel (isInput : Bool) (line : Nat) (body : Option Command)

/-- What is to be done to the value of a parameter. -/
inductive Operation where
  | value
  | length
  /-- The operand, if the parameter is unset (or empty, if that counts). -/
  | orElse (countsEmpty : Bool) (operand : List Part)
  /-- The same, and the parameter gets the value. -/
  | assign (countsEmpty : Bool) (operand : List Part)
  /-- A complaint, if the parameter is unset. -/
  | complain (countsEmpty : Bool) (operand : List Part)
  /-- The operand, if the parameter is set. -/
  | instead (countsEmpty : Bool) (operand : List Part)
  /-- The value without what a pattern matches at its front or at its end. -/
  | trim (isFront isLongest : Bool) (pattern : List Part)
  /-- The value from a place on, and so much of it. -/
  | slice (first : List Part) (count : Option (List Part))
  /-- The value with matches replaced: the first one, all, the one at the front, the one at the end. -/
  | replace (kind : Char) (pattern replacement : List Part)
  /-- The value with letters made big or small: the first one, or all. -/
  | changeCase (kind : Char) (isAll : Bool) (pattern : List Part)
  /-- The value of the parameter whose name the value is, with something done to it. -/
  | indirect (operation : Operation)
  /-- The names that begin with this one. -/
  | namesLike (isList : Bool)
  /-- The subscripts of an array. -/
  | subscripts
  /-- The value in another form. -/
  | transform (kind : Char)
  /-- It means nothing. -/
  | nonsense

/-- A redirection. -/
inductive Redirect where
  | to (descriptor : Option Nat) (kind : RedirectKind) (target : List Part)
  /-- The input is the document with this number. -/
  | document (descriptor : Option Nat) (number : Nat)

/-- What a variable is to be. -/
inductive Value where
  | word (w : List Part)
  /-- An array: its elements, each with its subscript if one is given. -/
  | list (elements : List (Option (List Part) × List Part))

/-- An assignment to a variable, or to an element of an array. -/
inductive Assignment where
  | assign (name : Text) (subscript : Option (List Part)) (isAppended : Bool) (value : Value)

/-- A condition between double brackets. -/
inductive Condition where
  | unary (operator : Text) (operand : List Part)
  | binary (left : List Part) (operator : Text) (right : List Part)
  | word (w : List Part)
  | negated (c : Condition)
  | both (a b : Condition)
  | either (a b : Condition)

inductive Command where
  | simple (line : Nat) (assignments : List Assignment) (words : List (List Part))
      (redirects : List Redirect)
  | pipe (stages : List Command)
  | negated (command : Command)
  /-- Tells how long a command has taken, in few words or in many. -/
  | timed (isBrief : Bool) (command : Option Command)
  | both (first second : Command)
  | either (first second : Command)
  | sequence (commands : List Command)
  | background (line : Nat) (command : Command)
  | subshell (line : Nat) (body : Option Command) (redirects : List Redirect)
  | redirected (line : Nat) (body : Option Command) (redirects : List Redirect)
  /-- Commands in braces. -/
  | group (body : Option Command)
  | branch (condition : Option Command) (body : Option Command) (otherwise : Option Command)
  /-- Runs the body as long as the condition ends with success, or, for `isUntil`, with failure. -/
  | loop (isUntil : Bool) (condition body : Option Command)
  | each (line : Nat) (name : Text) (words : Option (List (List Part))) (body : Option Command)
  /-- Asks for one of some words again and again, and runs the body for each answer. -/
  | pick (line : Nat) (name : Text) (words : Option (List (List Part))) (body : Option Command)
  | choose (line : Nat) (subject : List Part) (arms : List (List (List Part) × Option Command × Char))
  | define (line : Nat) (name : Text) (body : Command)
  | test (line : Nat) (condition : Condition)
  | evaluate (line : Nat) (expression : List Part)
  /-- A loop with an expression before it, one before each round, and one after each round. -/
  | count (line : Nat) (first condition next : List Part) (body : Option Command)

end

abbrev Word := List Part

instance : Inhabited Part := ⟨.plain []⟩
instance : Inhabited Operation := ⟨.value⟩
instance : Inhabited Redirect := ⟨.document none 0⟩
instance : Inhabited Command := ⟨.group none⟩

/-- The text of a word that has no quotes and no substitutions. -/
def bareText? : Word → Option Text
  | [.plain t] => some t
  | _ => none

/-- Letters and the underscore begin names. -/
def isNameStart (c : Char) : Bool := c.isAlpha || c = '_'

/-- Letters, digits and the underscore continue names. -/
def isNameChar (c : Char) : Bool := c.isAlphanum || c = '_'

/-- Whether a text can name a variable. -/
def isName : Text → Bool
  | [] => false
  | c :: t => isNameStart c && t.all isNameChar

/-- The parameters that are no variables and are named by one character. -/
def isSpecial (c : Char) : Bool := "@*#?-$!".toList.contains c || c.isDigit

/-- The value of an unsigned numeral. -/
def numeral? (t : Text) : Option Nat :=
  if t ≠ [] ∧ t.all Char.isDigit then some (Nat.ofDigitChars 10 t 0) else none

end JavacLauncher.Shell
