import JavacLauncher.Shell.Format
import JavacLauncher.Tool.Report.Basic

/-!
# The words of report scripts

A slash begins an expression where no value has just ended. A name that a bracket follows at once is that of a
function.
-/

namespace JavacLauncher.Tool.Report

inductive Token where
  | newline
  | sign (t : String)
  | number (x : Float)
  | text (t : Text)
  | regex (t : Text)
  | name (t : Text)
  /-- A name with a bracket behind it. -/
  | called (t : Text)
  /-- A function that every script has. -/
  | known (t : Text)
  | keyword (t : String)
  deriving Repr, Inhabited

namespace Token

def keywords : List String :=
  ["BEGIN", "END", "function", "func", "if", "else", "while", "for", "do", "break", "continue", "next", "nextfile",
    "exit", "return", "delete", "in", "getline", "print", "printf"]

/-- The functions that every script has, and how many arguments they take. -/
def functions : List (String × Nat × Nat) :=
  [("length", 0, 1), ("substr", 2, 3), ("index", 2, 2), ("split", 2, 3), ("sub", 2, 3), ("gsub", 2, 3), ("match", 2, 2),
    ("sprintf", 1, 100), ("sin", 1, 1), ("cos", 1, 1), ("atan2", 2, 2), ("exp", 1, 1), ("log", 1, 1), ("sqrt", 1, 1),
    ("int", 1, 1), ("rand", 0, 0), ("srand", 0, 1), ("tolower", 1, 1), ("toupper", 1, 1), ("system", 1, 1),
    ("close", 1, 1), ("fflush", 0, 1), ("systime", 0, 0)]

/-- The signs, the longest first. -/
def signs : List String :=
  ["**=", "+=", "-=", "*=", "/=", "%=", "^=", "==", "<=", ">=", "!=", "!~", "++", "--", "&&", "||", ">>", "**", "\x7b", "\x7d",
    "(", ")", "[", "]", ";", ",", "+", "-", "*", "/", "%", "^", "!", ">", "<", "|", "?", ":", "~", "$", "="]

/-- Whether a value may end with a token. -/
def endsValue : Option Token → Bool
  | some (.number _) | some (.text _) | some (.regex _) | some (.name _) | some (.known _) => true
  | some (.sign s) => [")", "]", "$", "++", "--"].contains s
  | _ => false

/-- A text between quotes, from behind the first one, and what follows. -/
def quoted? : Nat → Text → Text → Option (Text × Text)
  | 0, _, _ => none
  | _ + 1, _, [] => none
  | n + 1, read, c :: t =>
    if c = '"' then some (read.reverse, t)
    else if c = '\n' then none
    else if c = '\\' then
      match t with
      | [] => none
      | '"' :: t => quoted? n ('"' :: read) t
      | '/' :: t => quoted? n ('/' :: '\\' :: read) t
      | '\n' :: t => quoted? n read t
      | d :: t' =>
        match Shell.escapeLetter? d with
        | some e => if d = 'e' then quoted? n (d :: '\\' :: read) t' else quoted? n (e :: read) t'
        | none =>
          match Shell.takeDigits? 8 3 t with
          | some (v, rest) => quoted? n (Char.ofNat (v % 256) :: read) rest
          | none => quoted? n (d :: '\\' :: read) t'
    else quoted? n (c :: read) t

/-- An expression between slashes, from behind the first one, and what follows. -/
def slashed? : Nat → Bool → Text → Text → Option (Text × Text)
  | 0, _, _, _ => none
  | _ + 1, _, _, [] => none
  | n + 1, isInSet, read, c :: t =>
    if c = '/' ∧ !isInSet then some (read.reverse, t)
    else if c = '\n' then none
    else if c = '\\' then
      match t with
      | '/' :: t => slashed? n isInSet ('/' :: read) t
      | d :: t => slashed? n isInSet (d :: c :: read) t
      | [] => none
    else if c = '[' ∧ !isInSet then
      match t with
      | '^' :: ']' :: t => slashed? n true (']' :: '^' :: c :: read) t
      | ']' :: t => slashed? n true (']' :: c :: read) t
      | t => slashed? n true (c :: read) t
    else slashed? n (isInSet && c ≠ ']') (c :: read) t

/-- A number at the front of a text, and what follows. -/
def number? (t : Text) : Option (Float × Text) :=
  let isNumber := match t with
    | c :: d :: _ => c.isDigit || (c = '.' && d.isDigit)
    | [c] => c.isDigit
    | [] => false
  if !isNumber then none
  else
    match t with
    | '0' :: x :: rest => if x = 'x' ∨ x = 'X' then some (0.0, x :: rest) else Real.take? t
    | t => Real.take? t

/-- The tokens of a script, each with its line, or what is wrong in which line. -/
def readAll : Nat → Nat → Option Token → Text → List (Token × Nat) → Except (Nat × Text) (List (Token × Nat))
  | 0, _, _, _, read => .ok read.reverse
  | _ + 1, _, _, [], read => .ok read.reverse
  | n + 1, line, last?, c :: t, read =>
    let put (k : Token) (rest : Text) : Except (Nat × Text) (List (Token × Nat)) :=
      readAll n line (some k) rest ((k, line) :: read)
    if c = ' ' ∨ c = '\t' ∨ c = '\r' ∨ c = '\x0c' then readAll n line last? t read
    else if c = '\n' then readAll n (line + 1) (some .newline) t ((.newline, line) :: read)
    else if c = '#' then readAll n line last? (t.dropWhile (· ≠ '\n')) read
    else if c = '\\' ∧ t.head? = some '\n' then readAll n (line + 1) last? t.tail read
    else if c = '"' then
      match quoted? (t.length + 1) [] t with
      | some (s, rest) => put (.text s) rest
      | none => .error (line, "runaway string constant \"".toList ++ (t.takeWhile (· ≠ '\n')).take 10 ++ " ...".toList)
    else if c = '/' ∧ !endsValue last? then
      match slashed? (t.length + 1) false [] t with
      | some (s, rest) => put (.regex s) rest
      | none => .error (line, "runaway regular expression /".toList ++ (t.takeWhile (· ≠ '\n')).take 10 ++ " ...".toList)
    else
      match number? (c :: t) with
      | some (x, rest) => put (.number x) rest
      | none =>
        if c.isAlpha || c = '_' then
          let name := (c :: t).takeWhile fun d => d.isAlphanum || d = '_'
          let rest := (c :: t).drop name.length
          if keywords.any (·.toList = name) then put (.keyword (String.ofList name)) rest
          else if functions.any (·.1.toList = name) then put (.known name) rest
          else if rest.head? = some '(' then put (.called name) rest
          else put (.name name) rest
        else
          match signs.find? fun s => s.toList.isPrefixOf (c :: t) with
          | some s => put (.sign s) ((c :: t).drop s.length)
          | none => .error (line, "unexpected character '".toList ++ [c, '\''])

/-- How a token is named when it is out of place. -/
def shown : Token → Text
  | .newline => "end of line".toList
  | .sign s | .keyword s => s.toList
  | .number x => Real.format 'g' none false (Real.valueOf x)
  | .text t => '"' :: t ++ ['"']
  | .regex t => '/' :: t ++ ['/']
  | .name t | .called t | .known t => t

end Token

end JavacLauncher.Tool.Report
