import JavacLauncher.Json.Basic

/-!
# Reading JSON

The grammar is the strict one: no comments, no trailing commas, no leading zeros, white space of four
characters only, control characters in strings only as escapes. A text is one value with nothing after
it but white space.

Reading a value gives the value and the rest of the text. Values within values are read by recursion on
a bound, which `read?` takes from the length of the text: large enough for every text of that length.
-/

namespace JavacLauncher.Json

/-- White space between the parts of a value. -/
def isSpace (c : Char) : Bool := c = ' ' || c = '\n' || c = '\t' || c = '\r'

/-- The text from the next part on. -/
def skipSpace (t : Text) : Text := t.dropWhile isSpace

/-- The value of a hexadecimal digit. -/
def hexDigit? (c : Char) : Option Nat :=
  if '0' ≤ c ∧ c ≤ '9' then some (c.toNat - '0'.toNat)
  else if 'a' ≤ c ∧ c ≤ 'f' then some (c.toNat - 'a'.toNat + 10)
  else if 'A' ≤ c ∧ c ≤ 'F' then some (c.toNat - 'A'.toNat + 10)
  else none

/-- The number that four hexadecimal digits name. -/
def hexNumber? (a b c d : Char) : Option Nat := do
  return (((← hexDigit? a) * 16 + (← hexDigit? b)) * 16 + (← hexDigit? c)) * 16 + (← hexDigit? d)

/-- The character that a letter after a backslash stands for. -/
def escaped? (c : Char) : Option Char :=
  match c with
  | '"' => some '"'
  | '\\' => some '\\'
  | '/' => some '/'
  | 'b' => some '\x08'
  | 'f' => some '\x0c'
  | 'n' => some '\n'
  | 'r' => some '\r'
  | 't' => some '\t'
  | _ => none

/-- The units of a string and what follows it, from behind its first quote. -/
def stringUnits? : Text → Option (List StringUnit × Text)
  | [] => none
  | '"' :: t => some ([], t)
  | '\\' :: 'u' :: a :: b :: c :: d :: t => do
    let n ← hexNumber? a b c d
    let (us, rest) ← stringUnits? t
    return (.number n :: us, rest)
  | '\\' :: e :: t => do
    let c ← escaped? e
    let (us, rest) ← stringUnits? t
    return (.char c :: us, rest)
  | c :: t =>
    if c.toNat < 0x20 ∨ c = '\\' then none
    else do
      let (us, rest) ← stringUnits? t
      return (.char c :: us, rest)

/-- A string's content and what follows it, from behind its first quote. -/
def string? (t : Text) : Option (Option Text × Text) := do
  let (us, rest) ← stringUnits? t
  return (spell? us, rest)

/-- One digit or more. -/
def digits? (t : Text) : Option (Text × Text) :=
  match t.takeWhile Char.isDigit with
  | [] => none
  | ds => some (ds, t.dropWhile Char.isDigit)

/-- The digits before the point: zero alone, or a numeral that does not begin with zero. -/
def integerPart? (t : Text) : Option (Text × Text) :=
  match t with
  | '0' :: rest => some (['0'], rest)
  | _ => digits? t

/-- The point and the digits after it, if there is one. -/
def fraction? (t : Text) : Option (Text × Text) :=
  match t with
  | '.' :: rest => do
    let (ds, rest) ← digits? rest
    return ('.' :: ds, rest)
  | _ => some ([], t)

/-- The exponent, if there is one. -/
def exponent? (t : Text) : Option (Text × Text) :=
  match t with
  | e :: rest =>
    if e = 'e' ∨ e = 'E' then
      match rest with
      | s :: rest' =>
        if s = '+' ∨ s = '-' then do
          let (ds, rest) ← digits? rest'
          return (e :: s :: ds, rest)
        else do
          let (ds, rest) ← digits? rest
          return (e :: ds, rest)
      | [] => none
    else some ([], t)
  | [] => some ([], t)

/-- A number without its sign. -/
def unsigned? (t : Text) : Option (Text × Text) := do
  let (whole, t) ← integerPart? t
  let (part, t) ← fraction? t
  let (power, t) ← exponent? t
  return (whole ++ part ++ power, t)

/-- A number. -/
def number? (t : Text) : Option (Json × Text) :=
  match t with
  | '-' :: rest => do
    let (digits, rest) ← unsigned? rest
    return (.number ('-' :: digits), rest)
  | _ => do
    let (digits, rest) ← unsigned? t
    return (.number digits, rest)

/-- The values that have a name. -/
def named : List (Text × Json) :=
  [("null".toList, .null), ("true".toList, .bool true), ("false".toList, .bool false)]

/-- A value that has a name. -/
def named? (t : Text) : Option (Json × Text) :=
  named.findSome? fun entry => (after? entry.1 t).map fun rest => (entry.2, rest)

/-- The name of a field and the colon after it. -/
def fieldName? (t : Text) : Option (Option Text × Text) :=
  match skipSpace t with
  | '"' :: t => do
    let (name, t) ← string? t
    match skipSpace t with
    | ':' :: t => some (name, t)
    | _ => none
  | _ => none

mutual

/-- A value and what follows it. -/
def value? : Nat → Text → Option (Json × Text)
  | 0, _ => none
  | bound + 1, t =>
    match skipSpace t with
    | '"' :: t => do
      let (content, t) ← string? t
      return (.string content, t)
    | '[' :: t =>
      match skipSpace t with
      | ']' :: t => some (.array [], t)
      | _ => do
        let (items, t) ← items? bound t
        return (.array items, t)
    | '\x7b' :: t =>
      match skipSpace t with
      | '\x7d' :: t => some (.object [], t)
      | _ => do
        let (fields, t) ← fields? bound t
        return (.object fields, t)
    | t => (named? t).or (number? t)

/-- The items of an array from one of them on, and what follows the array. -/
def items? : Nat → Text → Option (List Json × Text)
  | 0, _ => none
  | bound + 1, t => do
    let (item, t) ← value? bound t
    match skipSpace t with
    | ',' :: t => do
      let (items, t) ← items? bound t
      return (item :: items, t)
    | ']' :: t => some ([item], t)
    | _ => none

/-- The fields of an object from one of them on, and what follows the object. -/
def fields? : Nat → Text → Option (List (Option Text × Json) × Text)
  | 0, _ => none
  | bound + 1, t => do
    let (name, t) ← fieldName? t
    let (value, t) ← value? bound t
    match skipSpace t with
    | ',' :: t => do
      let (fields, t) ← fields? bound t
      return ((name, value) :: fields, t)
    | '\x7d' :: t => some ([(name, value)], t)
    | _ => none

end

/-- The value that a text writes. A value within a value takes two steps and at least one character. -/
def read? (t : Text) : Option Json := do
  let (value, rest) ← value? (2 * t.length + 2) t
  if skipSpace rest = [] then some value else none

end JavacLauncher.Json
