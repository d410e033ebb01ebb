import JavacLauncher.Text.Basic

/-!
# JSON values

A value keeps what a reader of settings can tell apart: objects keep their fields in order and with
repetitions, numbers their digits. A string may name half of a surrogate pair, which is no text; such a
string has no content, and matters only where its content is asked for.
-/

namespace JavacLauncher

/-- A JSON value. -/
inductive Json where
  | null
  | bool (value : Bool)
  | number (digits : Text)
  | string (content? : Option Text)
  | array (items : List Json)
  | object (fields : List (Option Text × Json))
  deriving Repr, Inhabited

namespace Json

/-- A unit of a string as it is written: a character, or a number in an escape. -/
inductive StringUnit where
  | char (c : Char)
  | number (n : Nat)
  deriving DecidableEq, Repr

/-- The first half of a surrogate pair. -/
def isHighHalf (n : Nat) : Bool := 0xD800 ≤ n && n ≤ 0xDBFF

/-- The second half of a surrogate pair. -/
def isLowHalf (n : Nat) : Bool := 0xDC00 ≤ n && n ≤ 0xDFFF

/-- The text that units spell: two halves make one character, and a half on its own makes none. -/
def spell? : List StringUnit → Option Text
  | [] => some []
  | .char c :: us => (spell? us).map (c :: ·)
  | .number n :: us =>
    if isHighHalf n then
      match us with
      | .number m :: us' =>
        if isLowHalf m then
          (spell? us').map (Char.ofNat (0x10000 + (n - 0xD800) * 0x400 + (m - 0xDC00)) :: ·)
        else none
      | _ => none
    else if isLowHalf n then none
    else (spell? us).map (Char.ofNat n :: ·)

end Json

end JavacLauncher
