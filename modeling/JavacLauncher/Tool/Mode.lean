import JavacLauncher.Text.Basic

/-!
# Modes as texts

A mode is written with octal digits, or as changes to the mode that is there: `u+x`, `go=r` and the like.
-/

namespace JavacLauncher.Tool.Mode

/-- The bits of three for whom letters stand. -/
def whoMask (who : Text) : Nat :=
  who.foldl (fun m c =>
    m ||| match c with
      | 'u' => 0o4700
      | 'g' => 0o2070
      | 'o' => 0o1007
      | _ => 0o7777) 0

/-- Three bits for all. -/
def spread (bits : Nat) : Nat := bits * 0o111

/-- The bits that a letter asks for. -/
def letterBits? (isDirectory : Bool) (mode : Nat) (c : Char) : Option Nat :=
  match c with
  | 'r' => some 0o444
  | 'w' => some 0o222
  | 'x' => some 0o111
  | 'X' => some (if isDirectory ∨ mode &&& 0o111 ≠ 0 then 0o111 else 0)
  | 's' => some 0o6000
  | 't' => some 0o1000
  | 'u' => some (spread (mode / 64 % 8))
  | 'g' => some (spread (mode / 8 % 8))
  | 'o' => some (spread (mode % 8))
  | _ => none

def isOperator (c : Char) : Bool := c = '+' || c = '-' || c = '='

/-- Does the changes of a clause from its first operator on. -/
def applyActions (isDirectory : Bool) (mask : Nat) (who : Nat) : Nat → Text → Nat → Option Nat
  | 0, _, _ => none
  | _ + 1, [], mode => some mode
  | n + 1, operator :: t, mode =>
    if !isOperator operator then none
    else
      let letters := t.takeWhile fun c => !isOperator c
      let digits? := if letters ≠ [] ∧ letters.all (fun c => '0' ≤ c && c ≤ '7') then some (Nat.ofDigitChars 8 letters 0) else none
      let bits? := match digits? with
        | some d => some d
        | none => letters.foldl (fun b? c => b?.bind fun b => (letterBits? isDirectory mode c).map (b ||| ·)) (some 0)
      match bits? with
      | none => none
      | some bits =>
        let reach := if who = 0 then 0o7777 &&& (0o7777 ^^^ mask) else who
        let bits := if digits?.isSome then bits else bits &&& reach
        let kept := if isDirectory ∧ operator = '=' then mode &&& 0o6000 else 0
        let mode :=
          if operator = '+' then mode ||| bits
          else if operator = '-' then mode &&& (0o7777 ^^^ bits)
          else if digits?.isSome then bits
          else (mode &&& (0o7777 ^^^ (if who = 0 then 0o7777 else who))) ||| bits ||| kept
        applyActions isDirectory mask who n (t.drop letters.length) mode

/-- The mode that a text makes of a mode. -/
def changed? (isDirectory : Bool) (mask : Nat) (spec : Text) (mode : Nat) : Option Nat :=
  if spec ≠ [] ∧ spec.all Char.isDigit then
    if spec.all (fun c => c ≤ '7') ∧ Nat.ofDigitChars 8 spec 0 ≤ 0o7777 then
      some (Nat.ofDigitChars 8 spec 0 ||| (if isDirectory ∧ spec.length < 5 then mode &&& 0o6000 else 0))
    else none
  else
    (spec.splitOn ',').foldl (fun mode? clause => mode?.bind fun mode =>
      let who := clause.takeWhile fun c => "ugoa".toList.contains c
      let actions := clause.drop who.length
      if actions = [] then none else applyActions isDirectory mask (whoMask who) (clause.length + 1) actions mode) (some mode)

/-- Three letters for three bits. -/
def letters (bits : Nat) (special : Bool) (specialLetter : Char) : Text :=
  [if bits &&& 4 = 0 then '-' else 'r', if bits &&& 2 = 0 then '-' else 'w',
    if special then (if bits &&& 1 = 0 then specialLetter.toUpper else specialLetter)
    else if bits &&& 1 = 0 then '-' else 'x']

/-- A mode as nine letters. -/
def text (mode : Nat) : Text :=
  letters (mode / 64 % 8) (mode &&& 0o4000 ≠ 0) 's' ++ letters (mode / 8 % 8) (mode &&& 0o2000 ≠ 0) 's' ++
    letters (mode % 8) (mode &&& 0o1000 ≠ 0) 't'

/-- A mode as octal digits. -/
def digits (mode : Nat) : Text := Nat.toDigits 8 mode

end JavacLauncher.Tool.Mode
