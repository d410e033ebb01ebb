import JavacLauncher.Text.Basic

/-!
# The texts of real numbers

A double is a mantissa times a power of two, so its decimal digits are found exactly, in integers. There
are three forms: with a fixed number of decimals, with an exponent, and whichever of the two is shorter.
Where half a unit is left over, the last digit becomes even.
-/

namespace JavacLauncher.Real

/-- A quotient rounded to the nearest integer; half a unit goes to the even one. -/
def roundDiv (num den : Nat) : Nat :=
  let q := num / den
  let r := num % den
  if 2 * r < den then q
  else if 2 * r > den then q + 1
  else if q % 2 = 0 then q else q + 1

/-- A number of the form `num / den`, with a sign. -/
structure Exact where
  isNegative : Bool
  num : Nat
  den : Nat
  deriving DecidableEq, Repr, Inhabited

/-- What a double is: a number, or one of the others. -/
inductive Value where
  | exact (e : Exact)
  | infinity (isNegative : Bool)
  | notANumber
  deriving DecidableEq, Repr, Inhabited

/-- The exact value of a double. -/
def valueOf (x : Float) : Value :=
  let bits := x.toBits.toNat
  let isNegative := bits / 9223372036854775808 % 2 = 1
  let exponent := bits / 4503599627370496 % 2048
  let fraction := bits % 4503599627370496
  if exponent = 2047 then if fraction = 0 then .infinity isNegative else .notANumber
  else
    let mantissa := if exponent = 0 then fraction else fraction + 4503599627370496
    let shift := max exponent 1
    if shift ≥ 1075 then .exact ⟨isNegative, mantissa <<< (shift - 1075), 1⟩
    else .exact ⟨isNegative, mantissa, 1 <<< (1075 - shift)⟩

/-- Digits with a point before the last `places` of them. -/
def placePoint (places : Nat) (keepsPoint : Bool) (digits : Text) : Text :=
  let digits := List.replicate (places + 1 - digits.length) '0' ++ digits
  let whole := digits.take (digits.length - places)
  if places = 0 then if keepsPoint then whole ++ ['.'] else whole
  else whole ++ '.' :: digits.drop (digits.length - places)

/-- The form with a fixed number of decimals, without a sign. -/
def fixed (places : Nat) (keepsPoint : Bool) (e : Exact) : Text :=
  placePoint places keepsPoint (Text.ofNat (roundDiv (e.num * Nat.pow 10 places) e.den))

/-- How often a number is to be multiplied by ten to be at least another one. -/
def raises (den : Nat) : Nat → Nat → Nat
  | 0, _ => 0
  | n + 1, num => if num ≥ den then 0 else raises den n (num * 10) + 1

/-- The power of ten that a number is at least; zero for zero. -/
def exponentOf (e : Exact) : Int :=
  if e.num = 0 then 0
  else if e.num ≥ e.den then (Nat.toDigits 10 (e.num / e.den)).length - 1
  else 0 - (raises e.den 400 e.num : Int)

/-- The digits of a number, one before the point and `places` behind it, and the power of ten. -/
def scientificDigits (places : Nat) (e : Exact) : Text × Int :=
  let x := exponentOf e
  let shift := places - x
  let n :=
    if shift ≥ 0 then roundDiv (e.num * Nat.pow 10 shift.toNat) e.den
    else roundDiv e.num (e.den * Nat.pow 10 (-shift).toNat)
  let digits := Text.ofNat n
  if digits.length > places + 1 then (digits.take (places + 1), x + 1)
  else (List.replicate (places + 1 - digits.length) '0' ++ digits, x)

/-- The text of an exponent: a sign and at least two digits. -/
def exponentText (letter : Char) (x : Int) : Text :=
  let digits := Text.ofNat x.natAbs
  letter :: (if x < 0 then '-' else '+') :: List.replicate (2 - digits.length) '0' ++ digits

/-- The form with an exponent, without a sign. -/
def scientific (letter : Char) (places : Nat) (keepsPoint : Bool) (e : Exact) : Text :=
  let (digits, x) := scientificDigits places e
  let front := digits.take 1
  (if places = 0 then if keepsPoint then front ++ ['.'] else front else front ++ '.' :: digits.drop 1) ++
    exponentText letter x

/-- A text with a point, without the zeros at its end. -/
def dropZeros (t : Text) : Text :=
  if '.' ∈ t then
    let t := (t.reverse.dropWhile (· = '0'))
    (if t.head? = some '.' then t.tail else t).reverse
  else t

/-- The shorter form with so many digits that count, without a sign. -/
def general (letter : Char) (precision : Nat) (keepsPoint : Bool) (e : Exact) : Text :=
  let precision := max precision 1
  let (digits, x) := scientificDigits (precision - 1) e
  if -4 ≤ x ∧ x < precision then
    let t := fixed (precision - 1 - x).toNat keepsPoint e
    if keepsPoint then t else dropZeros t
  else
    let t := digits.take 1 ++ (if precision > 1 then '.' :: digits.drop 1 else if keepsPoint then ['.'] else [])
    (if keepsPoint then t else dropZeros t) ++ exponentText letter x

/-- What a conversion letter writes, without a sign. -/
def format (letter : Char) (precision? : Option Nat) (keepsPoint : Bool) (v : Value) : Text :=
  let isCapital := letter.isUpper
  let raise (t : Text) : Text := if isCapital then t.map Char.toUpper else t
  match v with
  | .infinity _ => raise "inf".toList
  | .notANumber => raise "nan".toList
  | .exact e =>
    let precision := precision?.getD 6
    match letter.toLower with
    | 'f' => fixed precision keepsPoint e
    | 'e' => scientific (if isCapital then 'E' else 'e') precision keepsPoint e
    | _ => general (if isCapital then 'E' else 'e') precision keepsPoint e

/-- Whether a value has a minus sign. -/
def Value.isNegative : Value → Bool
  | .exact e => e.isNegative
  | .infinity n => n
  | .notANumber => false

/-- The number that a text begins with, and what follows it; nothing if it does not begin with one. -/
def take? (t : Text) : Option (Float × Text) :=
  let blank (c : Char) : Bool := c = ' ' || ('\t' ≤ c && c ≤ '\r')
  let u := t.dropWhile blank
  let (isNegative, u) :=
    match u with
    | '-' :: u => (true, u)
    | '+' :: u => (false, u)
    | u => (false, u)
  let signed (x : Float) : Float := if isNegative then -x else x
  let lower := u.map Char.toLower
  match after? "infinity".toList lower, after? "inf".toList lower, after? "nan".toList lower with
  | some _, _, _ => some (signed (1.0 / 0.0), u.drop 8)
  | none, some _, _ => some (signed (1.0 / 0.0), u.drop 3)
  | none, none, some _ => some (signed (0.0 / 0.0), u.drop 3)
  | none, none, none =>
    let hexDigit (c : Char) : Bool := c.isDigit || ('a' ≤ c && c ≤ 'f')
    match lower with
    | '0' :: 'x' :: d :: rest =>
      if hexDigit d then
        let digits := (d :: rest).takeWhile hexDigit
        let n := digits.foldl (fun n c => n * 16 + (if c.isDigit then c.toNat - 48 else c.toNat - 87)) 0
        some (signed (Float.ofNat n), u.drop (2 + digits.length))
      else some (signed 0.0, u.drop 1)
    | _ =>
      let whole := u.takeWhile Char.isDigit
      let rest := u.drop whole.length
      let (decimals, rest) :=
        match rest with
        | '.' :: r =>
          let ds := r.takeWhile Char.isDigit
          if ds = [] ∧ whole = [] then ([], rest) else (ds, r.drop ds.length)
        | r => ([], r)
      if whole = [] ∧ decimals = [] then none
      else
        let (exponent, rest) : Int × Text :=
          match rest with
          | c :: r =>
            if c = 'e' ∨ c = 'E' then
              let (sign, r') : Int × Text :=
                match r with
                | '-' :: r => (-1, r)
                | '+' :: r => (1, r)
                | r => (1, r)
              let ds := r'.takeWhile Char.isDigit
              if ds = [] then (0, rest) else (sign * min (Nat.ofDigitChars 10 ds 0) 100000, r'.drop ds.length)
            else (0, rest)
          | [] => (0, [])
        let mantissa := Nat.ofDigitChars 10 (whole ++ decimals) 0
        let e : Int := exponent - decimals.length
        let x :=
          if mantissa = 0 then 0.0
          else if e < -100000 then 0.0
          else if e < 0 then Float.ofScientific mantissa true e.natAbs
          else if e > 400 then 1.0 / 0.0
          else Float.ofScientific mantissa false e.natAbs
        some (signed x, rest)

end JavacLauncher.Real
