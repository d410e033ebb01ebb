import JavacLauncher.Shell.Format
import JavacLauncher.Tool.Basic

/-!
# Sequences of numbers

The numbers are exact decimals: each is the first one and a multiple of the step, and all are written with as
many decimal places as the first one and the step have.
-/

namespace JavacLauncher.Tool

/-- A decimal number: how many units of its last place it is, and how many places it has. -/
structure Scaled where
  units : Int
  places : Nat
  deriving DecidableEq, Repr, Inhabited

namespace Scaled

/-- The number with more places. -/
def at_ (s : Scaled) (places : Nat) : Int := s.units * Int.pow 10 (places - s.places)

/-- The number that a text writes. -/
def ofText? (t : Text) : Option Scaled :=
  let (isNegative, t) := match t with
    | '-' :: t => (true, t)
    | '+' :: t => (false, t)
    | t => (false, t)
  let whole := t.takeWhile Char.isDigit
  let rest := t.drop whole.length
  let (fraction, rest) := match rest with
    | '.' :: r => (r.takeWhile Char.isDigit, r.dropWhile Char.isDigit)
    | r => ([], r)
  let sign (n : Nat) : Int := if isNegative then -n else n
  let value := Nat.ofDigitChars 10 (whole ++ fraction) 0
  if whole = [] ∧ fraction = [] then none
  else
    match rest with
    | [] => some ⟨sign value, fraction.length⟩
    | c :: e =>
      if c ≠ 'e' ∧ c ≠ 'E' then none
      else
        let (isDown, ds) := match e with
          | '-' :: ds => (true, ds)
          | '+' :: ds => (false, ds)
          | ds => (false, ds)
        if ds = [] ∨ !ds.all Char.isDigit ∨ ds.length > 4 then none
        else
          let n := Nat.ofDigitChars 10 ds 0
          if isDown then some ⟨sign value, fraction.length + n⟩
          else if n ≥ fraction.length then some ⟨sign value * Int.pow 10 (n - fraction.length), 0⟩
          else some ⟨sign value, fraction.length - n⟩

/-- The text of so many units with so many places. -/
def show_ (units : Int) (places : Nat) : Text :=
  let ds := Text.ofNat units.natAbs
  let ds := List.replicate (places + 1 - ds.length) '0' ++ ds
  let whole := ds.take (ds.length - places)
  (if units < 0 then ['-'] else []) ++ whole ++ (if places = 0 then [] else '.' :: ds.drop (ds.length - places))

/-- The same, filled with zeros up to a width. -/
def showWide (width : Nat) (units : Int) (places : Nat) : Text :=
  let t := show_ units.natAbs places
  let sign := if units < 0 then ['-'] else []
  sign ++ List.replicate (width - t.length - sign.length) '0' ++ t

end Scaled

def seq : Body := fun args => do
  -- Negative numbers are no options.
  let isNumber (a : Text) : Bool :=
    match a with
    | '-' :: c :: _ => c.isDigit || c = '.'
    | _ => false
  let takesValue (a : Text) : Bool := a = ['-', 's'] || a = ['-', 'f']
  let rec optionCount : List Text → Nat
    | a :: b :: rest => if takesValue a then 2 + optionCount rest else if a.head? = some '-' ∧ !isNumber a ∧ a.length > 1 then 1 + optionCount (b :: rest) else 0
    | [a] => if a.head? = some '-' ∧ !isNumber a ∧ a.length > 1 then 1 else 0
    | [] => 0
  let k := optionCount args
  let p ← parse ⟨"f:s:w", [("format", "f", .value), ("separator", "s", .value), ("equal-width", "w", .nothing)], 1, true⟩ (args.take k)
  let operands := p.operands ++ args.drop k
  if operands = [] then misuse 1 "missing operand".toList
  if operands.length > 3 then misuse 1 ("extra operand ".toList ++ quoteArgument ((operands[3]?).getD []))
  let isEndless := operands.getLast? = some "inf".toList
  let numbers ← (if isEndless then operands.dropLast else operands).mapM fun t => do
    match Scaled.ofText? t with
    | some s => pure s
    | none => misuse 1 ("invalid floating point argument: ".toList ++ quoteArgument t)
  let one : Scaled := ⟨1, 0⟩
  let numbers := if isEndless then numbers ++ [⟨Int.pow 10 30, 0⟩] else numbers
  let (first, step, last) :=
    match numbers with
    | [l] => (one, one, l)
    | [f, l] => (f, one, l)
    | [f, s, l] => (f, s, l)
    | _ => (one, one, one)
  if step.units = 0 then
    misuse 1 ("invalid Zero increment value: ".toList ++ quoteArgument ((operands[1]?).getD []))
  let places := max first.places step.places
  let fine := max places last.places
  let start := first.at_ fine
  let by_ := step.at_ fine
  let stop_ := last.at_ fine
  let count : Int := if by_ > 0 then (stop_ - start) / by_ + 1 else (start - stop_) / (-by_) + 1
  let separator := (p.value? "s").getD ['\n']
  let shownUnits (u : Int) : Int := u / Int.pow 10 (fine - places)
  let lastShown := shownUnits (start + by_ * (count - 1))
  let width := max (Scaled.show_ (shownUnits start) places).length (Scaled.show_ lastShown places).length
  let written (u : Int) : Text :=
    match p.value? "f" with
    | some format => (Shell.formatText .tool format [Scaled.show_ u fine]).1.text
    | none => if p.has "w" then Scaled.showWide width (shownUnits u) places else Scaled.show_ (shownUnits u) places
  let rec go : Nat → Int → Bool → Work Unit
    | 0, _, _ => pure ()
    | n + 1, u, isFirst => do
      if (← get).failure?.isSome then pure ()
      else
        say ((if isFirst then [] else separator) ++ written u)
        go n (u + by_) false
  if count > 0 then
    go (min count.toNat 3000000) start true
    say ['\n']

end JavacLauncher.Tool
