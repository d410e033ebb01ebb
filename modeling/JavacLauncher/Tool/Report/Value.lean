import JavacLauncher.Shell.Format
import JavacLauncher.Tool.Report.Basic

/-!
# Values in report scripts

A text that was read is a number too if it looks like one. Whole numbers are written with all their digits.
-/

namespace JavacLauncher.Tool.Report

inductive Value where
  /-- Both the empty text and zero. -/
  | unset
  | number (x : Float)
  | text (t : Text)
  /-- A text that was read. -/
  | input (t : Text)
  deriving Repr, Inhabited

/-- The number that a text begins with. -/
def numberOf (t : Text) : Float := ((Real.take? t).map (·.1)).getD 0.0

/-- The number that a text is, if it is one. -/
def wholeNumber? (t : Text) : Option Float :=
  let start := t.dropWhile CharKind.isSpace
  let digits := match start with
    | '-' :: u | '+' :: u => u
    | u => u
  if (digits.head?).any fun c => c.isDigit || c = '.' then
    match Real.take? t with
    | some (x, rest) => if rest.all CharKind.isSpace then some x else none
    | none => none
  else none

/-- A real number without what stands behind its point. -/
def truncated (x : Float) : Int :=
  match Real.valueOf x with
  | .exact e => if e.isNegative then -((e.num / e.den : Nat) : Int) else (e.num / e.den : Nat)
  | _ => 0

/-- Whether a number is whole, and not too great to be written with all digits. -/
def isPlainWhole (x : Float) : Bool :=
  match Real.valueOf x with
  | .exact e =>
    e.num % e.den = 0 && (if e.isNegative then e.num / e.den ≤ 9223372036854775808 else e.num / e.den ≤ 18446744073709551616)
  | _ => false

/-- What is wrong with a format. -/
inductive FormatMistake where
  | tooFewArguments
  | badConversion (number : Nat)
  deriving DecidableEq, Repr, Inhabited

mutual

/-- A number as a format writes it. -/
def numberText (n : Nat) (format : Text) (x : Float) : Text :=
  match n with
  | 0 => []
  | n + 1 =>
    if isPlainWhole x then
      let k := truncated x
      if k < 0 then '-' :: Text.ofNat k.natAbs else Text.ofNat k.natAbs
    else
      let v := Real.valueOf x
      if format = "%.6g".toList then (if v.isNegative || (v matches .notANumber) then ['-'] else []) ++ Real.format 'g' (some 6) false v
      else (formatted n format format.length 1 format [.number x]).1

/-- What a format writes for values, and what is wrong with it. -/
def formatted (n : Nat) (conversionFormat : Text) (fuel number : Nat) (t : Text) (args : List Value) :
    Text × Option FormatMistake :=
  match n with
  | 0 => ([], none)
  | n + 1 =>
    let plain := t.takeWhile (· ≠ '%')
    let after (rest : Text) (args : List Value) (front : Text) : Text × Option FormatMistake :=
      match fuel with
      | 0 => (front, none)
      | _ + 1 =>
        let (back, mistake?) := formatted n conversionFormat fuel (number + 1) rest args
        (front ++ back, mistake?)
    match t.drop plain.length with
    | [] => (plain, none)
    | '%' :: '%' :: rest => after rest args (plain ++ ['%'])
    | _ :: rest =>
      let texts := args.map fun v => match v with
        | .number x => let k := truncated x; if k < 0 then '-' :: Text.ofNat k.natAbs else Text.ofNat k.natAbs
        | .text s | .input s => s
        | .unset => ['0']
      match Shell.conversion? .extended rest texts with
      | none => (plain ++ '%' :: rest, none)
      | some (c, rest, left) =>
        let args := args.drop (args.length - left.length)
        match args with
        | [] => (plain, some .tooFewArguments)
        | v :: args =>
          let x := match v with
            | .number x => x
            | .text s | .input s => numberOf s
            | .unset => 0.0
          let s := match v with
            | .number x => numberText n conversionFormat x
            | .text s | .input s => s
            | .unset => []
          let cut (s : Text) : Text := match c.precision with
            | some p => s.take p
            | none => s
          match c.letter with
          | 'd' | 'i' => after rest args (plain ++ Shell.signedText c (truncated x))
          | 'o' | 'x' | 'X' | 'u' => after rest args (plain ++ Shell.unsignedText c (truncated x % Shell.Arithmetic.wordSize).toNat)
          | 'e' | 'E' | 'f' | 'F' | 'g' | 'G' => after rest args (plain ++ Shell.realText c (Real.valueOf x))
          | 's' => after rest args (plain ++ Shell.pad c (cut s))
          | 'c' =>
            let shown := match v with
              | .number x => [Char.ofNat (truncated x % 256).toNat]
              | _ => s.take 1
            after rest args (plain ++ Shell.pad c shown)
          | _ => (plain, some (.badConversion number))

end

/-- More steps than a format needs. -/
def formatSteps (format : Text) : Nat := 2 * format.length + 8

namespace Value

/-- The number that a value is. -/
def toNumber : Value → Float
  | .unset => 0.0
  | .number x => x
  | .text t | .input t => numberOf t

/-- The text that a value is, numbers being written by a format. -/
def toText (format : Text) : Value → Text
  | .unset => []
  | .number x => numberText (formatSteps format) format x
  | .text t | .input t => t

/-- The number of a value that is compared as a number. -/
def asNumber? : Value → Option Float
  | .unset => some 0.0
  | .number x => some x
  | .text _ => none
  | .input t => wholeNumber? t

/-- Whether a value holds as a condition. -/
def isTrue : Value → Bool
  | .unset => false
  | .number x => x != 0.0
  | .text t => t ≠ []
  | .input t =>
    match wholeNumber? t with
    | some x => x != 0.0
    | none => t ≠ []

def ofBool (b : Bool) : Value := .number (if b then 1.0 else 0.0)

def ofNat (n : Nat) : Value := .number (Float.ofNat n)

end Value

/-- Whether a comparison holds between numbers. -/
def Comparison.ofNumbers (op : Comparison) (a b : Float) : Bool :=
  match op with
  | .less => a < b
  | .lessEqual => a ≤ b
  | .equal => a == b
  | .notEqual => a != b
  | .greater => a > b
  | .greaterEqual => a ≥ b

/-- Whether a comparison holds between texts. -/
def Comparison.ofTexts (op : Comparison) (a b : Text) : Bool :=
  match op with
  | .less => a.precedes b
  | .lessEqual => !b.precedes a
  | .equal => a = b
  | .notEqual => a ≠ b
  | .greater => b.precedes a
  | .greaterEqual => !a.precedes b

/-- Whether a comparison holds. -/
def Comparison.holds (op : Comparison) (format : Text) (a b : Value) : Bool :=
  match a.asNumber?, b.asNumber? with
  | some x, some y => op.ofNumbers x y
  | _, _ => op.ofTexts (a.toText format) (b.toText format)

/-- A whole power, by repeated squares. -/
def wholePower (x : Float) : Nat → Nat → Float
  | 0, _ => 1.0
  | _ + 1, 0 => 1.0
  | n + 1, k => if k % 2 = 1 then x * wholePower (x * x) n (k / 2) else wholePower (x * x) n (k / 2)

/-- A power. -/
def raised (x y : Float) : Float :=
  if y == y.floor && y.abs < 1024.0 then
    let k := (truncated y).natAbs
    if y < 0.0 then 1.0 / wholePower x 64 k else wholePower x 64 k
  else Float.pow x y

/-- What is left over of a quotient rounded toward zero. -/
def remainder (x y : Float) : Float :=
  match Real.valueOf x, Real.valueOf y with
  | .exact a, .exact b =>
    if b.num = 0 then 0.0 / 0.0
    else
      -- The remainder of numbers that are multiples of one unit is one too.
      let den := a.den * b.den
      let r := (a.num * b.den) % (b.num * a.den)
      let v := Float.ofNat r / Float.ofNat den
      if a.isNegative then -v else v
  | .exact _, .infinity _ => x
  | _, _ => 0.0 / 0.0

def Arithmetic.apply (op : Arithmetic) (x y : Float) : Float :=
  match op with
  | .plus => x + y
  | .minus => x - y
  | .times => x * y
  | .over => x / y
  | .modulo => remainder x y
  | .power => raised x y

/-! ## Fields -/

/-- A text cut where an expression matches something. -/
def cutAt (m : Matcher) (t : Array Char) : Nat → Nat → List Text
  | 0, i => [(t.extract i t.size).toList]
  | n + 1, i =>
    let rec seek : Nat → Nat → Option (Nat × Nat)
      | 0, _ => none
      | k + 1, j =>
        match (m.find? t j).bind (Marks.span? · 0) with
        | none => none
        | some (a, b) => if a < b then some (a, b) else seek k (a + 1)
    match seek (t.size + 1) i with
    | none => [(t.extract i t.size).toList]
    | some (a, b) => (t.extract i a).toList :: cutAt m t n b

/-- The words of a text. -/
def words (t : Text) : List Text :=
  let isBlank (c : Char) : Bool := c = ' ' || c = '\t' || c = '\n'
  let (ws, w) := t.foldr (fun c ((ws, w) : List Text × Text) =>
    if isBlank c then (if w = [] then ws else w :: ws, []) else (ws, c :: w)) ([], [])
  if w = [] then ws else w :: ws

/-- How texts are cut into fields. -/
inductive Separator where
  | blanks
  | character (c : Char)
  /-- Every character is a field. -/
  | nothing
  | expression (m : Matcher)
  deriving Repr, Inhabited

def Separator.cut (s : Separator) (endsAtLines : Bool) (t : Text) : List Text :=
  match s with
  | .blanks => words t
  | .nothing => t.map fun c => [c]
  | .character c =>
    if t = [] then []
    else if endsAtLines ∧ c ≠ '\n' then (t.splitOn '\n').flatMap (·.splitOn c)
    else t.splitOn c
  | .expression m =>
    if t = [] then []
    else if endsAtLines then (t.splitOn '\n').flatMap fun l => cutAt m l.toArray (l.length + 1) 0
    else cutAt m t.toArray (t.length + 1) 0

/-! ## Records -/

/-- How records end. -/
inductive RecordEnd where
  | character (c : Char)
  /-- At empty lines. -/
  | paragraph
  | expression (m : Matcher)
  deriving Repr, Inhabited

/-- A text up to an empty line, and what follows all empty lines there. -/
def takeParagraph : Text → Text → Text × Text
  | read, '\n' :: '\n' :: t => (read.reverse, t.dropWhile (· = '\n'))
  | read, ['\n'] => (read.reverse, [])
  | read, c :: t => takeParagraph (c :: read) t
  | read, [] => (read.reverse, [])

/-- The next record of a text, and what follows it. -/
def RecordEnd.next? (e : RecordEnd) (t : Text) : Option (Text × Text) :=
  match e with
  | .character c => if t = [] then none else some ((cut? c t).getD (t, []))
  | .paragraph =>
    let t := t.dropWhile (· = '\n')
    if t = [] then none else some (takeParagraph [] t)
  | .expression m =>
    if t = [] then none
    else
      let array := t.toArray
      match (m.find? array 0).bind (Marks.span? · 0) with
      | some (a, b) => if a < b then some (t.take a, t.drop b) else some (t, [])
      | none => some (t, [])

end JavacLauncher.Tool.Report
