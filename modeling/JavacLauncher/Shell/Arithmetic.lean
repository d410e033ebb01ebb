import JavacLauncher.Shell.Syntax

/-!
# Arithmetic in the shell

Numbers have 64 bits and wrap around. An expression may assign to variables; a part whose value does not
matter, as behind `0 &&`, is read but not evaluated. The plain dialect takes variables for numbers, the
extended one for expressions again, and knows counting up and down, powers, and other bases.
-/

namespace JavacLauncher.Shell.Arithmetic

/-- What expressions are made of. -/
inductive Token where
  | number (value : Int)
  | name (t : Text)
  | operator (t : Text)
  /-- A character, or a numeral, that means nothing. -/
  | bad
  deriving DecidableEq, Repr, Inhabited

/-- Why an expression has no value. -/
inductive Trouble where
  /-- Something else was to come. -/
  | expecting (what : String)
  /-- The text of a variable is not a number. -/
  | illegalNumber (t : Text)
  | divisionByZero (rest : Text)
  /-- Something is wrong with the text from a place on. -/
  | wrong (what : String) (rest : Text)
  deriving DecidableEq, Repr, Inhabited

/-- How many numbers there are. -/
def wordSize : Nat := 18446744073709551616

/-- The greatest number. -/
def maxNumber : Nat := 9223372036854775807

/-- The number that a result wraps around to. -/
def wrap (n : Int) : Int := n.bmod wordSize

/-- The value of a digit, in bases up to 64. -/
def digitValue (base : Nat) (c : Char) : Nat :=
  if c.isDigit then c.toNat - 48
  else if 'a' ≤ c ∧ c ≤ 'z' then c.toNat - 87
  else if 'A' ≤ c ∧ c ≤ 'Z' then if base ≤ 36 then c.toNat - 55 else c.toNat - 29
  else if c = '@' then 62
  else if c = '_' then 63
  else 64

/-- The value of digits in a base. -/
def valueOf (base : Nat) (digits : Text) : Nat := digits.foldl (fun n c => n * base + digitValue base c) 0

/-- The numeral that a text begins with, in base 8 or 16 if it says so, and what follows it. -/
def numeral (t : Text) : Nat × Text :=
  let read (base : Nat) (t : Text) : Nat × Text :=
    let digits := t.takeWhile fun c => digitValue base c < base && c.isAlphanum
    (valueOf base digits, t.drop digits.length)
  let isHex : Text → Bool := fun t => (t.head?).any fun c => digitValue 16 c < 16 && c.isAlphanum
  match t with
  | '0' :: 'x' :: u | '0' :: 'X' :: u => if isHex u then read 16 u else (0, t.drop 1)
  | '0' :: _ => read 8 t
  | _ => read 10 t

/-- The spaces of the system's own readers of numbers. -/
def isSpace (c : Char) : Bool := c = ' ' || ('\t' ≤ c && c ≤ '\r')

/-- The number that a text is in all, with a sign and spaces around it. No text is zero. -/
def number? (t : Text) : Option Int :=
  let u := t.dropWhile isSpace
  let (isNegative, digits) :=
    match u with
    | '-' :: v => (true, v)
    | '+' :: v => (false, v)
    | v => (false, v)
  if (digits.head?).any Char.isDigit then
    let (n, rest) := numeral digits
    let n : Int := if isNegative then -n else n
    if rest.all isSpace ∧ -(maxNumber + 1 : Int) ≤ n ∧ n ≤ maxNumber then some n else none
  else if u = [] then some 0
  else none

/-- Operators that take more characters come before those that they begin with. -/
def operators (isExtended : Bool) : List Text :=
  let longest := ["<<=", ">>="]
  let extended := ["**", "++", "--"]
  let two := ["<<", ">>", "<=", ">=", "==", "!=", "&&", "||", "*=", "/=", "%=", "+=", "-=", "&=", "^=", "|="]
  let one := ["<", ">", "=", "!", "&", "|", "*", "/", "%", "+", "-", "^", "~", "?", ":", "(", ")"]
  (longest ++ (if isExtended then extended else []) ++ two ++ one ++ (if isExtended then [","] else [])).map
    String.toList

/-- The numeral of the extended dialect that a text begins with; it may name its base. -/
def extendedNumeral (t : Text) : Option Nat × Text :=
  let word := t.takeWhile fun c => c.isAlphanum || c = '_' || c = '@' || c = '#'
  let rest := t.drop word.length
  let value? : Option Nat :=
    match cut? '#' word with
    | some (base, digits) =>
      match JavacLauncher.Shell.numeral? base with
      | some b =>
        if 2 ≤ b ∧ b ≤ 64 ∧ digits ≠ [] ∧ digits.all (fun c => digitValue b c < b) then some (valueOf b digits) else none
      | none => none
    | none =>
      let (n, after) := numeral word
      if after = [] then some n else none
  (value?, rest)

/-- The tokens of an expression, each with the text that begins with it. -/
def tokens (isExtended : Bool) : Nat → Text → List (Token × Text)
  | 0, _ => []
  | _ + 1, [] => []
  | n + 1, c :: t =>
    if c = ' ' ∨ c = '\t' ∨ c = '\n' then tokens isExtended n t
    else if c.isDigit then
      if isExtended then
        match extendedNumeral (c :: t) with
        | (some v, rest) => (.number (wrap v), c :: t) :: tokens isExtended n rest
        | (none, rest) => (.bad, c :: t) :: tokens isExtended n rest
      else
        let (v, rest) := numeral (c :: t)
        (.number (min v maxNumber), c :: t) :: tokens isExtended n rest
    else if isNameStart c then
      let name := (c :: t).takeWhile isNameChar
      (.name name, c :: t) :: tokens isExtended n ((c :: t).drop name.length)
    else if isExtended ∧ c = '[' then
      -- The subscript of the name before: all up to the bracket that closes it.
      let inside := (t.foldl (fun (s : Text × Nat × Bool) c =>
        if s.2.2 then s
        else if c = '[' then (c :: s.1, s.2.1 + 1, false)
        else if c = ']' then if s.2.1 = 0 then (s.1, 0, true) else (c :: s.1, s.2.1 - 1, false)
        else (c :: s.1, s.2.1, false)) ([], 0, false)).1.reverse
      (.operator ('[' :: inside), c :: t) :: tokens isExtended n (t.drop (inside.length + 1))
    else
      match (operators isExtended).find? fun o => o.isPrefixOf (c :: t) with
      | some o => (.operator o, c :: t) :: tokens isExtended n ((c :: t).drop o.length)
      | none => (.bad, c :: t) :: tokens isExtended n t

/-- A variable, or an element of an array. -/
structure Cell where
  name : Text
  subscript : Option Text
  deriving DecidableEq, Repr, Inhabited

/-- What an expression finds, and changes. -/
structure State where
  tokens : List (Token × Text)
  /-- The text from the last token on. -/
  last : Text
  /-- The cells that have got values, the last one first. -/
  assigned : List (Cell × Int)
  deriving Inhabited

/-- What expressions ask for. -/
structure Cells where
  isExtended : Bool
  value? : Cell → Option Text
  /-- Whether the subscripts of an array are texts. -/
  isTable : Text → Bool

abbrev Calc := StateT State (Except Trouble)

/-- The next token stays. -/
def look : Calc (Option Token) := do return ((← get).tokens.head?).map (·.1)

def skip : Calc Unit := modify fun s =>
  match s.tokens with
  | [] => s
  | (_, t) :: rest => { s with tokens := rest, last := t }

/-- Takes the next token if it is an operator among some. -/
def takeOperator (os : List String) : Calc (Option String) := do
  match ← look with
  | some (.operator o) =>
    match os.find? fun p => p.toList = o with
    | some p =>
      skip
      return some p
    | none => return none
  | _ => return none

/-- Where the trouble is: at the next token, or at the last one if nothing comes. -/
def place : Calc Text := do
  let s ← get
  return (s.tokens.head?.map (·.2)).getD s.last

def fail {α : Type} (t : Trouble) : Calc α := throw t

/-- The binding strengths of the operators between two numbers; 0 binds most. -/
def strength? : Token → Option Nat
  | .operator o =>
    if o ∈ ["*", "/", "%"].map String.toList then some 0
    else if o ∈ ["+", "-"].map String.toList then some 1
    else if o ∈ ["<<", ">>"].map String.toList then some 2
    else if o ∈ ["<", "<=", ">", ">="].map String.toList then some 3
    else if o ∈ ["==", "!="].map String.toList then some 4
    else if o = ['&'] then some 5
    else if o = ['^'] then some 6
    else if o = ['|'] then some 7
    else none
  | _ => none

def ofBool (b : Bool) : Int := if b then 1 else 0

/-- The bits of a number. -/
def bits (n : Int) : BitVec 64 := BitVec.ofInt 64 n

/-- The value of an operator between two numbers; `rest` is the text of the second one. -/
def apply (rest : Text) (o : Text) (a b : Int) : Calc Int := do
  match String.ofList o with
  | "*" => return wrap (a * b)
  | "/" => if b = 0 then fail (.divisionByZero rest) else return wrap (a.tdiv b)
  | "%" => if b = 0 then fail (.divisionByZero rest) else return wrap (a.tmod b)
  | "+" => return wrap (a + b)
  | "-" => return wrap (a - b)
  | "<<" => return (bits a <<< (b % 64).toNat).toInt
  | ">>" => return ((bits a).sshiftRight (b % 64).toNat).toInt
  | "<" => return ofBool (a < b)
  | "<=" => return ofBool (a ≤ b)
  | ">" => return ofBool (a > b)
  | ">=" => return ofBool (a ≥ b)
  | "==" => return ofBool (a = b)
  | "!=" => return ofBool (a ≠ b)
  | "&" => return (bits a &&& bits b).toInt
  | "^" => return (bits a ^^^ bits b).toInt
  | "|" => return (bits a ||| bits b).toInt
  | _ => return 0

/-- The assignments that apply an operator first. -/
def assignments : List String := ["=", "*=", "/=", "%=", "+=", "-=", "<<=", ">>=", "&=", "^=", "|="]

/-- More operators than an expression has. -/
def maxOperators : Nat := 1000000

section

variable (cells : Cells) (evaluate : Text → Calc Int) (assign : Bool → Calc Int)

/-- The value of a cell. -/
def valueOfCell (c : Cell) : Calc Int := do
  match (← get).assigned.lookup c with
  | some n => return n
  | none =>
    let t := (cells.value? c).getD []
    if cells.isExtended then
      if t.all isSpace then return 0 else evaluate t
    else
      match number? t with
      | some n => return n
      | none => fail (.illegalNumber t)

/-- The cell that a name and what follows it stand for. -/
def cellOf (name : Text) : Calc Cell := do
  match ← look with
  | some (.operator ('[' :: t)) =>
    skip
    if cells.isTable name then return ⟨name, some t⟩
    else
      let n ← evaluate t
      return ⟨name, some (if n < 0 then '-' :: Text.ofNat n.natAbs else Text.ofNat n.natAbs)⟩
  | _ => return ⟨name, none⟩

/-- Gives a cell a value, unless nothing counts. -/
def give (isIdle : Bool) (c : Cell) (n : Int) : Calc Int := do
  if !isIdle then modify fun s => { s with assigned := (c, n) :: s.assigned }
  return n

/-- A number, a variable or an expression in brackets, with its signs. -/
def primary (isIdle : Bool) : Nat → Calc Int
  | 0 => fail (.expecting "primary")
  | n + 1 => do
    match ← look with
    | some (.number v) =>
      skip
      return v
    | some (.name name) =>
      skip
      let c ← cellOf cells evaluate name
      if isIdle then return 0
      let v ← valueOfCell cells evaluate c
      if cells.isExtended then
        match ← takeOperator ["++", "--"] with
        | some o =>
          let _ ← give isIdle c (wrap (if o = "++" then v + 1 else v - 1))
          return v
        | none => return v
      else return v
    | some (.operator ['(']) =>
      skip
      let v ← assign isIdle
      if (← takeOperator [")"]).isNone then
        if cells.isExtended then fail (.wrong "missing )" (← place)) else fail (.expecting "')'")
      return v
    | some (.operator ['+']) =>
      skip
      primary isIdle n
    | some (.operator ['-']) =>
      skip
      return wrap (-(← primary isIdle n))
    | some (.operator ['!']) =>
      skip
      return ofBool ((← primary isIdle n) = 0)
    | some (.operator ['~']) =>
      skip
      return -(← primary isIdle n) - 1
    | some (.operator ['+', '+']) | some (.operator ['-', '-']) =>
      let up := (← look) = some (.operator ['+', '+'])
      skip
      match ← look with
      | some (.name name) =>
        skip
        let c ← cellOf cells evaluate name
        if isIdle then return 0
        let v ← valueOfCell cells evaluate c
        give isIdle c (wrap (if up then v + 1 else v - 1))
      | _ =>
        let v ← primary isIdle n
        return v
    | some .bad =>
      let rest ← place
      if !cells.isExtended then fail (.expecting "primary")
      else if (rest.head?).any Char.isDigit then fail (.wrong "value too great for base" rest)
      else fail (.wrong "syntax error: operand expected" rest)
    | _ =>
      if cells.isExtended then fail (.wrong "syntax error: operand expected" (← place))
      else fail (.expecting "primary")

/-- A power, of the extended dialect; the one on the right is taken first. -/
def power (isIdle : Bool) : Nat → Calc Int
  | 0 => fail (.expecting "primary")
  | n + 1 => do
    let a ← primary cells evaluate assign isIdle maxOperators
    if (← takeOperator ["**"]).isSome then
      let rest ← place
      let b ← power isIdle n
      if b < 0 then fail (.wrong "exponent less than 0" rest)
      else return wrap ((List.range b.toNat).foldl (fun v _ => wrap (v * a)) 1)
    else return a

/-- What operators of at most a strength make of a number and what follows it. -/
def chain (isIdle : Bool) : Nat → Nat → Int → Calc Int
  | 0, _, _ => fail (.expecting "EOF")
  | n + 1, limit, a => do
    let token? ← look
    match token?, token?.bind strength? with
    | some (.operator o), some s =>
      if s ≥ limit then return a
      else
        skip
        let rest ← place
        let b ← power cells evaluate assign isIdle n
        let b ← chain isIdle n s b
        let v ← if isIdle then pure b else apply rest o a b
        chain isIdle n limit v
    | _, _ => return a

/-- Numbers and the operators between them. -/
def binary (isIdle : Bool) : Calc Int := do
  chain cells evaluate assign isIdle maxOperators 8 (← power cells evaluate assign isIdle maxOperators)

/-- Values joined by `&&`. -/
def both : Nat → Bool → Calc Int
  | 0, _ => fail (.expecting "EOF")
  | n + 1, isIdle => do
    let a ← binary cells evaluate assign isIdle
    if (← takeOperator ["&&"]).isNone then return a
    let b ← both n (isIdle || a = 0)
    return ofBool (a ≠ 0 && b ≠ 0)

/-- Values joined by `||`. -/
def either : Nat → Bool → Calc Int
  | 0, _ => fail (.expecting "EOF")
  | n + 1, isIdle => do
    let a ← both cells evaluate assign maxOperators isIdle
    if (← takeOperator ["||"]).isNone then return a
    let b ← either n (isIdle || a ≠ 0)
    return ofBool (a ≠ 0 || b ≠ 0)

/-- A choice between two values. -/
def choice : Nat → Bool → Calc Int
  | 0, _ => fail (.expecting "EOF")
  | n + 1, isIdle => do
    let a ← either cells evaluate assign maxOperators isIdle
    if (← takeOperator ["?"]).isNone then return a
    let b ← assign (isIdle || a = 0)
    if (← takeOperator [":"]).isNone then
      if cells.isExtended then fail (.wrong "\x60:\x27 expected for conditional expression" (← place))
      else fail (.expecting "':'")
    let c ← choice n (isIdle || a ≠ 0)
    return if a ≠ 0 then b else c

/-- An assignment, or a value. -/
def assignmentOr (isIdle : Bool) : Calc Int := do
  let s ← get
  match ← look with
  | some (.name name) =>
    skip
    let c ← cellOf cells evaluate name
    match ← takeOperator assignments with
    | some o =>
      let v ← assign isIdle
      if isIdle then return v
      else if o = "=" then give isIdle c v
      else
        let old ← valueOfCell cells evaluate c
        give isIdle c (← apply s.last (o.toList.dropLast) old v)
    | none =>
      let now ← get
      set { s with assigned := now.assigned }
      choice cells evaluate assign maxOperators isIdle
  | _ => choice cells evaluate assign maxOperators isIdle

end

/-- An assignment or a value, as deep in brackets and assignments as a bound allows. -/
def assignment (cells : Cells) (evaluate : Text → Calc Int) : Nat → Bool → Calc Int
  | 0, _ => fail (.expecting "EOF")
  | n + 1, isIdle => assignmentOr cells evaluate (assignment cells evaluate n) isIdle

/-- How deep brackets may stand within brackets, and variables lead to variables. -/
def depth : Nat := 1024

/-- The value of a whole text, whose variables lead on as far as a bound allows. -/
def whole (cells : Cells) : Nat → Text → Calc Int
  | 0, t => fail (.wrong "expression recursion level exceeded" t)
  | n + 1, t => do
    let outer ← get
    set { outer with tokens := tokens cells.isExtended (t.length + 1) t, last := t }
    let evaluate := whole cells n
    let v ←
      if cells.isExtended ∧ t.all isSpace then pure 0
      else
        let first ← assignment cells evaluate depth false
        commas (assignment cells evaluate depth false) (t.length + 1) first
    match ← look with
    | none => modify fun s => { s with tokens := outer.tokens, last := outer.last }
    | some next =>
      let rest ← place
      if !cells.isExtended then fail (.expecting "EOF")
      else if next = .bad ∧ !(rest.head?).any Char.isDigit then
        fail (.wrong "syntax error: invalid arithmetic operator" rest)
      else if next = .bad then fail (.wrong "value too great for base" rest)
      else fail (.wrong "syntax error in expression" rest)
    return v
where
  commas (next : Calc Int) : Nat → Int → Calc Int
    | 0, v => return v
    | n + 1, v => do
      if (← takeOperator [","]).isSome then commas next n (← next) else return v

/-- The value of an expression, and the cells it has given values to, the first one first. -/
def evaluate (cells : Cells) (t : Text) : Except Trouble (Int × List (Cell × Int)) := do
  let (v, s) ← (whole cells depth t).run ⟨[], t, []⟩
  return (v, s.assigned.reverse)

/-- What is wrong with an expression. -/
def Trouble.message (t : Text) : Trouble → Text
  | .expecting what => "arithmetic expression: expecting ".toList ++ what.toList ++ ": \"".toList ++ t ++ ['"']
  | .illegalNumber n => "Illegal number: ".toList ++ n
  | .divisionByZero _ => "arithmetic expression: division by zero: \"".toList ++ t ++ ['"']
  | .wrong what _ => what.toList

/-- The same, in the extended dialect. -/
def Trouble.extendedMessage (t : Text) (trouble : Trouble) : Text :=
  let show_ (what : Text) (rest : Text) : Text :=
    t.dropWhile isSpace ++ ": ".toList ++ what ++ " (error token is \"".toList ++ rest ++ "\")".toList
  match trouble with
  | .expecting what => show_ ("expecting ".toList ++ what.toList) t
  | .illegalNumber n => show_ "syntax error in expression".toList n
  | .divisionByZero rest => show_ "division by 0".toList rest
  | .wrong what rest => show_ what.toList rest

/-- The text of a number. -/
def display (n : Int) : Text := if n < 0 then '-' :: Text.ofNat n.natAbs else Text.ofNat n.natAbs

end JavacLauncher.Shell.Arithmetic
