import JavacLauncher.Machine.Basic
import JavacLauncher.Shell.Format

/-!
# Tests

The conditions of `test` and `[`. The plain dialect reads its arguments as operands and operators, where an
operator that stands where only an operand can is one. The others go by the number of arguments, up to
four, so that a test of one argument asks for a text even if the text looks like an operator.
-/

namespace JavacLauncher.Shell

/-- What a test asks of the files it names, and of the shell it is made in. -/
structure FileView where
  /-- The file that a path leads to, with its number. -/
  look? : Text → Option (Nat × Node)
  /-- The same, where a link is a file of its own. -/
  lookAtLink? : Text → Option (Nat × Node)
  /-- How much a file holds. -/
  size : Node → Nat
  /-- Whether a text names a variable that has a value. -/
  isSet : Text → Bool
  /-- Whether a text names an option that is on. -/
  isOn : Text → Bool

/-- The files as a process sees them, outside a shell. -/
def fileView (t : FileTree) (p : Process) : FileView where
  look? path := (t.resolve true p.standpoint (Process.pathOf path)).toOption.bind fun e => (t.node? e.2).map fun n => (e.2, n)
  lookAtLink? path :=
    (t.resolve false p.standpoint (Process.pathOf path)).toOption.bind fun e => (t.node? e.2).map fun n => (e.2, n)
  size n :=
    match n.kind with
    | .file content => content.length
    | .directory => 4096
    | .program _ => 65536
    | .link target => target.length
    | _ => 0
  isSet _ := false
  isOn _ := false

/-- The integer that a text is, with blanks around it or not. -/
def integer? (t : Text) : Option Int :=
  let (isNegative, u) := takeSign (t.dropWhile Arithmetic.isSpace)
  let digits := u.takeWhile Char.isDigit
  let n := Nat.ofDigitChars 10 digits 0
  let limit := if isNegative then Arithmetic.maxNumber + 1 else Arithmetic.maxNumber
  if digits = [] ∨ !(u.drop digits.length).all Arithmetic.isSpace ∨ n > limit then none
  else some (if isNegative then -(n : Int) else n)

/-- The operators before one operand. -/
def unaryOperators (v : Voice) : Text :=
  match v with
  | .plain => "rwxefdcbpugkstznhOGLS".toList
  | .extended => "aovNRrwxefdcbpugkstznhOGLS".toList
  | .tool => "rwxefdcbpugkstznhOGLSN".toList

def isUnaryOperator (v : Voice) (t : Text) : Bool :=
  match t with
  | ['-', c] => (unaryOperators v).contains c
  | _ => false

/-- The operators between two operands. -/
def binaryOperators (v : Voice) : List Text :=
  (["=", "!=", "<", ">", "-eq", "-ne", "-lt", "-le", "-gt", "-ge", "-nt", "-ot", "-ef"] ++
    if v = .plain then [] else ["=="]).map String.toList

def isBinaryOperator (v : Voice) (t : Text) : Bool := (binaryOperators v).contains t

/-- A question about a file, or about a text. -/
def askUnary (files : FileView) (letter : Char) (operand : Text) : Bool :=
  let found? := (files.look? operand).map (·.2)
  let hasMode (bits : Nat) : Bool := found?.any fun n => n.mode &&& bits != 0
  match letter with
  | 'n' => operand ≠ []
  | 'z' => operand = []
  | 'e' | 'a' | 'r' | 'w' | 'O' | 'G' => found?.isSome
  | 'x' => found?.any fun n => n.isExecutable
  | 'f' => found?.any fun n => (n.kind matches .file _ | .program _)
  | 'd' => found?.any fun n => (n.kind matches .directory)
  | 'c' => found?.any fun n => (n.kind matches .device _)
  | 'p' => found?.any fun n => (n.kind matches .pipe)
  | 's' => found?.any fun n => files.size n > 0
  | 'h' | 'L' => (files.lookAtLink? operand).any fun e => (e.2.kind matches .link _)
  | 'u' => hasMode 0o4000
  | 'g' => hasMode 0o2000
  | 'k' => hasMode 0o1000
  | 'N' => found?.isSome
  | 'v' => files.isSet operand
  | 'o' => files.isOn operand
  | _ => false

/-- How a text that is no integer is complained of. -/
def integerComplaint (v : Voice) (t : Text) : Text :=
  match v with
  | .plain => "Illegal number: ".toList ++ t
  | .extended => t ++ ": integer expression expected".toList
  | .tool => "invalid integer '".toList ++ t ++ ['\'']

/-- A question about two texts. -/
def askBinary (v : Voice) (files : FileView) (left operator right : Text) : Except Text Bool := do
  let number (t : Text) : Except Text Int :=
    match integer? t with
    | some n => .ok n
    | none => .error (integerComplaint v t)
  let time? (t : Text) : Option Nat := (files.look? t).map fun e => e.2.time
  let compare (f : Int → Int → Bool) : Except Text Bool := do
    let a ← number left
    return f a (← number right)
  match String.ofList operator with
  | "=" | "==" => return left = right
  | "!=" => return left ≠ right
  | "<" => return left.precedes right
  | ">" => return right.precedes left
  | "-eq" => compare fun a b => a = b
  | "-ne" => compare fun a b => a ≠ b
  | "-lt" => compare fun a b => a < b
  | "-le" => compare fun a b => a ≤ b
  | "-gt" => compare fun a b => b < a
  | "-ge" => compare fun a b => b ≤ a
  | "-nt" =>
    return match time? left, time? right with
      | some a, some b => b < a
      | some _, none => v ≠ .plain
      | _, _ => false
  | "-ot" =>
    return match time? left, time? right with
      | some a, some b => a < b
      | none, some _ => v ≠ .plain
      | _, _ => false
  | "-ef" =>
    return match files.look? left, files.look? right with
      | some a, some b => a.1 = b.1
      | _, _ => false
  | _ => return false

namespace Test

/-- What is left of the arguments of a test. -/
abbrev Walk := StateT (List Text) (Except Text)

section

variable (v : Voice) (files : FileView)

/-- What an argument is. -/
inductive Kind where
  | nothing
  | operand
  | unary (letter : Char)
  | binary
  | not
  | and
  | or
  | opening
  | closing
  deriving DecidableEq, Repr, Inhabited

/-- What the first of some arguments is: what could be an operator is an operand where another operator, or
nothing, follows. -/
def kindOf (args : List Text) : Kind :=
  match args with
  | [] => .nothing
  | ['!'] :: _ => .not
  | ['-', 'a'] :: _ => .and
  | ['-', 'o'] :: _ => .or
  | [['(']] => .operand
  | ['('] :: _ => .opening
  | [')'] :: _ => .closing
  | a :: rest =>
    if isBinaryOperator v a then .binary
    else if isUnaryOperator v a then
      let isOperand :=
        match rest with
        | [] => true
        | [_] => false
        | b :: _ => isBinaryOperator v b
      if isOperand then .operand else .unary (a.getLast?.getD ' ')
    else .operand

/-- The arguments behind the current one. -/
def ahead : Walk (List Text) := do return (← get).tail

def skip : Walk Unit := modify List.tail

mutual

/-- Conditions joined by `-o`, from an argument of a known kind on. The last one stays the current one. -/
def any : Nat → Kind → Walk Bool
  | 0, _ => throw "too deep".toList
  | n + 1, kind => do
    let a ← all n kind
    if kindOf v (← ahead) = .or then
      skip
      skip
      let b ← any n (kindOf v (← get))
      return a || b
    else return a

/-- Conditions joined by `-a`. -/
def all : Nat → Kind → Walk Bool
  | 0, _ => throw "too deep".toList
  | n + 1, kind => do
    let a ← negated n kind
    if kindOf v (← ahead) = .and then
      skip
      skip
      let b ← all n (kindOf v (← get))
      return a && b
    else return a

/-- A condition, or one with a negation in front. -/
def negated : Nat → Kind → Walk Bool
  | 0, _ => throw "too deep".toList
  | n + 1, kind => do
    if kind = .not then
      let next := kindOf v (← ahead)
      if next ≠ .nothing then skip
      return !(← negated n next)
    else single n kind

/-- A condition in brackets, one with an operator, or a text. -/
def single : Nat → Kind → Walk Bool
  | 0, _ => throw "too deep".toList
  | n + 1, kind => do
    match kind with
    | .nothing => return false
    | .opening =>
      skip
      let next := kindOf v (← get)
      if next = .closing then return false
      let a ← any n next
      skip
      if kindOf v (← get) ≠ .closing then throw "closing paren expected".toList
      return a
    | .unary letter =>
      let operator := (← get).headD []
      skip
      match ← get with
      | [] => throw (operator ++ ": argument expected".toList)
      | a :: _ => return askUnary files letter a
    | _ =>
      let args ← get
      match args with
      | a :: o :: rest =>
        if kindOf v (o :: rest) = .binary then
          match rest with
          | [] => throw (o ++ ": argument expected".toList)
          | b :: _ =>
            skip
            skip
            askBinary v files a o b
        else return a ≠ []
      | a :: _ => return a ≠ []
      | [] => return false

end

/-- The answer of the plain dialect. -/
def plainAnswer : Nat → Bool → List Text → Except Text Bool
  | 0, isNegated, _ => .ok isNegated
  | n + 1, isNegated, args => do
    let general (kind : Kind) (args : List Text) : Except Text Bool := do
      let (a, rest) ← (any v files (4 * args.length + 8) kind).run args
      match rest with
      | x :: _ :: _ => throw (if x = [] then "unexpected operator".toList else x ++ ": unexpected operator".toList)
      | _ => return a != isNegated
    let special (args : List Text) : Except Text Bool :=
      match args with
      | ['('] :: inside =>
        if args.length ≥ 3 ∧ args.getLast? = some [')'] then general (kindOf v inside.dropLast) inside.dropLast
        else general (kindOf v args) args
      | ['!'] :: rest => plainAnswer n (!isNegated) rest
      | _ => general (kindOf v args) args
    match args with
    | [] => return isNegated
    | [_, o, _] => if isBinaryOperator v o then general .operand args else special args
    | [_, _, _, _] => special args
    | _ => general (kindOf v args) args

/-- The answer that goes by the number of arguments. -/
def countedAnswer : Nat → List Text → Except Text Bool
  | 0, _ => .ok false
  | n + 1, args => do
    let general (args : List Text) : Except Text Bool := do
      let (a, rest) ← (any v files (4 * args.length + 8) (kindOf v args)).run args
      match rest with
      | _ :: x :: _ =>
        throw (if v = .tool then "extra argument '".toList ++ x ++ ['\''] else "too many arguments".toList)
      | _ => return a
    let expected (what : String) (t : Text) : Text :=
      if v = .tool then '\'' :: t ++ "': ".toList ++ what.toList ++ " operator expected".toList
      else t ++ ": ".toList ++ what.toList ++ " operator expected".toList
    match args with
    | [] => return false
    | [a] => return a ≠ []
    | [o, a] =>
      if o = ['!'] then return a = []
      else if isUnaryOperator v o then return askUnary files (o.getLast?.getD ' ') a
      else throw (expected "unary" o)
    | [a, o, b] =>
      if isBinaryOperator v o then askBinary v files a o b
      else if o = ['-', 'a'] then return a ≠ [] && b ≠ []
      else if o = ['-', 'o'] then return a ≠ [] || b ≠ []
      else if a = ['!'] then return !(← countedAnswer n [o, b])
      else if a = ['('] ∧ b = [')'] then return o ≠ []
      else throw (expected "binary" o)
    | ['!'] :: rest =>
      if rest.length = 3 then return !(← countedAnswer n rest) else general args
    | _ =>
      if args.length = 4 ∧ args.head? = some ['('] ∧ args.getLast? = some [')'] then
        countedAnswer n args.tail.dropLast
      else general args

end

end Test

/-- The answer to a test, or what is wrong with it. -/
def testAnswer (v : Voice) (files : FileView) (isBracket : Bool) (args : List Text) : Except Text Bool :=
  if isBracket ∧ args.getLast? ≠ some [']'] then
    .error (match v with
      | .plain => "missing ]".toList
      | .extended => "missing \x60]'".toList
      | .tool => "missing ']'".toList)
  else
    let args := if isBracket then args.dropLast else args
    if v = .plain then Test.plainAnswer v files (args.length + 1) false args
    else Test.countedAnswer v files (args.length + 1) args

end JavacLauncher.Shell
