import JavacLauncher.Regex.Match
import JavacLauncher.Tool.Basic

/-!
# Expressions as arguments

`expr` takes an expression whose words are its arguments. A value is a text, which counts as a number if it
looks like one. What an operator does not need is read and not evaluated.
-/

namespace JavacLauncher.Tool.Expr

/-- A value: a text or a number. -/
inductive Value where
  | text (t : Text)
  | number (n : Int)
  deriving DecidableEq, Repr, Inhabited

namespace Value

def toText : Value → Text
  | .text t => t
  | .number n => (toString n).toList

/-- The number that a text looks like. -/
def ofDigits? (t : Text) : Option Int :=
  match t with
  | '-' :: ds => if ds ≠ [] ∧ ds.all Char.isDigit then some (-(Nat.ofDigitChars 10 ds 0 : Int)) else none
  | ds => if ds ≠ [] ∧ ds.all Char.isDigit then some (Nat.ofDigitChars 10 ds 0 : Int) else none

def number? : Value → Option Int
  | .number n => some n
  | .text t => ofDigits? t

/-- Whether a value is empty or zero. -/
def isNull : Value → Bool
  | .number n => n = 0
  | .text t => t = [] || (let ds := if t.head? = some '-' then t.tail else t; ds ≠ [] && ds.all (· = '0'))

end Value

/-- What is left of the arguments, and the one before. -/
structure Place where
  rest : List Text
  before : Text

/-- Evaluates as it reads. -/
abbrev Reading := StateT Place Work

def wrong {α : Type} (t : Text) : Reading α := do StateT.lift (fail 2 ("syntax error: ".toList ++ t))

/-- Takes an argument if it is a certain one. -/
def takeIf (words : List String) : Reading (Option String) := do
  let p ← get
  match p.rest with
  | a :: rest =>
    match words.find? fun w => w.toList = a with
    | some w =>
      set (Place.mk rest a)
      return some w
    | none => return none
  | [] => return none

/-- Takes an argument, whatever it is. -/
def take : Reading Text := do
  let p ← get
  match p.rest with
  | a :: rest =>
    set (Place.mk rest a)
    return a
  | [] => wrong ("missing argument after ".toList ++ quoteArgument p.before)

/-- What a text matches of another one at its front. -/
def matchFront (isActive : Bool) (subject pattern : Text) : Reading Value := do
  if !isActive then return .number 0
  match Matcher.ofText .basic false pattern with
  | .error e => StateT.lift (fail 2 e.message)
  | .ok m =>
    let t := subject.toArray
    match m.matchAt? t 0 with
    | some marks =>
      if m.groups > 0 then return .text (marks.text t 1)
      else
        let stop : Nat := ((marks[1]?).join).getD 0
        return .number stop
    | none => return if m.groups > 0 then .text [] else .number 0

def numberOf (v : Value) : Reading Int := do
  match v.number? with
  | some n => return n
  | none => StateT.lift (fail 2 "non-integer argument".toList)

/-- Compares values: as numbers if both look like numbers. -/
def compareValues (a b : Value) : Ordering :=
  match a.number?, b.number? with
  | some x, some y => compare x y
  | _, _ => if a.toText.precedes b.toText then .lt else if b.toText.precedes a.toText then .gt else .eq

section

variable (inner : Bool → Reading Value)

/-- A value in brackets, or an argument. -/
def single (isActive : Bool) : Reading Value := do
  match ← takeIf ["("] with
  | some _ =>
    let v ← inner isActive
    if (← takeIf [")"]).isSome then return v
    let p ← get
    match p.rest with
    | [] => wrong ("expecting ')' after ".toList ++ quoteArgument p.before)
    | a :: _ => wrong ("expecting ')' instead of ".toList ++ quoteArgument a)
  | none =>
    if (← takeIf [")"]).isSome then wrong "unexpected ')'".toList
    return .text (← take)

/-- A function by name, or a value. -/
def named (isActive : Bool) : Nat → Reading Value
  | 0 => wrong "too deep".toList
  | n + 1 => do
    match ← takeIf ["+", "length", "match", "index", "substr"] with
    | some "+" => return .text (← take)
    | some "length" =>
      let v ← named isActive n
      return .number v.toText.length
    | some "match" =>
      let a ← named isActive n
      let b ← named isActive n
      matchFront isActive a.toText b.toText
    | some "index" =>
      let a ← named isActive n
      let b ← named isActive n
      let found := a.toText.findIdx? fun c => b.toText.contains c
      let place : Nat := (found.map (· + 1)).getD 0
      return .number place
    | some _ =>
      let a ← named isActive n
      let b ← named isActive n
      let c ← named isActive n
      match b.number?, c.number? with
      | some i, some k =>
        if i ≤ 0 ∨ k ≤ 0 then return .text [] else return .text ((a.toText.drop (i.toNat - 1)).take k.toNat)
      | _, _ => return .text []
    | none => single inner isActive

/-- A chain of operators of one strength. -/
def chain (words : List String) (apply : String → Value → Bool → Reading Value) : Nat → Bool → Value → Reading Value
  | 0, _, v => return v
  | n + 1, isActive, v => do
    match ← takeIf words with
    | none => return v
    | some w => chain words apply n isActive (← apply w v isActive)

def maxChain : Nat := 100000

def matching (isActive : Bool) : Reading Value := do
  let first ← named inner isActive 100
  chain [":"] (fun _ v isActive => do
    let r ← named inner isActive 100
    if isActive then matchFront true v.toText r.toText else return v) maxChain isActive first

def product (isActive : Bool) : Reading Value := do
  let first ← matching inner isActive
  chain ["*", "/", "%"] (fun w v isActive => do
    let r ← matching inner isActive
    if !isActive then return v
    let a ← numberOf v
    let b ← numberOf r
    if w = "*" then return .number (a * b)
    else if b = 0 then StateT.lift (fail 2 "division by zero".toList)
    else return .number (if w = "/" then a.tdiv b else a.tmod b)) maxChain isActive first

def sum (isActive : Bool) : Reading Value := do
  let first ← product inner isActive
  chain ["+", "-"] (fun w v isActive => do
    let r ← product inner isActive
    if !isActive then return v
    let a ← numberOf v
    let b ← numberOf r
    return .number (if w = "+" then a + b else a - b)) maxChain isActive first

def comparison (isActive : Bool) : Reading Value := do
  let first ← sum inner isActive
  chain ["<=", "<", "==", "=", "!=", ">=", ">"] (fun w v isActive => do
    let r ← sum inner isActive
    if !isActive then return v
    let o := compareValues v r
    let holds : Bool := match w with
      | "<" => o = .lt
      | "<=" => o ≠ .gt
      | "=" | "==" => o = .eq
      | "!=" => o ≠ .eq
      | ">=" => o ≠ .lt
      | _ => o = .gt
    return .number (if holds then 1 else 0)) maxChain isActive first

def conjunction (isActive : Bool) : Reading Value := do
  let first ← comparison inner isActive
  chain ["&"] (fun _ v isActive => do
    let r ← comparison inner (isActive && !v.isNull)
    return if v.isNull || r.isNull then .number 0 else v) maxChain isActive first

def disjunction (isActive : Bool) : Reading Value := do
  let first ← conjunction inner isActive
  chain ["|"] (fun _ v isActive => do
    let r ← conjunction inner (isActive && v.isNull)
    return if !v.isNull then v else if r.isNull then .number 0 else r) maxChain isActive first

end

/-- An expression, with brackets as deep as the bound allows. -/
def expression : Nat → Bool → Reading Value
  | 0, _ => wrong "too deep".toList
  | n + 1, isActive => disjunction (expression n) isActive

end Expr

def expr : Body := fun args => do
  let args := if args.head? = some ['-', '-'] then args.tail else args
  if args = [] then misuse 2 "missing operand".toList
  let (v, p) ← (Expr.expression 200 true).run ⟨args, []⟩
  match p.rest with
  | [] => pure ()
  | a :: _ => fail 2 ("syntax error: unexpected argument ".toList ++ quoteArgument a)
  sayLine v.toText
  endWith (if v.isNull then 1 else 0)

end JavacLauncher.Tool
