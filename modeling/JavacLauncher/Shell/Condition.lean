import JavacLauncher.Regex.Match
import JavacLauncher.Shell.Expand
import JavacLauncher.Shell.View

/-!
# Conditions between double brackets

The words of a condition are not split. The right side of an equation is a pattern, that of `=~` an
expression; in both what is quoted stands for itself. What an expression has matched is kept.
-/

namespace JavacLauncher.Shell

variable (evaluate : Evaluator)

/-- The characters that mean something in an expression. -/
def isExpressionOperator (c : Char) : Bool := "\\.[]()*+?^$|\x7b\x7d".toList.contains c

/-- A marked text as an expression; what is quoted stands for itself. -/
def expressionText (m : Marked) : Text :=
  m.flatMap fun (c, isQuoted) => if isQuoted ∧ isExpressionOperator c then ['\\', c] else [c]

/-- Keeps what an expression has matched. -/
def keepMatch (t : Array Char) (marks? : Option Marks) (groups : Nat) : Run Unit := do
  let found :=
    match marks? with
    | some marks => (List.range (groups + 1)).map fun g => (g, marks.text t g)
    | none => []
  modify fun s => s.put "BASH_REMATCH".toList (.list found)

/-- The status of a comparison by an expression: success, failure, or an expression that is wrong. -/
def matchExpression (subject : Text) (expression : Text) : Run Nat := do
  let s ← get
  match Matcher.ofText .condition (s.hasExtra "nocasematch") expression with
  | .error _ => return 2
  | .ok m =>
    let t := subject.toArray
    let marks? := m.find? t 0
    keepMatch t marks? m.groups
    return if marks?.isSome then 0 else 1

/-- A text with its letters made small, if their case does not count. -/
def folded (s : Session) (t : Text) : Text := if s.hasExtra "nocasematch" then t.map Char.toLower else t

/-- The status of a condition. -/
def conditionStatus : Nat → Condition → Run Nat
  | 0, _ => throw (.killed Signal.kill)
  | n + 1, c => do
    let ofBool (b : Bool) : Nat := if b then 0 else 1
    match c with
    | .word w => return ofBool (!(← expandText evaluate .text w).isEmpty)
    | .negated c =>
      let status ← conditionStatus n c
      return if status = 0 then 1 else if status = 1 then 0 else status
    | .both a b =>
      let status ← conditionStatus n a
      if status = 0 then conditionStatus n b else return status
    | .either a b =>
      let status ← conditionStatus n a
      if status = 0 then return 0 else conditionStatus n b
    | .unary operator w =>
      let t ← expandText evaluate .text w
      let s ← get
      match operator with
      | ['-', letter] => return ofBool (askUnary s.view letter t)
      | _ => return 1
    | .binary left operator right =>
      let l ← expandText evaluate .text left
      let s ← get
      let isPatternTest := operator = ['='] ∨ operator = ['=', '='] ∨ operator = ['!', '=']
      if isPatternTest then
        let m := (← wordSegments evaluate wordDepth .text right).flatMap Segment.marked
        let p := pattern (if s.hasExtra "nocasematch" then m.map fun e => (e.1.toLower, e.2) else m)
        return ofBool (isMatch p (folded s l) != (operator = ['!', '=']))
      else if operator = ['=', '~'] then
        let m := (← wordSegments evaluate wordDepth .text right).flatMap Segment.marked
        matchExpression l (expressionText m)
      else
        let r ← expandText evaluate .text right
        let isNumeric := ["-eq", "-ne", "-lt", "-le", "-gt", "-ge"].any fun (o : String) => o.toList = operator
        if isNumeric then
          let a ← calculate l
          let b ← calculate r
          match String.ofList operator with
          | "-eq" => return ofBool (a = b)
          | "-ne" => return ofBool (a ≠ b)
          | "-lt" => return ofBool (a < b)
          | "-le" => return ofBool (a ≤ b)
          | "-gt" => return ofBool (a > b)
          | _ => return ofBool (a ≥ b)
        else if operator = ['<'] then return ofBool (l.precedes r)
        else if operator = ['>'] then return ofBool (r.precedes l)
        else
          match askBinary .extended s.view l operator r with
          | .ok b => return ofBool b
          | .error m =>
            warn m
            return 2

end JavacLauncher.Shell
