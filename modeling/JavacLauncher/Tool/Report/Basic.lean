import JavacLauncher.Regex.Match

/-!
# Report scripts

A report script says what is done with records: an action is done with each record that fits its pattern.
Texts that look like numbers are numbers when they are compared, and variables hold what the last assignment
put there, a number, a text, or many values by name.
-/

namespace JavacLauncher.Tool.Report

inductive Comparison where
  | less
  | lessEqual
  | equal
  | notEqual
  | greater
  | greaterEqual
  deriving DecidableEq, Repr, Inhabited

inductive Arithmetic where
  | plus
  | minus
  | times
  | over
  | modulo
  | power
  deriving DecidableEq, Repr, Inhabited

/-- What has a value. -/
inductive Term where
  | number (x : Float)
  | text (t : Text)
  /-- An expression, which is matched against the record unless it is asked for as an expression. -/
  | regex (t : Text)
  | variable_ (name : Text)
  | field (index : Term)
  | element (array : Text) (index : List Term)
  | negative (a : Term)
  | positive (a : Term)
  | not (a : Term)
  | arithmetic (op : Arithmetic) (a b : Term)
  | concatenation (a b : Term)
  | comparison (op : Comparison) (a b : Term)
  | fits (isNegated : Bool) (a pattern : Term)
  | isIn (index : List Term) (array : Text)
  | and (a b : Term)
  | or (a b : Term)
  | choice (condition yes no : Term)
  | assign (place value : Term)
  | update (op : Arithmetic) (place value : Term)
  /-- Adds to a place; what it held before, or holds then, is the value. -/
  | step (isBefore : Bool) (amount : Int) (place : Term)
  /-- A function of the script. -/
  | call (name : Text) (args : List Term)
  /-- A function that every script has. -/
  | known (name : Text) (args : List Term)
  /-- Reads a record from the input, from a file or from what a command writes. -/
  | record (place? : Option Term)
  | recordOf (file : Term) (place? : Option Term)
  | recordFrom (command : Term) (place? : Option Term)
  /-- Several values for a list of texts to be written. -/
  | group (terms : List Term)
  deriving Repr, Inhabited

/-- Where something is written. -/
inductive Sink where
  | file (isAppended : Bool) (name : Term)
  | command (t : Term)
  deriving Repr, Inhabited

inductive Statement where
  | nothing
  | term (t : Term)
  | print (terms : List Term) (sink? : Option Sink)
  | printf (terms : List Term) (sink? : Option Sink)
  | block (body : List Statement)
  | when_ (condition : Term) (yes no : Statement)
  | while_ (condition : Term) (body : Statement)
  | doWhile (body : Statement) (condition : Term)
  | for_ (first : Statement) (condition? : Option Term) (next body : Statement)
  | forIn_ (name array : Text) (body : Statement)
  | break_
  | continue_
  | next
  | nextFile
  | exit_ (status? : Option Term)
  | return_ (value? : Option Term)
  /-- Removes an element, or all of them. -/
  | delete (array : Text) (index? : Option (List Term))
  deriving Repr, Inhabited

/-- Which records an action is for. -/
inductive Pattern where
  | first
  | last
  | always
  | term (t : Term)
  | range (first last : Term)
  deriving Repr, Inhabited

structure Rule where
  pattern : Pattern
  /-- Without an action the record is written. -/
  action? : Option Statement
  deriving Repr, Inhabited

structure Function where
  name : Text
  parameters : List Text
  body : Statement
  deriving Repr, Inhabited

structure Script where
  rules : List Rule
  functions : List Function
  deriving Repr, Inhabited

end JavacLauncher.Tool.Report
