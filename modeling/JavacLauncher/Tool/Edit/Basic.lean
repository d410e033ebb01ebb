import JavacLauncher.Regex.Match

/-!
# Scripts that edit lines

A script is a list of commands. Each one says for which lines it is, and what is done with the line at hand,
the space; another text, the hold, is kept from line to line. Commands in braces are skipped together, so
the script is kept as one array in which a block knows where it ends.
-/

namespace JavacLauncher.Tool.Edit

/-- A condition on a line. -/
inductive Point where
  | line (n : Nat)
  /-- The first line and every one that so many lines follow it. -/
  | every (first step : Nat)
  | last
  /-- Lines in which an expression matches; if none is given, the one that was used last. -/
  | fits (m? : Option Matcher)
  deriving Repr, Inhabited

/-- Where a range ends that has begun at a line. -/
inductive Stop where
  | line (n : Nat)
  | last
  | fits (m? : Option Matcher)
  /-- So many lines behind the first one. -/
  | after (n : Nat)
  /-- At the next line whose number is a multiple. -/
  | multiple (n : Nat)
  deriving Repr, Inhabited

/-- Which lines a command is for. -/
structure Range where
  first? : Option Point
  stop? : Option Stop
  /-- The range is open before the first line. -/
  isOpen : Bool
  isNegated : Bool
  deriving Repr, Inhabited

/-- A part of what a match is replaced with. -/
inductive Part where
  | text (t : Text)
  | group (n : Nat)
  /-- What follows is written in another case: `U`, `L`, `u`, `l`, or `E` for its own. -/
  | shift (c : Char)
  deriving DecidableEq, Repr, Inhabited

/-- A replacement of matches. -/
structure Change where
  matcher? : Option Matcher
  parts : List Part
  /-- The first match that is replaced. -/
  number : Nat
  isGlobal : Bool
  /-- How often the result is printed. -/
  prints : Bool
  /-- The result is run as a command. -/
  runs : Bool
  /-- The file to which the result is written. -/
  file? : Option Text
  deriving Repr, Inhabited

/-- What is done with a line. -/
inductive Deed where
  /-- Skips to the command of that number if the line is not meant. -/
  | block (close : Nat)
  | closeBlock
  | number
  | append (t : Text)
  | insert (t : Text)
  | change (t : Text)
  /-- Goes on at a label, or at the end of the script. -/
  | jump (label : Text)
  /-- Does so if something was replaced. -/
  | jumpIf (label : Text)
  | jumpUnless (label : Text)
  | label (name : Text)
  | delete
  | deleteFirst
  | run (command : Text)
  | fileName
  | fromHold
  | addHold
  | toHold
  | addToHold
  | exchange
  | list (width? : Option Nat)
  | next
  | addNext
  | print
  | printFirst
  | quit (status : Nat) (prints : Bool)
  | readFile (file : Text)
  | readLine (file : Text)
  | replace (c : Change)
  | write (file : Text)
  | writeFirst (file : Text)
  | convert (pairs : List (Char × Char))
  | clear
  | nothing
  deriving Repr, Inhabited

structure Command where
  range : Range
  deed : Deed
  deriving Repr, Inhabited

abbrev Script := Array Command

end JavacLauncher.Tool.Edit
