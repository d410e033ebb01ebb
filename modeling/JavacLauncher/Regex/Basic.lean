import JavacLauncher.Text.Kind

/-!
# Regular expressions

An expression matches parts of texts. It can look at what stands around a place, and groups remember what
they have matched.
-/

namespace JavacLauncher

/-- What is asked of a place between characters. -/
inductive Edge where
  | lineStart
  | lineEnd
  | textStart
  | textEnd
  | wordStart
  | wordEnd
  /-- The start or the end of a word. -/
  | wordEdge
  | noWordEdge
  /-- No character of a word stands in front of the place. -/
  | noWordBefore
  /-- No character of a word follows the place. -/
  | noWordBehind
  deriving DecidableEq, Repr, Inhabited

inductive Regex where
  /-- Matches the empty text. -/
  | empty
  | literal (c : Char)
  /-- Any one character. -/
  | any
  /-- One character among the members, or one that is none of them. -/
  | set (isNegated : Bool) (members : List SetMember)
  | edge (e : Edge)
  | sequence (a b : Regex)
  | either (a b : Regex)
  /-- So many matches one after another. -/
  | repeated (a : Regex) (least : Nat) (most? : Option Nat)
  | group (number : Nat) (a : Regex)
  /-- What a group has matched. -/
  | again (number : Nat)
  deriving DecidableEq, Repr, Inhabited

namespace Regex

/-- The characters of words. -/
def isWordChar (c : Char) : Bool := c.isAlphanum || c = '_'

def wordMembers : List SetMember := [.kind "alnum".toList, .range '_' '_']

def spaceMembers : List SetMember := [.kind "space".toList]

/-- Expressions one after another. -/
def ofList (rs : List Regex) : Regex :=
  match rs with
  | [] => .empty
  | r :: rs => rs.foldl .sequence r

/-- The text that an expression without operators is. -/
def text? : Regex → Option (List Char)
  | .empty => some []
  | .literal c => some [c]
  | .sequence a b => do return (← a.text?) ++ (← b.text?)
  | _ => none

/-- Whether what a group has matched is asked for. -/
def looksBack : Regex → Bool
  | .again _ => true
  | .sequence a b | .either a b => a.looksBack || b.looksBack
  | .repeated a _ _ | .group _ a => a.looksBack
  | _ => false

end Regex

end JavacLauncher
