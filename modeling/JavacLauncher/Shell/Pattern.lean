import JavacLauncher.Shell.Syntax
import JavacLauncher.Text.Kind

/-!
# Patterns

A pattern matches whole texts: `*` any text, `?` any character, a set in brackets one character of the
set. Characters that come from quotes match themselves only.

A text is matched in one pass. What is kept at each character is the set of those ends of the pattern that
may still have to match the rest; if the empty end is among them, the text read so far is matched. So one
pass tells of every front of a text whether it matches, and, as patterns can be reversed, of every end.
-/

namespace JavacLauncher.Shell

/-- Text in which it is known of each character whether it was quoted. -/
abbrev Marked := List (Char × Bool)

/-- A text whose characters are all marked alike. -/
def mark (isQuoted : Bool) (t : Text) : Marked := t.map fun c => (c, isQuoted)

/-- The characters of a marked text. -/
def unmark (m : Marked) : Text := m.map (·.1)

inductive PatternItem where
  | literal (c : Char)
  | anyText
  | anyChar
  /-- One character among the members, or one that is none of them. -/
  | set (isNegated : Bool) (members : List SetMember)
  deriving DecidableEq, Repr, Inhabited

/-- The name of a kind, `:alpha:` and the like, in front of its bracket. -/
def kindName? (m : Marked) : Option (Text × Marked) :=
  match m with
  | (':', false) :: m =>
    let name := m.takeWhile fun p => p.1.isAlpha
    match m.drop name.length with
    | (':', false) :: (']', false) :: rest =>
      if (CharKind.ofName? (unmark name)).isSome then some (unmark name, rest) else none
    | _ => none
  | _ => none

/-- The members of a set up to its bracket, and the rest. A bracket that stands first is a member. -/
def setMembers : Nat → Bool → Marked → Option (List SetMember × Marked)
  | 0, _, _ => none
  | _ + 1, _, [] => none
  | n + 1, isFirst, (c, isQuoted) :: m =>
    let put (s : SetMember) (r : Option (List SetMember × Marked)) := r.map fun p => (s :: p.1, p.2)
    if c = ']' ∧ !isQuoted ∧ !isFirst then some ([], m)
    else
      match if c = '[' ∧ !isQuoted then kindName? m else none with
      | some (name, rest) => put (.kind name) (setMembers n false rest)
      | none =>
        match m with
        | ('-', false) :: (d, q) :: m' =>
          if d = ']' ∧ !q then put (.range c c) (setMembers n false m)
          else put (.range c d) (setMembers n false m')
        | _ => put (.range c c) (setMembers n false m)

/-- A set from behind its opening bracket. -/
def set? (m : Marked) : Option (PatternItem × Marked) :=
  let (isNegated, m) :=
    match m with
    | ('!', false) :: m => (true, m)
    | ('^', false) :: m => (true, m)
    | _ => (false, m)
  (setMembers (m.length + 1) true m).map fun p => (.set isNegated p.1, p.2)

/-- The items of a pattern. -/
def patternItems : Nat → Marked → List PatternItem
  | 0, _ => []
  | _ + 1, [] => []
  | n + 1, (c, isQuoted) :: m =>
    if isQuoted then .literal c :: patternItems n m
    else if c = '*' then .anyText :: patternItems n m
    else if c = '?' then .anyChar :: patternItems n m
    else if c = '[' then
      match set? m with
      | some (item, rest) => item :: patternItems n rest
      | none => .literal c :: patternItems n m
    else if c = '\\' then
      match m with
      | (d, _) :: rest => .literal d :: patternItems n rest
      | [] => [.literal c]
    else .literal c :: patternItems n m

/-- The pattern that a marked text writes. -/
def pattern (m : Marked) : List PatternItem := patternItems (m.length + 1) m

/-- Whether a character fits an item that takes one character. -/
def PatternItem.fits (c : Char) : PatternItem → Bool
  | .literal d => c = d
  | .anyText => false
  | .anyChar => true
  | .set isNegated members => members.any (·.contains c) != isNegated

/-- The ends of a pattern from which matching may go on without a character. -/
def idleEnds : List PatternItem → List (List PatternItem)
  | .anyText :: is => (.anyText :: is) :: idleEnds is
  | is => [is]

/-- The ends of a pattern from which matching may go on after a character. -/
def nextEnds (c : Char) (ends : List (List PatternItem)) : List (List PatternItem) :=
  let found := ends.flatMap fun
    | .anyText :: is => idleEnds (.anyText :: is)
    | i :: is => if i.fits c then idleEnds is else []
    | [] => []
  found.foldr (fun e es => if es.any fun e' => e'.length = e.length then es else e :: es) []

/-- For each front of a text, the empty one first, whether it is matched. -/
def matchedFronts (ends : List (List PatternItem)) : Text → List Bool
  | [] => [ends.any List.isEmpty]
  | c :: t =>
    if ends = [] then [false]
    else ends.any List.isEmpty :: matchedFronts (nextEnds c ends) t

/-- Whether a pattern matches a whole text. -/
def isMatch (p : List PatternItem) (t : Text) : Bool :=
  (t.foldl (fun ends c => if ends.isEmpty then ends else nextEnds c ends) (idleEnds p)).any List.isEmpty

/-- How much of a text a pattern matches at its front: the shortest such front, or the longest one. -/
def matchedLength? (isLongest : Bool) (p : List PatternItem) (t : Text) : Option Nat :=
  let fronts := (matchedFronts (idleEnds p) t).zipIdx
  if isLongest then
    fronts.foldl (fun found? (isMatched, n) => if isMatched then some n else found?) none
  else (fronts.find? (·.1)).map (·.2)

/-- Whether a text holds a character that makes it a pattern. -/
def isPattern (m : Marked) : Bool := m.any fun p => !p.2 && (p.1 = '*' || p.1 = '?' || p.1 = '[')

/-- The text without the shortest, or the longest, front that matches. -/
def dropFront (isLongest : Bool) (p : List PatternItem) (t : Text) : Text :=
  match matchedLength? isLongest p t with
  | some n => t.drop n
  | none => t

/-- The text without the shortest, or the longest, end that matches. -/
def dropBack (isLongest : Bool) (p : List PatternItem) (t : Text) : Text :=
  (dropFront isLongest p.reverse t.reverse).reverse

/-- The text with matches of a pattern replaced: the first one, or all of them. The longest match counts. -/
def replaceMatches (isAll : Bool) (p : List PatternItem) (replacement : Text) : Nat → Text → Text
  | 0, t => t
  | _ + 1, [] => []
  | n + 1, c :: t =>
    match (matchedLength? true p (c :: t)).filter (· > 0) with
    | some k =>
      let rest := (c :: t).drop k
      replacement ++ (if isAll then replaceMatches isAll p replacement n rest else rest)
    | none => c :: replaceMatches isAll p replacement n t

end JavacLauncher.Shell
