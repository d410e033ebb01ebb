import JavacLauncher.Regex.Reader

/-!
# Matching regular expressions

An expression becomes a list of steps, and a text is matched by following all paths through the steps at
once, character by character. Of the matches that begin first the longest one counts; of several ways to
it, the one that takes the first alternative and the most repetitions. Each step is followed once at a
place, so the time is bounded by the length of the text and the number of steps.

Only an expression that asks for what a group has matched is followed path by path.
-/

namespace JavacLauncher

/-- One step on the way to a match. The next one follows unless something else is said. -/
inductive MatchStep where
  | literal (c : Char)
  | any
  | oneOf (isNegated : Bool) (members : List SetMember)
  | edge (e : Edge)
  | jump (target : Nat)
  /-- Both ways; the first one is better. -/
  | fork (first second : Nat)
  /-- Remembers the place. -/
  | note (slot : Nat)
  /-- What a group has matched. -/
  | again (group : Nat)
  | accept
  deriving DecidableEq, Repr, Inhabited

/-- An expression ready to be matched. -/
structure Matcher where
  steps : Array MatchStep
  groups : Nat
  ignoresCase : Bool
  /-- Lines begin behind, and end before, each line break in the text. -/
  hasLines : Bool
  looksBack : Bool
  deriving Repr, Inhabited

/-- Where a match begins and ends, and then where each group does. -/
abbrev Marks := Array (Option Nat)

namespace Regex

/-- The most steps an expression may have. -/
def maxSteps : Nat := 60000

/-- How many steps an expression takes. -/
def stepCount : Regex → Nat
  | .empty => 0
  | .literal _ | .any | .set _ _ | .edge _ | .again _ => 1
  | .sequence a b => a.stepCount + b.stepCount
  | .either a b => a.stepCount + b.stepCount + 2
  | .repeated a least none => least * a.stepCount + (a.stepCount + 2)
  | .repeated a least (some most) => least * a.stepCount + (most - least) * (a.stepCount + 1)
  | .group _ a => a.stepCount + 2

/-- The steps of an expression, the first of which stands at a place. -/
def stepsFrom (at_ : Nat) : Regex → List MatchStep
  | .empty => []
  | .literal c => [.literal c]
  | .any => [.any]
  | .set isNegated members => [.oneOf isNegated members]
  | .edge e => [.edge e]
  | .sequence a b => a.stepsFrom at_ ++ b.stepsFrom (at_ + a.stepCount)
  | .either a b =>
    let second := at_ + a.stepCount + 2
    .fork (at_ + 1) second :: a.stepsFrom (at_ + 1) ++ .jump (second + b.stepCount) :: b.stepsFrom second
  | .repeated a least most? =>
    let start := at_ + least * a.stepCount
    (List.range least).flatMap (fun n => a.stepsFrom (at_ + n * a.stepCount)) ++
      match most? with
      | none => .fork (start + 1) (start + a.stepCount + 2) :: a.stepsFrom (start + 1) ++ [.jump start]
      | some most =>
        (List.range (most - least)).flatMap fun n =>
          let next := start + n * (a.stepCount + 1)
          .fork (next + 1) (start + (most - least) * (a.stepCount + 1)) :: a.stepsFrom (next + 1)
  | .group n a => .note (2 * n) :: a.stepsFrom (at_ + 1) ++ [.note (2 * n + 1)]
  | .again n => [.again n]

/-- The expression ready to be matched. -/
def matcher (r : Regex) (groups : Nat) (ignoresCase : Bool) : Matcher :=
  ⟨(r.stepsFrom 0 ++ [MatchStep.accept]).toArray, groups, ignoresCase, false, r.looksBack⟩

/-- The matcher of an expression that does not take too many steps. -/
def boundedMatcher (r : Regex) (groups : Nat) (ignoresCase : Bool) : Except RegexMistake Matcher :=
  if r.stepCount + 1 > maxSteps then .error .tooBig else .ok (r.matcher groups ignoresCase)

end Regex

namespace Matcher

/-- The matcher of a text that writes an expression. -/
def ofText (d : RegexDialect) (ignoresCase : Bool) (t : Text) : Except RegexMistake Matcher := do
  let (r, groups) ← Regex.read d t
  r.boundedMatcher groups ignoresCase

/-- Whether a character is in a word, at a place that may be outside the text. -/
def isWordAt (t : Array Char) (i : Nat) : Bool := (t[i]?).any Regex.isWordChar

/-- Whether there is an edge at a place. -/
def isEdge (m : Matcher) (t : Array Char) (i : Nat) (e : Edge) : Bool :=
  let before := i > 0 && isWordAt t (i - 1)
  let behind := isWordAt t i
  match e with
  | .lineStart => i = 0 || (m.hasLines && t[i - 1]? = some '\n')
  | .lineEnd => i = t.size || (m.hasLines && t[i]? = some '\n')
  | .textStart => i = 0
  | .textEnd => i = t.size
  | .wordStart => !before && behind
  | .wordEnd => before && !behind
  | .wordEdge => before != behind
  | .noWordEdge => before == behind
  | .noWordBefore => !before
  | .noWordBehind => !behind

/-- A letter in the other case. -/
def otherCase (c : Char) : Char := if c.isLower then c.toUpper else c.toLower

/-- Whether a character is what a step takes. -/
def takes (m : Matcher) (s : MatchStep) (c : Char) : Bool :=
  match s with
  | .literal d => c = d || (m.ignoresCase && otherCase c = d)
  | .any => true
  | .oneOf isNegated members =>
    (members.any (·.contains c) || (m.ignoresCase && members.any (·.contains (otherCase c)))) != isNegated
  | _ => false

/-- A way on: the step to take next, and the places noted so far. -/
abbrev Way := Nat × Marks

/-- Follows ways to the steps that take a character or accept, each step once. -/
def follow (m : Matcher) (t : Array Char) (i : Nat) : Nat → List Way → Array Bool → List Way → List Way
  | 0, _, _, found => found.reverse
  | _ + 1, [], _, found => found.reverse
  | n + 1, (at_, marks) :: ways, seen, found =>
    if (seen[at_]?).getD true then follow m t i n ways seen found
    else
      let seen := seen.set! at_ true
      match m.steps[at_]? with
      | some (.jump target) => follow m t i n ((target, marks) :: ways) seen found
      | some (.fork a b) => follow m t i n ((a, marks) :: (b, marks) :: ways) seen found
      | some (.note slot) => follow m t i n ((at_ + 1, marks.set! slot (some i)) :: ways) seen found
      | some (.edge e) =>
        if isEdge m t i e then follow m t i n ((at_ + 1, marks) :: ways) seen found
        else follow m t i n ways seen found
      | some _ => follow m t i n ways seen ((at_, marks) :: found)
      | none => follow m t i n ways seen found

/-- Goes on from ways, character by character, and keeps the longest match. -/
def advance (m : Matcher) (t : Array Char) : Nat → Nat → List Way → Option Marks → Option Marks
  | 0, _, _, best? => best?
  | n + 1, i, ways, best? =>
    let ways := follow m t i (2 * m.steps.size + ways.length + 2) ways (Array.replicate m.steps.size false) []
    let accepted? := ways.find? fun w => m.steps[w.1]? = some .accept
    let best? := match accepted? with
      | some w => some (w.2.set! 1 (some i))
      | none => best?
    match t[i]? with
    | none => best?
    | some c =>
      let next := ways.filterMap fun w =>
        if m.takes ((m.steps[w.1]?).getD .accept) c then some (w.1 + 1, w.2) else none
      if next.isEmpty then best? else advance m t n (i + 1) next best?

/-- Whether the same characters stand at two places. -/
def sameAt (m : Matcher) (t : Array Char) (i j : Nat) : Nat → Bool
  | 0 => true
  | n + 1 =>
    match t[i]?, t[j]? with
    | some c, some d => (c = d || (m.ignoresCase && otherCase c = d)) && sameAt m t (i + 1) (j + 1) n
    | _, _ => false

/-- Follows one way after another, and keeps the longest match. -/
def explore (m : Matcher) (t : Array Char) : Nat → List (Nat × Nat × Marks) → Option Marks → Option Marks
  | 0, _, best? => best?
  | _ + 1, [], best? => best?
  | n + 1, (at_, i, marks) :: ways, best? =>
    let goOn (more : List (Nat × Nat × Marks)) : Option Marks := explore m t n (more ++ ways) best?
    match m.steps[at_]? with
    | none => goOn []
    | some .accept =>
      let isBetter : Bool :=
        match best? with
        | some b => decide ((b[1]?).join.getD 0 < i)
        | none => true
      explore m t n ways (if isBetter then some (marks.set! 1 (some i)) else best?)
    | some (.jump target) => goOn [(target, i, marks)]
    | some (.fork a b) => goOn [(a, i, marks), (b, i, marks)]
    | some (.note slot) => goOn [(at_ + 1, i, marks.set! slot (some i))]
    | some (.edge e) => goOn (if isEdge m t i e then [(at_ + 1, i, marks)] else [])
    | some (.again g) =>
      match (marks[2 * g]?).join, (marks[2 * g + 1]?).join with
      | some first, some last =>
        goOn (if sameAt m t first i (last - first) then [(at_ + 1, i + (last - first), marks)] else [])
      | _, _ => goOn []
    | some step =>
      match t[i]? with
      | some c => goOn (if m.takes step c then [(at_ + 1, i + 1, marks)] else [])
      | none => goOn []

/-- How many steps are taken to find what a group has matched once more. -/
def exploration : Nat := 100000

/-- The match that begins at a place. -/
def matchAt? (m : Matcher) (t : Array Char) (i : Nat) : Option Marks :=
  let marks : Marks := (Array.replicate (2 * m.groups + 2) none).set! 0 (some i)
  if m.looksBack then explore m t exploration [(0, i, marks)] none
  else advance m t (t.size + 1) i [(0, marks)] none

/-- Whether the first step lets a match begin at a place. -/
def canBegin (m : Matcher) (t : Array Char) (i : Nat) : Bool :=
  match m.steps[0]? with
  | some (MatchStep.literal c) => (t[i]?).any fun d => m.takes (.literal c) d
  | some (MatchStep.edge e) => m.isEdge t i e
  | _ => true

/-- Whether the first step lets a match begin behind the start of the text. -/
def canBeginLater (m : Matcher) : Bool :=
  match m.steps[0]? with
  | some (MatchStep.edge .textStart) => false
  | some (MatchStep.edge .lineStart) => m.hasLines
  | _ => true

/-- The first match that begins at a place or behind it. -/
def find? (m : Matcher) (t : Array Char) (i : Nat) : Option Marks :=
  go (t.size + 1 - i) i
where
  go : Nat → Nat → Option Marks
    | 0, _ => none
    | n + 1, i =>
      match if m.canBegin t i then m.matchAt? t i else none with
      | some marks => some marks
      | none => if m.canBeginLater then go n (i + 1) else none

/-- Whether a text holds a match. -/
def fits (m : Matcher) (t : Text) : Bool := (m.find? t.toArray 0).isSome

end Matcher

namespace Marks

/-- Where a match or one of its groups begins and ends. -/
def span? (marks : Marks) (group : Nat) : Option (Nat × Nat) :=
  match (marks[2 * group]?).join, (marks[2 * group + 1]?).join with
  | some a, some b => if a ≤ b then some (a, b) else none
  | _, _ => none

/-- What a match or one of its groups has matched. -/
def text (marks : Marks) (t : Array Char) (group : Nat) : Text :=
  match marks.span? group with
  | some (a, b) => (t.extract a b).toList
  | none => []

end Marks

end JavacLauncher
