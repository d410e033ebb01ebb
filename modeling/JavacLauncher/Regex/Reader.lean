import JavacLauncher.Regex.Basic

/-!
# Reading regular expressions

There are two ways to write them. In basic expressions brackets and braces are operators only behind a
backslash, and a star in front of nothing is a star; in extended expressions they are operators by
themselves. Tools differ in what they make of operators in front of nothing, so that is told by the dialect.
-/

namespace JavacLauncher

/-- What is wrong with an expression. -/
inductive RegexMistake where
  | unmatchedBracket
  | incomplete
  | unmatchedGroup
  | unmatchedGroupEnd
  | unmatchedBrace
  | badBrace
  | tooBig
  | nothingToRepeat
  | noSuchGroup
  | badRange
  | badKind
  | badCollation
  | trailingBackslash
  deriving DecidableEq, Repr, Inhabited

/-- What tools say of a mistake. -/
def RegexMistake.message : RegexMistake → Text
  | .unmatchedBracket => "Unmatched [, [^, [:, [., or [=".toList
  | .incomplete => "Invalid regular expression".toList
  | .unmatchedGroup => "Unmatched ( or \\(".toList
  | .unmatchedGroupEnd => "Unmatched ) or \\)".toList
  | .unmatchedBrace => "Unmatched \\\x7b".toList
  | .badBrace => "Invalid content of \\\x7b\\\x7d".toList
  | .tooBig => "Regular expression too big".toList
  | .nothingToRepeat => "Invalid preceding regular expression".toList
  | .noSuchGroup => "Invalid back reference".toList
  | .badRange => "Invalid range end".toList
  | .badKind => "Invalid character class name".toList
  | .badCollation => "Invalid collation character".toList
  | .trailingBackslash => "Trailing backslash".toList

/-- How expressions are written. -/
structure RegexDialect where
  isExtended : Bool
  /-- Refuses operators in front of nothing. -/
  isStrict : Bool
  /-- A closing bracket without an opening one is a character. -/
  hasLoneBrackets : Bool
  /-- Backslashes stand for characters, in sets too, and groups cannot be asked for. -/
  hasEscapes : Bool
  deriving DecidableEq, Repr, Inhabited

namespace RegexDialect

def basic : RegexDialect := ⟨false, false, false, false⟩
def extended : RegexDialect := ⟨true, false, true, false⟩
/-- Extended expressions for editing. -/
def editing : RegexDialect := ⟨true, true, false, false⟩
/-- Extended expressions in the conditions of a shell. -/
def condition : RegexDialect := ⟨true, true, true, false⟩
/-- Extended expressions in which backslashes stand for characters. -/
def escaping : RegexDialect := ⟨true, false, true, true⟩

end RegexDialect

namespace Regex

/-- How far the reading has come. -/
structure Progress where
  rest : Text
  /-- How many groups have begun, and which have ended. -/
  begun : Nat
  ended : List Nat
  /-- The operators that stand in front of nothing, the last one first. -/
  idle : List Text
  deriving Repr, Inhabited

abbrev Reading := StateT Progress (Except RegexMistake)

namespace Reading

def look : Reading Text := do return (← get).rest

def skip (n : Nat) : Reading Unit := modify fun p => { p with rest := p.rest.drop n }

end Reading

/-- The most repetitions. -/
def maxRepeats : Nat := 32767

/-- The character that a letter behind a backslash stands for, where it stands for one. -/
def escapeOf? (c : Char) : Option Char :=
  match c with
  | 'a' => some '\x07'
  | 'b' => some '\x08'
  | 'f' => some '\x0c'
  | 'n' => some '\n'
  | 'r' => some '\r'
  | 't' => some '\t'
  | 'v' => some '\x0b'
  | _ => none

/-- One end of a range, or a whole member, in a set. -/
def setPiece (d : RegexDialect) (t : Text) : Except RegexMistake (SetMember × Text) :=
  match t with
  | '[' :: ':' :: t =>
    match afterFirst? [':', ']'] t with
    | some rest =>
      let name := t.take (t.length - rest.length - 2)
      if (CharKind.ofName? name).isSome then .ok (.kind name, rest) else .error .badKind
    | none => .error .unmatchedBracket
  | '[' :: '.' :: c :: '.' :: ']' :: t => .ok (.range c c, t)
  | '[' :: '.' :: t => .error (if (afterFirst? ['.', ']'] t).isSome then .badCollation else .unmatchedBracket)
  | '[' :: '=' :: c :: '=' :: ']' :: t => .ok (.range c c, t)
  | '[' :: '=' :: t => .error (if (afterFirst? ['=', ']'] t).isSome then .badCollation else .unmatchedBracket)
  | '\\' :: c :: t =>
    if d.hasEscapes then .ok (.range ((escapeOf? c).getD c) ((escapeOf? c).getD c), t)
    else .ok (.range '\\' '\\', c :: t)
  | c :: t => .ok (.range c c, t)
  | [] => .error .unmatchedBracket

/-- The members of a set up to its closing bracket. -/
def setMembers (d : RegexDialect) : Nat → Bool → Text → Except RegexMistake (List SetMember × Text)
  | 0, _, _ => .error .unmatchedBracket
  | n + 1, isFirst, t => do
    match isFirst, t with
    | false, ']' :: t => return ([], t)
    | _, t =>
      let (m, t) ← setPiece d t
      match m, t with
      | .range a _, '-' :: c :: u =>
        if c = ']' then
          let (ms, t) ← setMembers d n false t
          return (m :: ms, t)
        else
          match ← setPiece d (c :: u) with
          | (.range b _, t) =>
            if a ≤ b then
              let (ms, t) ← setMembers d n false t
              return (.range a b :: ms, t)
            else throw .badRange
          | (.kind _, _) => throw .badRange
      | m, t =>
        let (ms, t) ← setMembers d n false t
        return (m :: ms, t)

/-- A set from behind its opening bracket. -/
def readSet (d : RegexDialect) : Reading Regex := do
  let t ← Reading.look
  let (isNegated, t) := match t with
    | '^' :: t => (true, t)
    | t => (false, t)
  if t = [] then throw .incomplete
  let (members, rest) ← setMembers d (t.length + 1) true t
  modify fun p => { p with rest := rest }
  return .set isNegated members

/-- The bounds of a repetition and what follows its closing brace; nothing if they are not in order. -/
def bounds (d : RegexDialect) (t : Text) : Except RegexMistake (Nat × Option Nat × Text) := do
  let digits (t : Text) : Text := t.takeWhile Char.isDigit
  let number (t : Text) : Nat := Nat.ofDigitChars 10 t 0
  let first := digits t
  let t := t.drop first.length
  let (most?, t, isOpen) : Option Nat × Text × Bool :=
    match t with
    | ',' :: t =>
      let second := digits t
      (if second = [] then none else some (number second), t.drop second.length, true)
    | t => (some (number first), t, false)
  let rest ←
    match d.isExtended, t with
    | true, '\x7d' :: t => pure t
    | false, '\\' :: '\x7d' :: t => pure t
    | _, [] => throw .unmatchedBrace
    | isExtended, _ => throw (if isExtended ∧ !d.isStrict then .unmatchedBrace else .badBrace)
  if first = [] ∧ !isOpen then throw .badBrace
  let least := number first
  if most?.any fun m => m < least then throw .badBrace
  if least > maxRepeats ∨ most?.any fun m => m > maxRepeats then throw .tooBig
  return (least, most?, rest)

/-- Reads operators that repeat, as many as follow. -/
def readRepeats (d : RegexDialect) : Nat → Regex → Reading Regex
  | 0, r => return r
  | n + 1, r => do
    let repeating (length least : Nat) (most? : Option Nat) : Reading Regex := do
      Reading.skip length
      readRepeats d n (.repeated r least most?)
    let braces (length : Nat) : Reading Regex := do
      match bounds d ((← Reading.look).drop length) with
      | .ok (least, most?, rest) =>
        modify fun p => { p with rest := rest }
        readRepeats d n (.repeated r least most?)
      | .error e => if d.isExtended ∧ !d.isStrict ∧ e = .unmatchedBrace then return r else throw e
    match ← Reading.look, d.isExtended with
    | '*' :: _, _ => repeating 1 0 none
    | '+' :: _, true => repeating 1 1 none
    | '?' :: _, true => repeating 1 0 (some 1)
    | '\x7b' :: c :: _, true => if d.isStrict ∨ c.isDigit ∨ c = ',' then braces 1 else return r
    | '\\' :: '+' :: _, false => repeating 2 1 none
    | '\\' :: '?' :: _, false => repeating 2 0 (some 1)
    | '\\' :: '\x7b' :: _, false => braces 2
    | _, _ => return r

/-- What a backslash and the character behind it stand for. -/
def escaped (d : RegexDialect) (ended : List Nat) (c : Char) : Except RegexMistake Regex :=
  if d.hasEscapes then .ok (.literal ((escapeOf? c).getD c))
  else
    match c with
    | 'w' => .ok (.set false wordMembers)
    | 'W' => .ok (.set true wordMembers)
    | 's' => .ok (.set false spaceMembers)
    | 'S' => .ok (.set true spaceMembers)
    | 'b' => .ok (.edge .wordEdge)
    | 'B' => .ok (.edge .noWordEdge)
    | '<' => .ok (.edge .wordStart)
    | '>' => .ok (.edge .wordEnd)
    | '\x60' => .ok (.edge .textStart)
    | '\'' => .ok (.edge .textEnd)
    | c =>
      if '1' ≤ c ∧ c ≤ '9' then
        let n := c.toNat - '0'.toNat
        if n ∈ ended then .ok (.again n) else .error .noSuchGroup
      else .ok (.literal c)

/-- Whether a dollar sign in front of a text is the end of a line. -/
def endsBranch (t : Text) : Bool :=
  match t with
  | [] => true
  | '\\' :: ')' :: _ | '\\' :: '|' :: _ => true
  | _ => false

/-- Reads the pieces of a branch; the branch ends at its alternative or at the end of its group. -/
def readBranch (d : RegexDialect) (group : Reading Regex) : Nat → Bool → List Regex → Reading Regex
  | 0, _, rs => return ofList rs.reverse
  | n + 1, isInGroup, rs => do
    let isStart := rs.all fun r => r = .edge .lineStart
    let piece (r : Regex) : Reading Regex := do
      let r ← readRepeats d n r
      readBranch d group n isInGroup (r :: rs)
    let plain (r : Regex) (length : Nat) : Reading Regex := do
      Reading.skip length
      piece r
    let idle (length : Nat) (c : Char) : Reading Regex := do
      if d.isExtended then
        if d.isStrict then throw .nothingToRepeat
        Reading.skip length
        modify fun p => { p with idle := [c] :: p.idle }
        readBranch d group n isInGroup rs
      else plain (.literal c) length
    match ← Reading.look, d.isExtended with
    | [], _ => return ofList rs.reverse
    | '|' :: _, true | '\\' :: '|' :: _, false => return ofList rs.reverse
    | '(' :: _, true =>
      Reading.skip 1
      piece (← group)
    | '\\' :: '(' :: _, false =>
      Reading.skip 2
      piece (← group)
    | ')' :: _, true =>
      if isInGroup then return ofList rs.reverse
      else if d.hasLoneBrackets then plain (.literal ')') 1
      else throw .unmatchedGroupEnd
    | '\\' :: ')' :: _, false => if isInGroup then return ofList rs.reverse else throw .unmatchedGroupEnd
    | '[' :: _, _ =>
      Reading.skip 1
      piece (← readSet d)
    | '.' :: _, _ => plain .any 1
    | '^' :: _, isExtended =>
      if isExtended ∨ rs = [] then
        Reading.skip 1
        let r := Regex.edge .lineStart
        if isExtended then readBranch d group n isInGroup (r :: rs)
        else
          -- A star behind it stands for itself, as at the start of the branch.
          readBranch d group n isInGroup (r :: rs)
      else plain (.literal '^') 1
    | '$' :: t, isExtended =>
      if isExtended ∨ endsBranch t then plain (.edge .lineEnd) 1 else plain (.literal '$') 1
    | '*' :: _, _ => if isStart then idle 1 '*' else plain (.literal '*') 1
    | '+' :: _, true => idle 1 '+'
    | '?' :: _, true => idle 1 '?'
    | '\x7b' :: t, true =>
      if d.isStrict then throw .nothingToRepeat
      else
        match bounds d t with
        | .ok (_, _, rest) =>
          if isStart then
            modify fun p => { p with rest := rest, idle := "\x7b...\x7d".toList :: p.idle }
            readBranch d group n isInGroup rs
          else plain (.literal '\x7b') 1
        | .error _ => plain (.literal '\x7b') 1
    | '\\' :: '\x7b' :: _, false => throw .nothingToRepeat
    | ['\\'], _ => throw .trailingBackslash
    | '\\' :: c :: _, _ => do
      match escaped d (← get).ended c with
      | .ok r => plain r 2
      | .error e => throw e
    | c :: _, _ => plain (.literal c) 1

/-- Reads alternatives. -/
def readAlternatives (d : RegexDialect) (group : Reading Regex) (isInGroup : Bool) : Nat → Reading Regex
  | 0 => return .empty
  | n + 1 => do
    let first ← readBranch d group ((← Reading.look).length + 1) isInGroup []
    match ← Reading.look, d.isExtended with
    | '|' :: _, true =>
      Reading.skip 1
      return .either first (← readAlternatives d group isInGroup n)
    | '\\' :: '|' :: _, false =>
      Reading.skip 2
      return .either first (← readAlternatives d group isInGroup n)
    | _, _ => return first

/-- Reads a group from behind its opening bracket, as deep as the bound allows. -/
def readGroup (d : RegexDialect) : Nat → Reading Regex
  | 0 => throw .tooBig
  | n + 1 => do
    let p ← get
    let number := p.begun + 1
    modify fun p => { p with begun := number }
    let r ← readAlternatives d (readGroup d n) true (p.rest.length + 1)
    match ← Reading.look, d.isExtended with
    | ')' :: _, true => Reading.skip 1
    | '\\' :: ')' :: _, false => Reading.skip 2
    | _, _ => throw .unmatchedGroup
    modify fun p => { p with ended := number :: p.ended }
    return .group number r

/-- How deep groups may stand in groups. -/
def maxDepth : Nat := 250

/-- The expression that a text writes, and how many groups it has. -/
def read (d : RegexDialect) (t : Text) : Except RegexMistake (Regex × Nat) := do
  let (r, p) ← (readAlternatives d (readGroup d maxDepth) false (t.length + 1)).run ⟨t, 0, [], []⟩
  return (r, p.begun)

/-- The operators that stand in front of nothing in an expression. -/
def idleOperators (d : RegexDialect) (t : Text) : List Text :=
  match (readAlternatives d (readGroup d maxDepth) false (t.length + 1)).run ⟨t, 0, [], []⟩ with
  | .ok (_, p) => p.idle.reverse
  | .error _ => []

/-- Whether a set is written that looks like the name of a kind without the brackets of a set. -/
def hasBareKind : Nat → Text → Bool
  | n + 1, '\\' :: _ :: t => hasBareKind n t
  | n + 1, '[' :: t =>
    let t := match t with
      | '^' :: t => t
      | t => t
    let isBare := match t with
      | ':' :: t =>
        let name := t.takeWhile (· ≠ ']')
        name.length > 1 && name.getLast? = some ':' && !name.contains '['
      | _ => false
    match setMembers .basic (t.length + 1) true t with
    | .ok (_, rest) => isBare || hasBareKind n rest
    | .error _ => isBare
  | n + 1, _ :: t => hasBareKind n t
  | _, _ => false

end Regex

end JavacLauncher
