import JavacLauncher.Regex.Match
import JavacLauncher.Shell.Pattern
import JavacLauncher.Tool.Lines
import JavacLauncher.Machine.Change

/-!
# Searching files

The lines of files in which expressions match are shown, counted or named. Of several expressions one that
matches is enough, and the match that begins first, or else is longest, is the one that is shown.
-/

namespace JavacLauncher.Tool

/-- How the expressions are written. -/
inductive SearchKind where
  | basic
  | extended
  /-- As mere texts. -/
  | fixed
  deriving DecidableEq, Repr, Inhabited

/-- What is shown of a file. -/
inductive SearchView where
  | lines
  | matches_
  | count
  /-- The name, if a line was chosen. -/
  | name
  /-- The name, if no line was chosen. -/
  | nameOfOthers
  | nothing
  deriving DecidableEq, Repr, Inhabited

/-- How lines are chosen and shown. -/
structure Search where
  matchers : List Matcher
  isNegated : Bool
  ending : Char
  view : SearchView
  most? : Option Nat
  /-- How many lines are shown around a line, and what stands between lines that are not neighbours. -/
  before : Nat
  after : Nat
  separator? : Option Text
  showsNames : Bool
  numbersLines : Bool
  showsOffsets : Bool
  /-- What stands behind the name of a file. -/
  nameEnding? : Option Char
  /-- Files with NULs are texts too. -/
  takesAll : Bool
  /-- Files with NULs have no matching lines. -/
  skipsBinary : Bool
  showsNoTrouble : Bool
  followsLinks : Bool
  isRecursive : Bool
  skipsDirectories : Bool
  /-- Patterns for the names of files to be searched, and to be left out. -/
  included : List Text
  excluded : List Text
  excludedDirectories : List Text
  /-- The name under which standard input is shown. -/
  standardName : Text
  /-- The current directory is not shown in front of names. -/
  hidesHere : Bool
  /-- The tool ends with the first line that is chosen. -/
  endsAtOnce : Bool
  deriving Inhabited

namespace Search

/-- The first match behind a place, the longest of those that begin there. -/
def find? (ms : List Matcher) (t : Array Char) (i : Nat) : Option (Nat × Nat) :=
  ms.foldl (fun best? m =>
    match (m.find? t i).bind (Marks.span? · 0), best? with
    | none, best? => best?
    | some found, none => some found
    | some (a, b), some (a', b') => if a < a' ∨ (a = a' ∧ b > b') then some (a, b) else some (a', b')) none

/-- The matches in a line that are not empty, with their places. -/
def findAll (ms : List Matcher) (t : Array Char) : Nat → Nat → List (Nat × Nat)
  | 0, _ => []
  | n + 1, i =>
    if i > t.size then []
    else
      match find? ms t i with
      | none => []
      | some (a, b) => if a < b then (a, b) :: findAll ms t n b else findAll ms t n (a + 1)

/-- Whether a line is chosen. -/
def chooses (s : Search) (t : Text) : Bool := (s.matchers.any fun m => m.fits t) != s.isNegated

/-- What stands in front of a line. -/
def front (s : Search) (name : Text) (number offset : Nat) (mark : Char) : Text :=
  (if s.showsNames then name ++ [s.nameEnding?.getD mark] else []) ++
    (if s.numbersLines then Text.ofNat number ++ [mark] else []) ++
    (if s.showsOffsets then Text.ofNat offset ++ [mark] else [])

/-- A line in a file, with its number and where it begins. -/
structure Line where
  text : Text
  number : Nat
  offset : Nat
  deriving Inhabited

/-- The lines of a text. -/
def numbered (ending : Char) (t : Text) : List Line :=
  ((linesOf ending t).foldl (fun (ls, number, offset) l =>
    (⟨l, number, offset⟩ :: ls, number + 1, offset + l.length + 1)) (([], 1, 0) : List Line × Nat × Nat)).1.reverse

/-- How far the search of a file has come. -/
structure Progress where
  /-- How many lines have been chosen. -/
  count : Nat
  /-- The number of the last line that was shown. -/
  shown? : Option Nat
  /-- How many more lines are shown behind the last chosen one. -/
  pending : Nat
  /-- The last lines that were not shown, the last one first. -/
  behind : List Line
  /-- Whether anything has been shown. -/
  hasShown : Bool
  isOver : Bool
  /-- How much has been used of the file when the last line was chosen. -/
  used : Nat
  deriving Inhabited

/-- What is written for a line, and how the search goes on. -/
def step (s : Search) (name : Text) (isBinary : Bool) (p : Progress) (l : Line) : List Text × Progress :=
  let show_ (mark : Char) (l : Line) : Text := s.front name l.number l.offset mark ++ l.text ++ [s.ending]
  let isFull := s.most?.any fun n => p.count ≥ n
  if p.isOver then ([], p)
  else if !isFull && s.chooses l.text then
    let p := { p with count := p.count + 1, used := l.offset + l.text.length + 1 }
    match s.view with
    | .lines | .matches_ =>
      if isBinary then ([], { p with isOver := true })
      else
        let earlier := if s.view = .matches_ then [] else (p.behind.take s.before).reverse
        let first := (earlier.head?.map Line.number).getD l.number
        let hasContext := s.before > 0 ∨ s.after > 0
        let gap := match s.separator? with
          | some t => if hasContext ∧ p.hasShown ∧ p.shown?.all (· + 1 ≠ first) then [t ++ ['\n']] else []
          | none => []
        let body :=
          if s.view = .matches_ then
            if s.isNegated then []
            else
              let t := l.text.toArray
              (findAll s.matchers t (t.size + 1) 0).map fun (a, b) =>
                s.front name l.number (l.offset + a) ':' ++ (t.extract a b).toList ++ [s.ending]
          else earlier.map (show_ '-') ++ [show_ ':' l]
        (gap ++ body, { p with shown? := some l.number, pending := s.after, behind := [], hasShown := true })
    | .count => ([], p)
    | _ => ([], { p with isOver := true })
  else if p.pending > 0 then
    (if s.view = .lines then [show_ '-' l] else [], { p with shown? := some l.number, pending := p.pending - 1 })
  else if isFull then ([], { p with isOver := true })
  else ([], { p with behind := (l :: p.behind).take s.before })

/-- What is written for lines. -/
def run (s : Search) (name : Text) (isBinary : Bool) : List Line → Progress → List Text → List Text × Progress
  | [], p, out => (out.reverse, p)
  | l :: ls, p, out =>
    let (ts, p) := s.step name isBinary p l
    if p.isOver then ((ts.reverse ++ out).reverse, p) else s.run name isBinary ls p (ts.reverse ++ out)

/-- What has come of a search. -/
structure Tally where
  hasFound : Bool
  hasTrouble : Bool
  hasShown : Bool
  deriving Inhabited

/-- Searches a text. -/
def searchText (s : Search) (name : Text) (t : Text) (tally : Tally) : Work Tally := do
  let isBinary := !s.takesAll && s.ending ≠ '\x00' && t.contains '\x00'
  if isBinary && s.skipsBinary then return tally
  let start : Progress := ⟨0, none, 0, [], tally.hasShown, false, 0⟩
  let (out, p) := if s.most? = some 0 then ([], start) else s.run name isBinary (numbered s.ending t) start []
  for l in out do
    say l
  let isChosen := p.count > 0
  let nameLine := name ++ [s.nameEnding?.getD '\n']
  match s.view with
  | .lines | .matches_ =>
    if isBinary && p.isOver && isChosen then
      flush
      complain (name ++ ": binary file matches".toList)
  | .count =>
    say ((if s.showsNames then name ++ [s.nameEnding?.getD ':'] else []) ++ Text.ofNat p.count ++ ['\n'])
  | .name => if isChosen then say nameLine
  | .nameOfOthers => if !isChosen then say nameLine
  | .nothing => if isChosen ∧ s.endsAtOnce then stop 0
  return { tally with hasFound := tally.hasFound || isChosen, hasShown := p.hasShown }

/-- Whether a name fits one of several patterns. -/
def fitsAny (patterns : List Text) (name : Text) : Bool :=
  patterns.any fun p => Shell.isMatch (Shell.pattern (Shell.mark false p)) name

/-- The last name of a path. -/
def lastOf (path : Text) : Text := (path.reverse.takeWhile (· ≠ '/')).reverse

/-- Whether a file is left out for its name. -/
def leavesOut (s : Search) (path : Text) : Bool :=
  fitsAny s.excluded (lastOf path) || (s.included ≠ [] && !fitsAny s.included (lastOf path))

/-- Complains of a file, unless nothing is to be said. -/
def trouble (s : Search) (path : Text) (e : SystemError) (tally : Tally) : Work Tally := do
  if !s.showsNoTrouble then complain (path ++ ": ".toList ++ describe e)
  return { tally with hasTrouble := true }

/-- Searches what a file holds. -/
def readAndSearch (s : Search) (path : Text) (tally : Tally) : Work Tally := do
  let used (t : Text) : Nat :=
    if s.most?.isSome then
      let (_, p) := s.run path false (numbered s.ending t) ⟨0, none, 0, [], false, false, 0⟩ []
      if s.most?.any fun n => p.count ≥ n then p.used else t.length
    else t.length
  match ← contentUsed path used with
  | .error e => s.trouble path e tally
  | .ok t =>
    let name := if path = ['-'] then s.standardName else if s.hidesHere then path.drop 2 else path
    s.searchText name t tally

/-- Searches a file or, if that is asked for, the files in a directory, as deep as the bound allows. -/
def searchPath (s : Search) : Nat → Bool → Text → Tally → Work Tally
  | 0, _, path, tally => s.trouble path .tooManyLinks tally
  | n + 1, isNamed, path, tally => do
    if path = ['-'] then return ← s.readAndSearch path tally
    let self ← process
    let found ← act (if isNamed ∨ s.followsLinks then self.look path else self.lookAtLink path)
    match found with
    | .error e => s.trouble path e tally
    | .ok node =>
      match node.kind with
      | .directory =>
        if s.isRecursive then
          if !isNamed && fitsAny s.excludedDirectories (lastOf path) then return tally
          match ← act (self.names path) with
          | .error e => s.trouble path e tally
          | .ok names =>
            let mut tally := tally
            for name in names do
              let inner := if path.getLast? = some '/' then path ++ name else path ++ '/' :: name
              tally ← s.searchPath n false inner tally
            return tally
        else if s.skipsDirectories then return tally
        else s.trouble path .isDirectory tally
      | .link _ => return tally
      | .device _ | .pipe => if isNamed then s.readAndSearch path tally else return tally
      | _ => if s.leavesOut path then return tally else s.readAndSearch path tally

/-- The matcher of an expression, or what is wrong with it. -/
def matcher (kind : SearchKind) (ignoresCase isWord isLine : Bool) (t : Text) : Except Text Matcher := do
  let d : RegexDialect := if kind = .extended then .extended else .basic
  let (r, groups) ←
    if kind = .fixed then pure (Regex.ofList (t.map .literal), 0)
    else if Regex.hasBareKind t.length t then throw "character class syntax is [[:space:]], not [:space:]".toList
    else
      match Regex.read d t with
      | .ok found => pure found
      | .error e => throw e.message
  let r := if isLine then Regex.ofList [.edge .lineStart, r, .edge .lineEnd]
    else if isWord then Regex.ofList [.edge .noWordBefore, r, .edge .noWordBehind]
    else r
  if kind = .fixed then return r.matcher groups ignoresCase
  (r.boundedMatcher groups ignoresCase).mapError RegexMistake.message

end Search

/-- How deep directories are searched. -/
def maxSearchDepth : Nat := 200

/-- What is said to whoever calls the tool for searching wrongly. -/
def searchAdvice : Text :=
  "Usage: grep [OPTION]... PATTERNS [FILE]...\nTry 'grep --help' for more information.".toList

def grep : Body := fun args => do
  let long (name letter : String) (taking : Taking) : String × String × Taking := (name, letter, taking)
  let p ← advising searchAdvice (parse ⟨"EFGPXe:f:iywxzsvm:bnHhoqaId:D:rRLlcTZA:B:C:U0123456789uV",
    [long "basic-regexp" "G" .nothing, long "extended-regexp" "E" .nothing, long "fixed-strings" "F" .nothing,
      long "perl-regexp" "P" .nothing, long "after-context" "A" .value, long "before-context" "B" .value,
      long "binary-files" "binary" .value, long "binary" "U" .nothing, long "byte-offset" "b" .nothing,
      long "context" "C" .value, long "color" "color" .maybe, long "colour" "color" .maybe,
      long "count" "c" .nothing, long "devices" "D" .value, long "directories" "d" .value,
      long "exclude" "exclude" .value, long "exclude-from" "excludeFrom" .value,
      long "exclude-dir" "excludeDir" .value, long "file" "f" .value, long "files-with-matches" "l" .nothing,
      long "files-without-match" "L" .nothing, long "group-separator" "sep" .value, long "include" "include" .value,
      long "ignore-case" "i" .nothing, long "no-ignore-case" "I-" .nothing, long "initial-tab" "T" .nothing,
      long "label" "label" .value, long "line-buffered" "lb" .nothing, long "line-number" "n" .nothing,
      long "line-regexp" "x" .nothing, long "max-count" "m" .value, long "no-filename" "h" .nothing,
      long "no-group-separator" "nosep" .nothing, long "no-messages" "s" .nothing, long "null" "Z" .nothing,
      long "null-data" "z" .nothing, long "only-matching" "o" .nothing, long "quiet" "q" .nothing,
      long "recursive" "r" .nothing, long "dereference-recursive" "R" .nothing, long "regexp" "e" .value,
      long "invert-match" "v" .nothing, long "silent" "q" .nothing, long "text" "a" .nothing,
      long "unix-byte-offsets" "u" .nothing, long "with-filename" "H" .nothing, long "word-regexp" "w" .nothing], 2, false⟩ args)
  let size (t : Text) (message : Text) : Work Nat :=
    if t ≠ [] ∧ t.all Char.isDigit then return Nat.ofDigitChars 10 t 0 else fail 2 message
  let context (letter : String) : Work (Option Nat) := do
    match p.value? letter with
    | some t => return some (← size t (t ++ ": invalid context length argument".toList))
    | none => return none
  let digits := p.options.filterMap fun o => o.1.toList.head?.filter Char.isDigit
  let both? := (← context "C") <|> (if digits = [] then none else some (Nat.ofDigitChars 10 digits 0))
  let before? ← context "B"
  let after? ← context "A"
  let most? ←
    match p.value? "m" with
    | some t => pure (some (← size t "invalid max count".toList))
    | none => pure none
  let kinds := (p.options.map (·.1)).filter ["E", "F", "G", "P"].contains
  if p.has "u" then complain "warning: --unix-byte-offsets (-u) is obsolete".toList
  match p.value? "binary" with
  | none => pure ()
  | some t => if !(["binary", "text", "without-match"].any (·.toList = t)) then fail 2 "unknown binary-files type".toList
  if kinds.any fun k => some k ≠ kinds.head? then fail 2 "conflicting matchers specified".toList
  let kind : SearchKind :=
    match kinds with
    | "E" :: _ | "P" :: _ => .extended
    | "F" :: _ => .fixed
    | _ => .basic
  let directories := (p.value? "d").getD "read".toList
  -- The expressions come from options, from files, or from the first operand.
  let mut given : List Text := []
  for o in p.options do
    match o with
    | ("e", some t) => given := given ++ t.splitOn '\n'
    | ("f", some file) =>
      match ← contentOf file with
      | .ok t => given := given ++ linesOf '\n' t
      | .error e => fail 2 (file ++ ": ".toList ++ describe e)
    | _ => pure ()
  let isGiven := p.has "e" || p.has "f"
  let (expressions, operands) ←
    match isGiven, p.operands with
    | true, ops => pure (given, ops)
    | false, t :: ops => pure (t.splitOn '\n', ops)
    | false, [] => suggestNothing
  let mut matchers : List Matcher := []
  for t in expressions do
    match Search.matcher kind (p.last? ["i", "y", "I-"] |>.any (· ≠ "I-")) (p.has "w") (p.has "x") t with
    | .ok m =>
      if kind = .extended then
        for o in Regex.idleOperators .extended t do
          complain ("warning: ".toList ++ o ++ " at start of expression".toList)
      matchers := matchers ++ [m]
    | .error message => fail 2 message
  let isRecursive := p.has "r" || p.has "R" || directories = "recurse".toList
  let self ← process
  let leadsToDirectory (path : Text) : Work Bool := do
    match ← act (self.look path) with
    | .ok n => return n.kind = .directory
    | .error _ => return false
  let showsNames : Bool ←
    match p.last? ["h", "H"] with
    | some o => pure (o == "H")
    | none =>
      match operands with
      | [] => pure isRecursive
      | [path] => if isRecursive then leadsToDirectory path else pure false
      | _ => pure true
  let isUnseen :=
    match (self.stream? 1).bind (← act get).stream? with
    | some (.device .null) => true
    | _ => false
  let s : Search :=
    { matchers := matchers
      isNegated := p.has "v"
      ending := if p.has "z" then '\x00' else '\n'
      view :=
        if p.has "q" || isUnseen then .nothing
        else
          match p.last? ["l", "L"] with
          | some o => if o = "l" then .name else .nameOfOthers
          | none => if p.has "c" then .count else if p.has "o" then .matches_ else .lines
      most? := most?
      before := (before? <|> both?).getD 0
      after := (after? <|> both?).getD 0
      separator? := if p.has "nosep" then none else some ((p.value? "sep").getD ['-', '-'])
      showsNames := showsNames
      numbersLines := p.has "n"
      showsOffsets := p.has "b"
      nameEnding? := if p.has "Z" then some '\x00' else none
      takesAll := p.has "a" || p.value? "binary" = some "text".toList
      skipsBinary := p.has "I" || p.value? "binary" = some "without-match".toList
      showsNoTrouble := p.has "s"
      followsLinks := p.has "R"
      isRecursive := isRecursive
      skipsDirectories := directories = "skip".toList
      included := p.values "include"
      excluded := p.values "exclude"
      excludedDirectories := p.values "excludeDir"
      standardName := (p.value? "label").getD "(standard input)".toList
      hidesHere := operands = [] && isRecursive
      endsAtOnce := p.has "q" }
  let mut tally : Search.Tally := ⟨false, false, false⟩
  for path in if operands ≠ [] then operands else if isRecursive then [['.']] else [['-']] do
    tally ← s.searchPath maxSearchDepth true path tally
  flush
  endWith (if tally.hasTrouble then 2 else if tally.hasFound then 0 else 1)
where
  suggestNothing {α : Type} : Work α := advising searchAdvice (suggestHelp 2)

/-- Searches with an option in front of the arguments. -/
def grepWith (option : Text) : Body := fun args =>
  withReader (fun c => { c with name := "grep".toList }) (grep (option :: args))

end JavacLauncher.Tool
