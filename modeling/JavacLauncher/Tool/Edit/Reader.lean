import JavacLauncher.Tool.Edit.Basic
import JavacLauncher.Tool.Basic

/-!
# Reading editing scripts

A script comes in pieces, from arguments and from files, and a mistake is told with the piece and the place in
it. A text to be added may begin in one piece and end in the next.
-/

namespace JavacLauncher.Tool.Edit

/-- How far the reading of a script has come. -/
structure Progress where
  rest : Text
  /-- How many characters have been read of this piece, and in which line they end. -/
  used : Nat
  line : Nat
  script : Script
  /-- The blocks that are open, the innermost first. -/
  blocks : List Nat
  /-- The command whose text is still to come. -/
  pending? : Option Nat
  isExtended : Bool
  deriving Inhabited

/-- What is wrong, and whether the place in the script is told. -/
structure Mistake where
  message : Text
  hasPlace : Bool
  deriving Inhabited

abbrev Reading := ExceptT Mistake (StateM Progress)

namespace Reading

def refuse {α : Type} (message : String) : Reading α := throw ⟨message.toList, true⟩

def refuseText {α : Type} (message : Text) : Reading α := throw ⟨message, true⟩

/-- Reads a character; at the end there is none. -/
def next? : Reading (Option Char) := do
  let p ← get
  match p.rest with
  | [] => return none
  | c :: t =>
    set { p with rest := t, used := p.used + 1, line := if c = '\n' then p.line + 1 else p.line }
    return some c

/-- Gives back the character that was read last. -/
def back (c? : Option Char) : Reading Unit := do
  match c? with
  | none => pure ()
  | some c => modify fun p => { p with rest := c :: p.rest, used := p.used - 1, line := if c = '\n' then p.line - 1 else p.line }

def peek? : Reading (Option Char) := do return (← get).rest.head?

/-- Reads characters while they are of a kind. -/
def many (isMember : Char → Bool) : Reading Text := do
  let p ← get
  let t := p.rest.takeWhile isMember
  set { p with rest := p.rest.drop t.length, used := p.used + t.length, line := p.line + t.count '\n' }
  return t

/-- Reads behind blanks. -/
def nonBlank? : Reading (Option Char) := do
  let _ ← many fun c => c = ' ' || c = '\t'
  next?

/-- Reads a number whose first digit has been read. -/
def number (c : Char) : Reading Nat := do
  return Nat.ofDigitChars 10 (c :: (← many Char.isDigit)) 0

end Reading

/-! ## Characters behind backslashes -/

/-- A character given by its number in a base, and what follows. -/
def numbered? (base most : Nat) (t : Text) : Option (Char × Text) :=
  let value? (c : Char) : Option Nat := (digitValue? c).filter (· < base)
  let digits := (t.take most).takeWhile fun c => (value? c).isSome
  if digits = [] then none
  else
    let n := digits.foldl (fun n c => n * base + (value? c).getD 0) 0
    some (Char.ofNat (n % 256), t.drop digits.length)
where
  digitValue? (c : Char) : Option Nat :=
    if c.isDigit then some (c.toNat - 48)
    else if 'a' ≤ c ∧ c ≤ 'f' then some (c.toNat - 87)
    else if 'A' ≤ c ∧ c ≤ 'F' then some (c.toNat - 55)
    else none

/-- The character that letters behind a backslash stand for, and what follows. -/
def escaped? (t : Text) : Option (Char × Text) :=
  match t with
  | 'a' :: t => some ('\x07', t)
  | 'f' :: t => some ('\x0c', t)
  | 'n' :: t => some ('\n', t)
  | 'r' :: t => some ('\r', t)
  | 't' :: t => some ('\t', t)
  | 'v' :: t => some ('\x0b', t)
  | 'd' :: t => numbered? 10 3 t
  | 'o' :: t => numbered? 8 3 t
  | 'x' :: t => numbered? 16 2 t
  | 'c' :: c :: t => some (Char.ofNat (Nat.xor c.toUpper.toNat 64), t)
  | _ => none

/-- A text to be added, with what backslashes stand for in it. -/
def plainText : Nat → Text → Text
  | n + 1, '\\' :: t =>
    match escaped? t with
    | some (c, t) => c :: plainText n t
    | none =>
      match t with
      | c :: t => c :: plainText n t
      | [] => []
  | n + 1, c :: t => c :: plainText n t
  | _, _ => []

/-- Characters that mean something in expressions. -/
def isSpecial (c : Char) : Bool := "$*.[\\]^+?()\x7b|\x7d".toList.contains c

/-- An expression in which backslashes no longer stand for characters that could be written. -/
def plainExpression : Nat → Text → Text
  | n + 1, '\\' :: c :: t =>
    if c = 'n' then '\n' :: plainExpression n t
    else
      match escaped? (c :: t) with
      | some (d, rest) =>
        if isSpecial d ∧ "dox".toList.contains c then '\\' :: d :: plainExpression n rest else d :: plainExpression n rest
      | none => '\\' :: c :: plainExpression n t
  | n + 1, c :: t => c :: plainExpression n t
  | _, _ => []

/-- The parts of a replacement. -/
def partsOf : Nat → Text → List Part
  | n + 1, '&' :: t => .group 0 :: partsOf n t
  | n + 1, '\\' :: c :: t =>
    if c.isDigit then .group (c.toNat - 48) :: partsOf n t
    else if "ULulE".toList.contains c then .shift c :: partsOf n t
    else
      match escaped? (c :: t) with
      | some (d, rest) => .text [d] :: partsOf n rest
      | none => .text [c] :: partsOf n t
  | n + 1, c :: t => .text [c] :: partsOf n t
  | _, _ => []

/-! ## Expressions and replacements -/

/-- Reads the rest of a set in an expression, up to its bracket. -/
def setText : Nat → Bool → Text → Option (Text × Text)
  | 0, _, _ => none
  | _ + 1, _, [] => none
  | _ + 1, false, ']' :: t => some ([']'], t)
  | n + 1, _, '[' :: c :: t =>
    if c = ':' ∨ c = '.' ∨ c = '=' then
      match afterFirst? [c, ']'] t with
      | some rest =>
        let inner := t.take (t.length - rest.length)
        (setText n false rest).map fun (s, r) => ('[' :: c :: inner ++ s, r)
      | none => none
    else (setText n false (c :: t)).map fun (s, r) => ('[' :: s, r)
  | n + 1, _, c :: t => (setText n false t).map fun (s, r) => (c :: s, r)

/-- Reads up to a delimiter. Behind a backslash it is a mere character. -/
def delimited (delimiter : Char) (isExpression : Bool) : Nat → Text → Reading (Option Text)
  | 0, _ => return none
  | n + 1, read => do
    match ← Reading.next? with
    | none => return none
    | some c =>
      if c = delimiter then return some read.reverse
      else if c = '\n' ∧ isExpression then
        Reading.back c
        return none
      else if c = '\\' then
        match ← Reading.next? with
        | none => return none
        | some d =>
          if d = delimiter then delimited delimiter isExpression n (d :: read)
          else if d = '\n' ∧ !isExpression then delimited delimiter isExpression n ('\n' :: '\\' :: read)
          else delimited delimiter isExpression n (d :: '\\' :: read)
      else if c = '[' ∧ isExpression then
        let p ← get
        let (negation, t) := match p.rest with
          | '^' :: t => (['^'], t)
          | t => ([], t)
        match setText (t.length + 1) true t with
        | some (s, rest) =>
          let inner := '[' :: negation ++ s
          set { p with rest := rest, used := p.used + (p.rest.length - rest.length) }
          if '\n' ∈ inner then return none
          else delimited delimiter isExpression n (inner.reverse ++ read)
        | none =>
          let _ ← Reading.many (· ≠ '\n')
          return none
      else if c = '\n' then
        Reading.back c
        return none
      else delimited delimiter isExpression n (c :: read)

/-- The matcher of an expression with its flags; an empty one stands for the one used last. -/
def matcherOf? (t : Text) (ignoresCase hasLines : Bool) : Reading (Option Matcher × Nat) := do
  if t = [] then
    if ignoresCase ∨ hasLines then Reading.refuse "cannot specify modifiers on empty regexp"
    return (none, 0)
  else
    let d : RegexDialect := if (← get).isExtended then .editing else .basic
    let t := plainExpression (t.length + 1) t
    if Regex.hasBareKind t.length t then
      Reading.refuse "character class syntax is [[:space:]], not [:space:]"
    match Regex.read d t with
    | .error e => Reading.refuseText e.message
    | .ok (r, groups) =>
      match r.boundedMatcher groups ignoresCase with
      | .error e => Reading.refuseText e.message
      | .ok m => return (some { m with hasLines := hasLines }, groups)

/-! ## Ranges -/

/-- Reads an expression as a condition from behind its first delimiter, with its flags. -/
def readCondition (delimiter : Char) : Reading (Option Matcher) := do
  match ← delimited delimiter true ((← get).rest.length + 1) [] with
  | none => Reading.refuse "unterminated address regex"
  | some t =>
    let flags ← Reading.many fun c => c = 'I' || c = 'M' || c = ' ' || c = '\t'
    return (← matcherOf? t ('I' ∈ flags) ('M' ∈ flags)).1

/-- Reads the number behind a step. -/
def readStep : Reading Nat := do
  let _ ← Reading.many fun c => c = ' ' || c = '\t'
  return Nat.ofDigitChars 10 (← Reading.many Char.isDigit) 0

/-- Reads the first condition, if there is one. -/
def readPoint? : Reading (Option Point) := do
  match ← Reading.nonBlank? with
  | some '/' => return some (.fits (← readCondition '/'))
  | some '\\' =>
    match ← Reading.next? with
    | some c => return some (.fits (← readCondition c))
    | none => Reading.refuse "unexpected \x60,'"
  | some '$' => return some .last
  | some '+' | some '~' =>
    let _ ← readStep
    Reading.refuse "invalid usage of +N or ~N as first address"
  | some c =>
    if c.isDigit then
      let n ← Reading.number c
      match ← Reading.nonBlank? with
      | some '~' => return some (.every n (← readStep))
      | c? =>
        Reading.back c?
        return some (.line n)
    else
      Reading.back c
      return none
  | none => return none

/-- Reads where a range ends. -/
def readStop : Reading Stop := do
  match ← Reading.nonBlank? with
  | some '/' => return .fits (← readCondition '/')
  | some '\\' =>
    match ← Reading.next? with
    | some c => return .fits (← readCondition c)
    | none => Reading.refuse "unexpected \x60,'"
  | some '$' => return .last
  | some '+' => return .after (← readStep)
  | some '~' => return .multiple (← readStep)
  | some c => if c.isDigit then return .line (← Reading.number c) else Reading.refuse "unexpected \x60,'"
  | none => Reading.refuse "unexpected \x60,'"

/-- Reads which lines a command is for, and the character of the command. -/
def readRange : Reading (Range × Option Char) := do
  let first? ← readPoint?
  let mut stop? : Option Stop := none
  let mut isOpen := false
  let mut c? ← Reading.nonBlank?
  if first?.isSome then
    if c? = some ',' then
      stop? := some (← readStop)
      c? ← Reading.nonBlank?
    match first?, stop? with
    | some (.line 0), some (.fits _) => isOpen := true
    | some (.line 0), _ => Reading.refuse "invalid usage of line address 0"
    | _, _ => pure ()
  if c? = some '!' then
    let c'? ← Reading.nonBlank?
    if c'? = some '!' then Reading.refuse "multiple \x60!'s"
    return (⟨first?, stop?, isOpen, true⟩, c'?)
  else return (⟨first?, stop?, isOpen, false⟩, c?)

/-! ## Commands -/

/-- Reads the end of a command. -/
def readEnd : Reading Unit := do
  match ← Reading.nonBlank? with
  | none | some '\n' | some ';' => pure ()
  | some '\x7d' => Reading.back (some '\x7d')
  | some '#' => Reading.back (some '#')
  | some '\r' => if (← Reading.peek?).all (· = '\n') then pure () else Reading.refuse "extra characters after command"
  | some _ => Reading.refuse "extra characters after command"

/-- Reads a label behind blanks. -/
def readLabel (endsAtBrace : Bool) : Reading Text := do
  let _ ← Reading.many fun c => c = ' ' || c = '\t'
  Reading.many fun c => !(" \t\n\r\x0b\x0c;".toList.contains c) && !(endsAtBrace && c = '\x7d')

/-- Reads the name of a file: the rest of the line. -/
def readFileName : Reading Text := do
  let _ ← Reading.many fun c => c = ' ' || c = '\t'
  let t ← Reading.many (· ≠ '\n')
  let _ ← Reading.next?
  if t = [] then Reading.refuse "missing filename in r/R/w/W commands"
  return t

/-- Reads a text up to the end of a line that no backslash stands in front of. -/
def textLine : Nat → Text → Reading Text
  | 0, read => return read.reverse
  | n + 1, read => do
    match ← Reading.next? with
    | none | some '\n' => return read.reverse
    | some '\\' =>
      match ← Reading.next? with
      | none => return read.reverse
      | some c => textLine n (c :: '\\' :: read)
    | some c => textLine n (c :: read)

/-- Reads a text whose first characters may have been read. -/
def readTextFrom (read : Text) : Reading Text := do
  let t ← textLine ((← get).rest.length + 1) read.reverse
  return plainText (t.length + 1) t ++ ['\n']

/-- Reads the text behind a command; none if it is still to come. -/
def readText : Reading (Option Text) := do
  match ← Reading.nonBlank? with
  | none => Reading.refuse "expected \\ after \x60a', \x60c' or \x60i'"
  | some '\\' =>
    let blanks ← Reading.many fun c => c = ' ' || c = '\t'
    match ← Reading.next? with
    | none => return none
    | some '\n' => if (← get).rest = [] then return none else return some (← readTextFrom [])
    | some c =>
      Reading.back c
      return some (← readTextFrom blanks)
  | some c =>
    Reading.back c
    return some (← readTextFrom [])

/-- The flags of a replacement. -/
structure Flags where
  isGlobal : Bool
  prints : Bool
  runs : Bool
  ignoresCase : Bool
  hasLines : Bool
  number? : Option Nat
  file? : Option Text
  deriving Inhabited

/-- Reads the flags of a replacement and the end of the command. -/
def readFlags : Nat → Flags → Reading Flags
  | 0, f => return f
  | n + 1, f => do
    match ← Reading.next? with
    | none | some '\n' | some ';' => return f
    | some 'i' | some 'I' => readFlags n { f with ignoresCase := true }
    | some 'm' | some 'M' => readFlags n { f with hasLines := true }
    | some 'e' => readFlags n { f with runs := true }
    | some 'p' =>
      if f.prints then Reading.refuse "multiple \x60p' options to \x60s' command"
      readFlags n { f with prints := true }
    | some 'g' =>
      if f.isGlobal then Reading.refuse "multiple \x60g' options to \x60s' command"
      readFlags n { f with isGlobal := true }
    | some 'w' => return { f with file? := some (← readFileName) }
    | some '\x7d' | some '#' =>
      modify fun p => { p with used := p.used - 1 }
      return f
    | some ' ' | some '\t' => readFlags n f
    | some '\r' => if (← Reading.peek?).all (· = '\n') then readFlags n f else Reading.refuse "unknown option to \x60s'"
    | some c =>
      if c.isDigit then
        if f.number?.isSome then Reading.refuse "multiple number options to \x60s' command"
        let k ← Reading.number c
        if k = 0 then Reading.refuse "number option to \x60s' command may not be zero"
        readFlags n { f with number? := some k }
      else Reading.refuse "unknown option to \x60s'"

/-- Gives back a closing brace or a comment that ended the flags. -/
def readChangeFlags : Reading Flags := do
  let before := (← get).rest
  let f ← readFlags (before.length + 1) ⟨false, false, false, false, false, none, none⟩
  let p ← get
  -- What ended the flags is still to be read.
  let read := before.take (before.length - p.rest.length)
  match f.file?, read.getLast? with
  | none, some '\x7d' => set { p with rest := '\x7d' :: p.rest }
  | none, some '#' => set { p with rest := '#' :: p.rest }
  | _, _ => pure ()
  return f

/-- Reads a replacement. -/
def readChange : Reading Deed := do
  let unterminated {α : Type} : Reading α := Reading.refuse "unterminated \x60s' command"
  match ← Reading.next? with
  | none => unterminated
  | some delimiter =>
    if delimiter = '\n' ∨ delimiter = '\\' then unterminated
    let size := (← get).rest.length + 1
    let expression? ← delimited delimiter true size []
    let some expression := expression? | unterminated
    let replacement? ← delimited delimiter false size []
    let some replacement := replacement? | unterminated
    let f ← readChangeFlags
    let (m?, groups) ← matcherOf? expression f.ignoresCase f.hasLines
    let parts := partsOf (replacement.length + 1) replacement
    let highest := parts.foldl (fun n p => match p with
      | .group k => max n k
      | _ => n) 0
    if m?.isSome ∧ highest > groups then
      Reading.refuseText ("invalid reference \\".toList ++ Text.ofNat highest ++ " on \x60s' command's RHS".toList)
    return .replace ⟨m?, parts, f.number?.getD 1, f.isGlobal, f.prints, f.runs, f.file?⟩

/-- The characters of one side of a conversion. -/
def convertChars : Nat → Text → Option Text
  | n + 1, '\\' :: c :: t =>
    if c = '\\' then (convertChars n t).map ('\\' :: ·)
    else
      match escaped? (c :: t) with
      | some (d, rest) => (convertChars n rest).map (d :: ·)
      | none => none
  | n + 1, c :: t => (convertChars n t).map (c :: ·)
  | _, _ => some []

/-- Reads a conversion of characters. -/
def readConvert : Reading Deed := do
  let unterminated {α : Type} : Reading α := Reading.refuse "unterminated \x60y' command"
  match ← Reading.next? with
  | none => unterminated
  | some delimiter =>
    let size := (← get).rest.length + 1
    let some old := ← delimited delimiter false size [] | unterminated
    let some new := ← delimited delimiter false size [] | unterminated
    match convertChars (old.length + 1) old, convertChars (new.length + 1) new with
    | some a, some b =>
      if a.length ≠ b.length then Reading.refuse "strings for \x60y' command are different lengths"
      readEnd
      return .convert (a.zip b)
    | _, _ => Reading.refuse "\x60y' command strings have different lengths"

/-- Reads the status behind a command that ends the work. -/
def readStatus : Reading Nat := do
  match ← Reading.nonBlank? with
  | some c =>
    if c.isDigit then
      let n ← Reading.number c
      readEnd
      return n
    else
      Reading.back c
      readEnd
      return 0
  | none => return 0

/-- Reads the width behind a command that lists a line. -/
def readWidth? : Reading (Option Nat) := do
  match ← Reading.nonBlank? with
  | some c =>
    if c.isDigit then
      let n ← Reading.number c
      readEnd
      return some n
    else
      Reading.back c
      readEnd
      return none
  | none => return none

/-- Adds a command to the script. -/
def add (r : Range) (d : Deed) : Reading Unit := modify fun p => { p with script := p.script.push ⟨r, d⟩ }

/-- Commands that take nothing but their character. -/
def bareDeed? (c : Char) : Option Deed :=
  match c with
  | '=' => some .number
  | 'd' => some .delete
  | 'D' => some .deleteFirst
  | 'F' => some .fileName
  | 'g' => some .fromHold
  | 'G' => some .addHold
  | 'h' => some .toHold
  | 'H' => some .addToHold
  | 'n' => some .next
  | 'N' => some .addNext
  | 'p' => some .print
  | 'P' => some .printFirst
  | 'x' => some .exchange
  | 'z' => some .clear
  | _ => none

/-- Adds a command with a text. -/
def addText (r : Range) (d : Text → Deed) : Reading Unit := do
  let t? ← readText
  if t?.isNone then modify fun p => { p with pending? := some p.script.size }
  add r (d (t?.getD []))

/-- Reads a command behind the lines it is for. -/
def readCommand (r : Range) (c : Char) : Reading Unit := do
  match c with
  | '#' =>
    if r.first?.isSome then Reading.refuse "comments don't accept any addresses"
    let _ ← Reading.many (· ≠ '\n')
    let _ ← Reading.next?
  | ':' =>
    if r.first?.isSome then Reading.refuse ": doesn't want any addresses"
    let name ← readLabel false
    if name = [] then Reading.refuse "\":\" lacks a label"
    add r (.label name)
  | '\x7b' =>
    modify fun p => { p with blocks := p.script.size :: p.blocks }
    add r (.block 0)
  | '\x7d' =>
    let p ← get
    match p.blocks with
    | [] => Reading.refuse "unexpected \x60\x7d'"
    | b :: bs =>
      if r.first?.isSome then Reading.refuse "\x7d doesn't want any addresses"
      let opened := (p.script[b]?).getD default
      set { p with blocks := bs, script := p.script.set! b { opened with deed := .block p.script.size } }
      add r .closeBlock
      readEnd
  | 'a' => addText r .append
  | 'i' => addText r .insert
  | 'c' => addText r .change
  | 'b' | 't' | 'T' =>
    let name ← readLabel true
    readEnd
    add r (match c with
      | 'b' => .jump name
      | 't' => .jumpIf name
      | _ => .jumpUnless name)
  | 'e' =>
    let _ ← Reading.many fun c => c = ' ' || c = '\t'
    let t ← Reading.many (· ≠ '\n')
    let _ ← Reading.next?
    add r (.run t)
  | 'l' => add r (.list (← readWidth?))
  | 'q' | 'Q' =>
    if r.stop?.isSome then Reading.refuse "command only uses one address"
    add r (.quit (← readStatus) (c = 'q'))
  | 'r' => add r (.readFile (← readFileName))
  | 'R' => add r (.readLine (← readFileName))
  | 'w' => add r (.write (← readFileName))
  | 'W' => add r (.writeFirst (← readFileName))
  | 's' => add r (← readChange)
  | 'y' => add r (← readConvert)
  | 'v' =>
    let t ← readLabel true
    if t.head?.any (fun c => '4' < c) then Reading.refuse "expected newer version of sed"
    readEnd
  | c =>
    match bareDeed? c with
    | some d =>
      readEnd
      add r d
    | none => Reading.refuseText ("unknown command: \x60".toList ++ [c, '\''])

/-- Reads a piece of a script. -/
def readPiece : Nat → Reading Unit
  | 0 => pure ()
  | n + 1 => do
    let _ ← Reading.many fun c => c = ';' || CharKind.isSpace c
    if (← get).rest ≠ [] then
      let (r, c?) ← readRange
      match c? with
      | none => Reading.refuse "missing command"
      | some c =>
        readCommand r c
        readPiece n

/-- Reads the text that a piece begins with if one is still to come. -/
def readPending : Reading Unit := do
  let p ← get
  match p.pending? with
  | none => pure ()
  | some i =>
    let t ← readTextFrom []
    modify fun p =>
      let c := (p.script[i]?).getD default
      let deed := match c.deed with
        | .append _ => .append t
        | .insert _ => .insert t
        | _ => .change t
      { p with pending? := none, script := p.script.set! i { c with deed := deed } }

/-- A piece of a script: the argument of that number, or a file. -/
inductive Source where
  | argument (number : Nat)
  | file (name : Text)
  deriving DecidableEq, Repr, Inhabited

/-- A mistake with its place. -/
def Mistake.text (e : Mistake) (source : Source) (p : Progress) : Text :=
  if !e.hasPlace then e.message
  else
    match source with
    | .argument n =>
      "-e expression #".toList ++ Text.ofNat n ++ ", char ".toList ++ Text.ofNat p.used ++ ": ".toList ++ e.message
    | .file name => "file ".toList ++ name ++ " line ".toList ++ Text.ofNat p.line ++ ": ".toList ++ e.message

/-- Reads all pieces of a script. -/
def readPieces (p : Progress) : List (Source × Text) → Except Text Progress
  | [] => .ok p
  | (source, t) :: more =>
    let p := { p with rest := t, used := 0, line := 1 }
    match (do readPending; readPiece (t.length + 1) : Reading Unit).run.run p with
    | (.error e, p) => .error (e.text source p)
    | (.ok (), p) =>
      if more = [] ∧ p.blocks ≠ [] then
        .error ((⟨"unmatched \x60\x7b'".toList, true⟩ : Mistake).text source { p with used := 0, line := 0 })
      else readPieces p more

/-- The labels to which a script jumps. -/
def targets (s : Script) : List Text :=
  s.toList.filterMap fun c =>
    match c.deed with
    | .jump l | .jumpIf l | .jumpUnless l => if l = [] then none else some l
    | _ => none

/-- Where a label stands. -/
def place? (s : Script) (label : Text) : Option Nat :=
  s.findIdx? fun c => match c.deed with
    | .label l => l = label
    | _ => false

/-- The script that pieces make up. -/
def scriptOf (isExtended : Bool) (pieces : List (Source × Text)) : Except Text Script := do
  let p ← readPieces ⟨[], 0, 1, #[], [], none, isExtended⟩ pieces
  return p.script

end JavacLauncher.Tool.Edit
