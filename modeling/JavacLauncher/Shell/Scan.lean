import JavacLauncher.Shell.Format
import JavacLauncher.Shell.Reader

/-!
# Reading words

A word is read as a row of symbols: characters, characters that stand for themselves, quote marks, and the
openings and closings of what is replaced. What a character means depends on the level it stands on. A
level is opened by an arithmetic expression, or by a parameter whose operand is read by other rules than
the text around it. `Word.ofSymbols` then puts each operand under its parameter.

A document behind a command is read by the same rules, as if it stood in double quotes.
-/

namespace JavacLauncher.Shell

/-- The rules by which characters are read. -/
inductive Context where
  | base
  | double
  | single
  | arithmetic
  deriving DecidableEq, Repr, Inhabited

/-- What a character means. -/
inductive CharClass where
  | word
  /-- A character that would mean something outside quotes. -/
  | control
  | newline
  | backslash
  | single
  | double
  | endQuote
  | backquote
  | dollar
  | endBrace
  | openParenthesis
  | closeParenthesis
  | special
  | endOfText
  deriving DecidableEq, Repr, Inhabited

namespace Context

/-- Characters that mean something in patterns, tildes and ranges. -/
def controls : Text := "!*?[=~:/-]".toList

/-- What a character means by the rules of a context. -/
def classOf : Context → Option Char → CharClass
  | _, none => .endOfText
  | _, some '\n' => .newline
  | .single, some '\'' => .endQuote
  | .single, some c => if c = '\\' || controls.contains c then .control else .word
  | _, some '\\' => .backslash
  | _, some '`' => .backquote
  | _, some '$' => .dollar
  | _, some '}' => .endBrace
  | .base, some '\'' => .single
  | .base, some '"' => .double
  | .base, some c => if "<>();&| \t".toList.contains c then .special else .word
  | .double, some '"' => .endQuote
  | .double, some c => if controls.contains c then .control else .word
  | .arithmetic, some '(' => .openParenthesis
  | .arithmetic, some ')' => .closeParenthesis
  | .arithmetic, some _ => .word

end Context

/-- One level of reading. -/
structure Level where
  context : Context
  /-- The level stands in double quotes. -/
  isDouble : Bool
  /-- Double quotes were opened within an operand. -/
  isInner : Bool
  /-- The level ends with the operand that opened it. -/
  isOperand : Bool
  /-- How many operands are open, and how many of them stand in double quotes. -/
  operands : Nat
  quotedOperands : Nat
  /-- How many round brackets are open. -/
  brackets : Nat
  deriving DecidableEq, Repr, Inhabited

/-- A level on which nothing is open. -/
def Level.ofContext (c : Context) (isDouble isOperand : Bool) : Level := ⟨c, isDouble, false, isOperand, 0, 0, 0⟩

/-- What is to be done to a parameter, before the operand is known. -/
inductive Verb where
  | value
  | length
  | orElse (countsEmpty : Bool)
  | assign (countsEmpty : Bool)
  | complain (countsEmpty : Bool)
  | instead (countsEmpty : Bool)
  | trim (isFront isLongest : Bool)
  | slice
  | replace (kind : Char)
  | changeCase (kind : Char) (isAll : Bool)
  | subscripts
  | namesLike (isList : Bool)
  | transform (kind : Char)
  | nonsense
  /-- The same, to the parameter whose name the value is. -/
  | indirect (v : Verb)
  deriving Repr, Inhabited

/-- What a word is read as. -/
inductive Symbol where
  | char (c : Char)
  /-- A character that stands for itself. -/
  | escaped (c : Char)
  /-- Quotes begin or end. -/
  | mark
  | parameter (name : Text) (subscript : Option Word) (verb : Verb)
  | endParameter
  | arithmetic
  | endArithmetic
  | output (line : Nat) (body : Option Command)
  | channel (isInput : Bool) (line : Nat) (body : Option Command)
  deriving Inhabited

/-! ## From symbols to words -/

/-- A word before and after the first unquoted `c` in it. -/
def Word.cut? (c : Char) : Word → Option (Word × Word)
  | [] => none
  | .plain t :: w =>
    match JavacLauncher.cut? c t with
    | some (front, back) => some ([.plain front], .plain back :: w)
    | none => (cut? c w).map fun e => (.plain t :: e.1, e.2)
  | p :: w => (cut? c w).map fun e => (p :: e.1, e.2)

/-- How far the colon of a slice has been looked for: how many brackets and how many choices are open. -/
structure ColonSearch where
  brackets : Nat
  choices : Nat

/-- The texts before and behind the colon that ends the first expression of a slice, or how far the search has
come. -/
def ColonSearch.inText (s : ColonSearch) (before : Text) : Text → ColonSearch ⊕ (Text × Text)
  | [] => .inl s
  | c :: t =>
    match c with
    | '(' => inText { s with brackets := s.brackets + 1 } (c :: before) t
    | ')' => inText { s with brackets := s.brackets - 1 } (c :: before) t
    | '?' => inText { s with choices := s.choices + 1 } (c :: before) t
    | ':' =>
      if s.choices > 0 then inText { s with choices := s.choices - 1 } (c :: before) t
      else if s.brackets > 0 then inText s (c :: before) t
      else .inr (before.reverse, t)
    | c => inText s (c :: before) t

/-- A word before and after the colon that ends the first expression of a slice. -/
def Word.cutSlice? (s : ColonSearch) : Word → Option (Word × Word)
  | [] => none
  | .plain t :: w =>
    match s.inText [] t with
    | .inr (front, back) => some ([.plain front], .plain back :: w)
    | .inl s => (cutSlice? s w).map fun e => (.plain t :: e.1, e.2)
  | p :: w => (cutSlice? s w).map fun e => (p :: e.1, e.2)

/-- Whether the operand is read by the rules outside quotes, even in quotes. -/
def Verb.readsBare : Verb → Bool
  | .trim .. | .replace .. | .changeCase .. | .slice => true
  | .indirect v => v.readsBare
  | _ => false

/-- The operation with its operand. -/
def Verb.operation (w : Word) : Verb → Operation
  | .value => .value
  | .length => .length
  | .orElse b => .orElse b w
  | .assign b => .assign b w
  | .complain b => .complain b w
  | .instead b => .instead b w
  | .trim isFront isLongest => .trim isFront isLongest w
  | .slice =>
    match Word.cutSlice? ⟨0, 0⟩ w with
    | some (first, count) => .slice first (some count)
    | none => .slice w none
  | .replace kind =>
    match Word.cut? '/' w with
    | some (pattern, replacement) => .replace kind pattern replacement
    | none => .replace kind w []
  | .changeCase kind isAll => .changeCase kind isAll w
  | .subscripts => .subscripts
  | .namesLike isList => .namesLike isList
  | .transform kind => .transform kind
  | .nonsense => .nonsense
  | .indirect v => .indirect (v.operation w)

/-- What a part of a word under construction belongs to. -/
inductive Opener where
  | word
  | parameter (name : Text) (subscript : Option Word) (verb : Verb)
  | arithmetic

/-- A part of a word under construction. -/
structure Frame where
  opener : Opener
  /-- Whether the part itself stands in quotes. -/
  isQuoted : Bool
  /-- Whether what comes next stands in quotes. -/
  inQuotes : Bool
  /-- What there is so far, the last part first, with its text reversed. -/
  parts : List Part

namespace Frame

/-- A frame with nothing in it. -/
def ofOpener (o : Opener) (isQuoted : Bool) : Frame := ⟨o, isQuoted, false, []⟩

/-- Adds a character. -/
def add (f : Frame) (isQuoted : Bool) (c : Char) : Frame :=
  let parts :=
    match isQuoted, f.parts with
    | true, .quoted t :: ps => .quoted (c :: t) :: ps
    | true, ps => .quoted [c] :: ps
    | false, .plain t :: ps => .plain (c :: t) :: ps
    | false, ps => .plain [c] :: ps
  { f with parts := parts }

/-- Adds a part. -/
def addPart (f : Frame) (p : Part) : Frame := { f with parts := p :: f.parts }

/-- A quote mark. Quotes that open leave a trace, as they make a field even with nothing in them. -/
def quote (f : Frame) : Frame :=
  if f.inQuotes then { f with inQuotes := false } else { f with inQuotes := true, parts := .quoted [] :: f.parts }

/-- The word in the frame. -/
def word (f : Frame) : Word :=
  f.parts.reverse.map fun
    | .plain t => .plain t.reverse
    | .quoted t => .quoted t.reverse
    | p => p

end Frame

/-- The word that symbols make. A list of all arguments alone in its quotes leaves no trace of them, and a list of all
elements of an array leaves none. -/
def Word.build : List Symbol → Frame → List Frame → Word
  | [], f, _ => f.word
  | .mark :: .parameter ['@'] none .value :: .mark :: rest, f, fs =>
    if f.inQuotes then build rest ((f.quote.addPart (.parameter false ['@'] none .value)).quote) fs
    else build rest (f.addPart (.parameter true ['@'] none .value)) fs
  | .mark :: .parameter name (some [.plain ['@']]) .value :: .mark :: rest, f, fs =>
    let p : Part := .parameter (!f.inQuotes) name (some [.plain ['@']]) .value
    if f.inQuotes then build rest ((f.quote.addPart p).quote) fs else build rest (f.addPart p) fs
  | s :: rest, f, fs =>
    match s with
    | .char c => build rest (f.add f.inQuotes c) fs
    | .escaped c => build rest (f.add true c) fs
    | .mark => build rest f.quote fs
    | .parameter name subscript .value =>
      build rest (f.addPart (.parameter f.inQuotes name subscript .value)) fs
    | .parameter name subscript verb =>
      build rest (.ofOpener (.parameter name subscript verb) f.inQuotes) (f :: fs)
    | .arithmetic => build rest (.ofOpener .arithmetic f.inQuotes) (f :: fs)
    | .endParameter | .endArithmetic =>
      match fs with
      | [] => build rest f []
      | outer :: fs =>
        match f.opener with
        | .parameter name subscript verb =>
          build rest (outer.addPart (.parameter f.isQuoted name subscript (verb.operation f.word))) fs
        | .arithmetic => build rest (outer.addPart (.arithmetic f.isQuoted f.word)) fs
        | .word => build rest outer fs
    | .output line body => build rest (f.addPart (.output f.inQuotes line body)) fs
    | .channel isInput line body => build rest (f.addPart (.channel isInput line body)) fs

/-- The word that symbols make. -/
def Word.ofSymbols (ss : List Symbol) : Word := Word.build ss (.ofOpener .word false) []

/-! ## From characters to symbols -/

/-- What is read, and so where it ends. -/
inductive Goal where
  /-- A word ends at a blank or an operator. -/
  | word
  /-- A regular expression ends at a blank outside brackets. -/
  | expression
  /-- All of the text. -/
  | whole
  /-- An arithmetic expression ends at the brackets that close it. -/
  | arithmetic
  /-- A document ends at a line that is its end mark. -/
  | document (endMark : Text) (dropsTabs : Bool)
  deriving DecidableEq, Repr, Inhabited

/-- How far the reading of a word has come. -/
structure Scan where
  /-- The innermost level and those around it. -/
  level : Level
  outer : List Level
  /-- The symbols so far, the last one first. -/
  symbols : List Symbol
  isQuoted : Bool
  /-- The character to look at. -/
  current : Option Char
  isLineStart : Bool
  deriving Inhabited

namespace Scan

/-- The beginning of what is read. -/
def start (goal : Goal) (c? : Option Char) : Scan :=
  match goal with
  | .word | .whole | .expression => ⟨.ofContext .base false false, [], [], false, c?, false⟩
  | .arithmetic =>
    ⟨.ofContext .arithmetic true false, [.ofContext .base false false], [.arithmetic], false, c?, false⟩
  | .document _ _ => ⟨.ofContext .double true false, [], [], false, c?, true⟩

def emit (s : Scan) (x : Symbol) : Scan := { s with symbols := x :: s.symbols }

/-- Opens a level. -/
def push (s : Scan) (l : Level) : Scan := { s with level := l, outer := s.level :: s.outer }

/-- Closes the innermost level. -/
def pop (s : Scan) : Scan :=
  match s.outer with
  | [] => s
  | l :: ls => { s with level := l, outer := ls }

/-- Quote marks are left out in documents. -/
def mark (s : Scan) (goal : Goal) : Scan :=
  match goal with
  | .document _ _ => s
  | _ => s.emit .mark

/-- Double quotes begin or end in an operand. -/
def toggleInner (s : Scan) : Scan :=
  if s.level.operands > 0 then { s with level := { s.level with isInner := !s.level.isInner } } else s

end Scan

namespace Parse

/-- Whether the lines that come next begin with the end mark of a document, which is then passed over. -/
def takeEndMark (endMark : Text) : Text → Text → Parse Bool
  | taken, [] => do
    let c? ← take
    if c? = none ∨ c? = some '\n' then
      endLine
      return true
    else
      giveBack c?
      taken.forM fun c => giveBack (some c)
      return false
  | taken, c :: mark => do
    let d? ← take
    if d? = some c then takeEndMark endMark (c :: taken) mark
    else
      giveBack d?
      taken.forM fun c => giveBack (some c)
      return false

/-- A name that comes next: letters, digits and underscores, or digits (only one of them, if so told). -/
def takeName (isOneDigit : Bool) : Parse Text := do
  let c? ← takeJoined
  match c? with
  | some c =>
    if isNameStart c then return c :: (← takeWhile isNameChar)
    else if c.isDigit then
      if isOneDigit then return [c]
      else return c :: (← takeWhile Char.isDigit)
    else
      giveBack c?
      return []
  | none => return []

/-- What an escape in quotes behind a dollar stands for, from behind its backslash, and what follows it. -/
def ansiEscape : Text → Text × Text
  | [] => (['\\'], [])
  | c :: t =>
    match escapeLetter? c with
    | some d => ([d], t)
    | none =>
      if c = 'E' then (['\x1b'], t)
      else if c = '\'' ∨ c = '"' ∨ c = '?' then ([c], t)
      else if c = 'x' then
        match takeDigits? 16 2 t with
        | some (n, rest) => ([Char.ofNat n], rest)
        | none => (['\\', c], t)
      else if c = 'u' ∨ c = 'U' then
        match takeDigits? 16 (if c = 'u' then 4 else 8) t with
        | some (n, rest) => (codePoint n, rest)
        | none => (['\\', c], t)
      else if c = 'c' then
        match t with
        | d :: rest => ([Char.ofNat (d.toUpper.toNat ^^^ 64 &&& 127)], rest)
        | [] => (['\\', c], t)
      else
        match takeDigits? 8 3 (c :: t) with
        | some (n, rest) => ([Char.ofNat (n % 256)], rest)
        | none => (['\\', c], t)

/-- The text of quotes behind a dollar: it has escapes. -/
def takeAnsi : Parse Text :=
  loop (fun (t : Text) => do
    match ← take with
    | some '\'' => return .inr t.reverse
    | some '\\' =>
      let ahead := ((← get).rest).take 9
      let (value, rest) := ansiEscape ahead
      for _ in List.range (ahead.length - rest.length) do
        let _ ← take
      return .inl (value.reverse ++ t)
    | some '\n' =>
      endLine
      return .inl ('\n' :: t)
    | some c => return .inl (c :: t)
    | none => fail (.unclosed '\'')) rounds []

/-- The text of a subscript, up to the bracket that closes it. -/
def takeSubscript : Parse Text := do
  let t ← loop (fun (s : Text × Nat) => do
    match ← take with
    | some ']' => if s.2 = 0 then return .inr s.1 else return .inl (']' :: s.1, s.2 - 1)
    | some '[' => return .inl ('[' :: s.1, s.2 + 1)
    | some c => return .inl (c :: s.1, s.2)
    | none => fail (.unclosed ']')) rounds ([], 0)
  return t.reverse

end Parse

section

variable (list : Bool → Parse (Option Command)) (whole : Text → Parse Word)

/-- The verb that a name in braces is followed by; the rest of the operand stays. -/
def readVerb (isExtended : Bool) : Parse Verb := do
  let c? ← Parse.takeJoined
  let short (countsEmpty : Bool) (c? : Option Char) : Verb :=
    match c? with
    | some '-' => .orElse countsEmpty
    | some '+' => .instead countsEmpty
    | some '?' => .complain countsEmpty
    | some '=' => .assign countsEmpty
    | _ => .nonsense
  match c? with
  | some '}' => return .value
  | some ':' =>
    let d? ← Parse.takeJoined
    if isExtended ∧ (d?.all fun d => !"-+?=\x7d".toList.contains d) then
      Parse.giveBack d?
      return .slice
    else return short true d?
  | some '%' => return .trim false (← Parse.takeIf '%')
  | some '#' => return .trim true (← Parse.takeIf '#')
  | some c =>
    if isExtended then
      match c with
      | '^' | ',' => return .changeCase c (← Parse.takeIf c)
      | '/' =>
        if ← Parse.takeIf '/' then return .replace '/'
        else if ← Parse.takeIf '#' then return .replace '#'
        else if ← Parse.takeIf '%' then return .replace '%'
        else return .replace ' '
      | '@' =>
        let d? ← Parse.takeJoined
        return .transform (d?.getD ' ')
      | _ => return short false c?
    else return short false c?
  | none => return .nonsense

/-- The subscript that a name may be followed by. -/
def readSubscript (isExtended : Bool) : Parse (Option Word) := do
  if isExtended then
    if ← Parse.takeIf '[' then
      let t ← Parse.takeSubscript
      return some (← whole t)
    else return none
  else return none

/-- A parameter in braces: its name, its subscript, and what is to be done to it. -/
def readBraced : Parse (Text × Option Word × Verb) := do
  let isExtended := (← get).isExtended
  let name ← Parse.takeName false
  if name ≠ [] then
    let subscript ← readSubscript whole isExtended
    return (name, subscript, ← readVerb isExtended)
  let c? ← Parse.takeJoined
  match c? with
  | some '}' | none =>
    Parse.giveBack c?
    return ([], none, .nonsense)
  | some '#' =>
    let name ← Parse.takeName false
    if name ≠ [] then
      let subscript ← readSubscript whole isExtended
      let d? ← Parse.peek
      return (name, subscript, if d? = some '}' then .length else .nonsense)
    let d? ← Parse.takeJoined
    let e? ← Parse.peek
    if d? = some '}' ∨ e? ≠ some '}' then
      Parse.giveBack d?
      return (['#'], none, ← readVerb isExtended)
    else if d?.any isSpecial then return (d?.toList, none, .length)
    else return ([], none, .nonsense)
  | some '!' =>
    if isExtended then
      let name ← Parse.takeName false
      if name = [] then return (['!'], none, ← readVerb isExtended)
      let subscript ← readSubscript whole isExtended
      let d? ← Parse.takeJoined
      match d?, subscript with
      | some '*', none | some '@', none =>
        if (← Parse.peek) = some '}' then return (name, none, .namesLike (d? = some '@'))
        else
          Parse.giveBack d?
          return (name, none, .indirect (← readVerb isExtended))
      | _, some [.plain ['@']] | _, some [.plain ['*']] =>
        Parse.giveBack d?
        return (name, subscript, .subscripts)
      | _, _ =>
        Parse.giveBack d?
        let verb ← readVerb isExtended
        if verb matches .value then Parse.giveBack (some '}')
        return (name, subscript, .indirect verb)
    else return (['!'], none, ← readVerb isExtended)
  | some c =>
    if isSpecial c then return ([c], none, ← readVerb isExtended)
    else
      return ([], none, .nonsense)

/-- What a backquote opens: text in which some backslashes are dropped, and which is then read anew. -/
def readBackquoted (isDouble : Bool) : Parse Symbol := do
  let line := (← get).line
  let t ← Parse.loop (fun (t : Text) => do
    match ← Parse.takeJoined with
    | some '`' => return .inr t.reverse
    | some '\\' =>
      let c? ← Parse.take
      match c? with
      | some c =>
        if c = '\n' then Parse.endLine
        if c = '\\' ∨ c = '`' ∨ c = '$' ∨ (isDouble ∧ c = '"') then return .inl (c :: t)
        else return .inl (c :: '\\' :: t)
      | none => return .inl ('\\' :: t)
    | some '\n' =>
      Parse.endLine
      return .inl ('\n' :: t)
    | some c => return .inl (c :: t)
    | none => Parse.fail (.unclosed '`')) Parse.rounds []
  let pending := (← get).pending
  modify fun r => { r with pending := [] }
  let body ← Parse.onText t 1 (list false)
  modify fun r => { r with pending := pending, line := r.line }
  return .output line body

/-- What an open bracket behind a dollar opens: commands up to the closing bracket. -/
def readCommands : Parse (Nat × Option Command) := do
  let r ← get
  let pending := r.pending
  set { r with pending := [] }
  let body ← list true
  modify fun s => { s with pending := pending }
  return (r.line, body)

/-- What a dollar opens. -/
def readDollar (goal : Goal) (s : Scan) : Parse Scan := do
  let isExtended := (← get).isExtended
  if (← get).checks.isEndMark then return s.emit (.char '$')
  let c? ← Parse.takeJoined
  match c? with
  | some '(' =>
    if ← Parse.takeIf '(' then return (s.emit .arithmetic).push (.ofContext .arithmetic true false)
    else
      let (line, body) ← readCommands list
      return s.emit (.output line body)
  | some '{' =>
    let (name, subscript, verb) ← readBraced whole
    let s := s.emit (.parameter name subscript verb)
    if verb matches .value then return s
    let context :=
      if verb.readsBare then .base
      else if s.level.context = .arithmetic then .double
      else s.level.context
    let s :=
      if context ≠ s.level.context ∨ s.level.isInner then s.push (.ofContext context (context ≠ .base) true)
      else s
    return { s with level := { s.level with
      operands := s.level.operands + 1
      quotedOperands := s.level.quotedOperands + if s.level.isDouble then 1 else 0 } }
  | some c =>
    if isNameStart c ∨ c.isDigit then
      Parse.giveBack c?
      let name ← Parse.takeName true
      return s.emit (.parameter name none .value)
    else if isSpecial c then return s.emit (.parameter [c] none .value)
    else if isExtended ∧ s.level.context = .base ∧ c = '\'' ∧ !(goal matches .document ..) then
      let t ← Parse.takeAnsi
      let s := t.foldl (fun s c => s.emit (.escaped c)) (s.emit .mark)
      return { s.emit .mark with isQuoted := true }
    else
      Parse.giveBack c?
      if isExtended ∧ s.level.context = .base ∧ c = '"' ∧ !(goal matches .document ..) then return s
      else return s.emit (.char '$')
  | none => return s.emit (.char '$')

/-- A backslash. In double quotes it means something only before a few characters. -/
def readBackslash (goal : Goal) (s : Scan) : Parse Scan := do
  let c? ← Parse.take
  match c? with
  | none => return s.emit (.escaped '\\')
  | some '\n' =>
    Parse.endLine
    return s
  | some c =>
    let isDocument := goal matches .document ..
    let isKept := s.level.isDouble && c != '\\' && c != '`' && c != '$' &&
      (c != '"' || (isDocument && s.level.operands = 0)) && (c != '}' || s.level.operands = 0)
    let s := if isKept then s.emit (.escaped '\\') else s
    return { s.emit (.escaped c) with isQuoted := true }

/-- An end of quotes. -/
def endQuote (goal : Goal) (s : Scan) (c : Char) : Scan :=
  if (goal matches .document ..) ∧ s.level.operands = 0 then s.emit (.char c)
  else
    let s :=
      if s.level.quotedOperands = 0 then { s with level := { s.level with context := .base, isDouble := false } }
      else s
    let s := { s with isQuoted := true }
    let s := if c = '"' then s.toggleInner else s
    s.mark goal

/-- A closing brace. -/
def endBrace (s : Scan) : Scan :=
  if !s.level.isInner ∧ s.level.operands > 0 then
    let s := { s with level := { s.level with operands := s.level.operands - 1 } }
    let s :=
      if s.level.operands = 0 ∧ s.level.isOperand then s.pop
      else { s with level := { s.level with quotedOperands := s.level.quotedOperands - 1 } }
    s.emit .endParameter
  else s.emit (.char '}')

/-- A character that ends a word, unless it opens a channel or stands in an operand. -/
def readSpecial (goal : Goal) (s : Scan) (c : Char) : Parse (Scan ⊕ Scan) := do
  if s.level.operands > 0 ∨ goal = .whole then return .inl (s.emit (.char c))
  else if goal = .expression then
    if c = '(' then return .inl { s.emit (.char c) with level := { s.level with brackets := s.level.brackets + 1 } }
    else if c = ')' ∧ s.level.brackets > 0 then
      return .inl { s.emit (.char c) with level := { s.level with brackets := s.level.brackets - 1 } }
    else if c = '|' ∨ s.level.brackets > 0 then return .inl (s.emit (.char c))
    else return .inr s
  else if (← get).isExtended ∧ (c = '<' ∨ c = '>') then
    if ← Parse.takeIf '(' then
      let (line, body) ← readCommands list
      return .inl (s.emit (.channel (c = '<') line body))
    else return .inr s
  else return .inr s

/-- Looks at a character of a word; the word may end before it. -/
def scanChar (goal : Goal) (s : Scan) : Parse (Scan ⊕ Scan) := do
  if s.isLineStart then
    if let .document endMark dropsTabs := goal then
      Parse.giveBack s.current
      if dropsTabs then
        let _ ← Parse.takeWhile (· = '\t')
      if ← Parse.takeEndMark endMark [] endMark then return .inr { s with current := none }
      let c? ← Parse.take
      return .inl { s with current := c?, isLineStart := false }
  let goOn (s : Scan) : Parse (Scan ⊕ Scan) := do
    let c? ← if s.level.context = .single then Parse.take else Parse.takeJoined
    return .inl { s with current := c? }
  let c := s.current.getD '\x00'
  match s.level.context.classOf s.current with
  | .newline =>
    if goal = .expression ∨ (goal = .word ∧ s.level.context = .base ∧ s.level.operands = 0) then return .inr s
    else
      Parse.endLine
      let c? ← Parse.take
      return .inl { s.emit (.char c) with current := c?, isLineStart := true }
  | .word => goOn (s.emit (.char c))
  | .control => goOn (s.emit (if goal matches .document .. then (if s.level.isDouble then .escaped c else .char c)
      else .escaped c))
  | .backslash => goOn (← readBackslash goal s)
  | .single => goOn ({ s with level := { s.level with context := .single } }.mark goal)
  | .double =>
    let s := { s with level := { s.level with context := .double, isDouble := true } }
    goOn (s.toggleInner.mark goal)
  | .endQuote => goOn (endQuote goal s c)
  | .dollar => goOn (← readDollar list whole goal s)
  | .endBrace => goOn (endBrace s)
  | .openParenthesis =>
    goOn { s.emit (.char c) with level := { s.level with brackets := s.level.brackets + 1 } }
  | .closeParenthesis =>
    if s.level.brackets > 0 then
      goOn { s.emit (.char c) with level := { s.level with brackets := s.level.brackets - 1 } }
    else if ← Parse.takeIf ')' then
      let s := (s.emit .endArithmetic).pop
      if goal = .arithmetic ∧ s.outer = [] then return .inr { s with current := none } else goOn s
    else goOn (s.emit (.char c))
  | .backquote =>
    if (← get).checks.isEndMark then goOn { s.emit (.char c) with isQuoted := true }
    else goOn (s.emit (← readBackquoted list s.level.isDouble))
  | .endOfText => return .inr s
  | .special =>
    match ← readSpecial list goal s c with
    | .inl s => goOn s
    | .inr s => return .inr s

/-- Reads symbols from a character on to the end of what is to be read. -/
def scan (goal : Goal) (c? : Option Char) : Parse Scan := do
  let s ← Parse.loop (scanChar list whole goal) Parse.rounds (Scan.start goal c?)
  if s.level.context = .arithmetic then Parse.fail (.unclosed ')')
  if s.level.context ≠ .base ∧ !(goal matches .document ..) then
    Parse.fail (.unclosed (if s.level.context = .single then '\'' else '"'))
  if s.level.operands > 0 then Parse.fail (.unclosed '}')
  return s

end

/-- Reads all of a text as one word. -/
def wholeWord (list : Bool → Parse (Option Command)) : Nat → Text → Parse Word
  | 0, _ => Parse.fail (.other "too deep".toList)
  | n + 1, t => do
    let line := (← get).line
    Parse.onText t line do
      let s ← scan list (wholeWord list n) .whole (← Parse.takeJoined)
      return Word.ofSymbols s.symbols.reverse

end JavacLauncher.Shell
