import JavacLauncher.Shell.Scan

/-!
# Reading commands

A list of commands stands on a line, in the body of a longer command, or between brackets. A list on a
line ends with the line; the others end at a word or a bracket that only the command around them knows, so
a list ends where a token comes that ends lists, and the command around it looks at that token.

Lists stand within lists. The functions here get the reader of inner lists as a parameter, and `readList`
gives each level the next one, as deep as a bound allows.
-/

namespace JavacLauncher.Shell

/-- Where a list of commands stands. -/
inductive ListKind where
  | line
  | body
  /-- It may be empty. -/
  | inside
  deriving DecidableEq, Repr, Inhabited

namespace Token

/-- How a message names a token. -/
def name : Token → Text
  | .endOfText => "end of file".toList
  | .newline => "newline".toList
  | .operator t | .reserved t => '"' :: t ++ ['"']
  | .redirect _ => "redirection".toList
  | .word => "word".toList

/-- Whether a list of commands ends before the token. -/
def endsList : Token → Bool
  | .endOfText => true
  | .operator t => t ∈ [")", ";;", ";&", ";;&"].map String.toList
  | .reserved t => t ∈ ["do", "done", "elif", "else", "esac", "fi", "then", "\x7d"].map String.toList
  | _ => false

end Token

/-- The words that mean something where a command begins. -/
def reservedWords : List Text :=
  ["!", "case", "do", "done", "elif", "else", "esac", "fi", "for", "if", "in", "then", "until", "while",
    "\x7b", "\x7d"].map String.toList

/-- Those of the extended dialect alone. -/
def extendedWords : List Text := ["[[", "function", "time", "select"].map String.toList

/-- The commands of the shell that no function may be named after, and whose failure ends a script. -/
def specialCommands : List Text :=
  [".", ":", "break", "continue", "eval", "exec", "exit", "export", "local", "readonly", "return", "set",
    "shift", "times", "trap", "unset"].map String.toList

/-- The commands of the extended dialect that make variables, and take arrays. -/
def declarations : List Text :=
  ["declare", "typeset", "local", "export", "readonly"].map String.toList

/-- The text of a word without quotes that names something. -/
def Word.text (w : Word) : Text :=
  w.flatMap fun
    | .plain t | .quoted t => t
    | .parameter _ name none .value => '$' :: name
    | _ => []

/-- A word without a text in front of it that is nothing. -/
def Word.ofRest (t : Text) (w : Word) : Word := if t = [] then w else .plain t :: w

/-- The assignment that a word spells. -/
def Word.assignment? (isExtended : Bool) : Word → Option Assignment
  | .plain t :: w =>
    let name := t.takeWhile isNameChar
    let rest := t.drop name.length
    if !isName name then none
    else
      match rest with
      | '=' :: u => some (.assign name none false (.word (ofRest u w)))
      | '+' :: '=' :: u => if isExtended then some (.assign name none true (.word (ofRest u w))) else none
      | '[' :: u =>
        if isExtended then
          match Word.cut? ']' (.plain u :: w) with
          | some (subscript, .plain ('=' :: v) :: w) =>
            some (.assign name (some subscript) false (.word (ofRest v w)))
          | some (subscript, .plain ('+' :: '=' :: v) :: w) =>
            some (.assign name (some subscript) true (.word (ofRest v w)))
          | _ => none
        else none
      | _ => none
  | _ => none

/-- An element of an array, with its subscript if it has one. -/
def Word.element : Word → Option Word × Word
  | .plain ('[' :: t) :: w =>
    match Word.cut? ']' (.plain t :: w) with
    | some (subscript, .plain ('=' :: v) :: w) => (some subscript, ofRest v w)
    | _ => (none, .plain ('[' :: t) :: w)
  | w => (none, w)

section

variable (inner : ListKind → Parse (Option (Option Command)))

/-- Says that the last token may not stand where it stands. -/
def failAt {α : Type} (expected? : Option Text) : Parse α := do
  let r ← get
  let spelling :=
    match r.token with
    | .word => r.word.text
    | .redirect (.to _ .input) => ['<']
    | .redirect _ => ['>']
    | t => t.name.filter (· ≠ '"')
  Parse.fail (.unexpected r.token.name spelling expected?)

/-- A head of a redirection, whose first character has been read. -/
def readRedirection (descriptor : Option Nat) (c : Char) : Parse Redirection := do
  let isExtended := (← get).isExtended
  if c = '>' then
    if ← Parse.takeIf '>' then return .to descriptor .append
    else if ← Parse.takeIf '|' then return .to descriptor .clobber
    else if ← Parse.takeIf '&' then return .to descriptor .outputTo
    else return .to descriptor .output
  else if ← Parse.takeIf '<' then
    if ← Parse.takeIf '-' then return .document descriptor true
    else if isExtended then
      if ← Parse.takeIf '<' then return .to descriptor .hereText else return .document descriptor false
    else return .document descriptor false
  else if ← Parse.takeIf '&' then return .to descriptor .inputFrom
  else if ← Parse.takeIf '>' then return .to descriptor .readWrite
  else return .to descriptor .input

/-- Blanks and comments, and then a character. -/
def takeVisible : Parse (Option Char) :=
  Parse.loop (fun _ => do
    let c? ← Parse.takeJoined
    match c? with
    | some ' ' | some '\t' => return .inl ()
    | some '#' =>
      let end? ← Parse.loop (fun _ => do
        let d? ← Parse.take
        return if d? = none ∨ d? = some '\n' then .inr d? else .inl ()) Parse.rounds ()
      Parse.giveBack end?
      return .inl ()
    | _ => return .inr c?) Parse.rounds ()

/-- Notes the token. -/
def noteToken (t : Token) : Parse Token := do
  modify fun r => { r with token := t }
  return t

/-- The commands between brackets in a word, and the closing bracket. -/
def readInner (readNext : Parse Token) (hasBracket : Bool) : Parse (Option Command) := do
  let body ← inner .inside
  if hasBracket then
    if (← readNext) ≠ .operator [')'] then failAt (some "\")\"".toList)
  return body.join

/-- The next token, without regard to what is looked out for. -/
def readBareToken (readNext : Parse Token) : Parse Token := do
  let r ← get
  if r.isPushedBack then
    set { r with isPushedBack := false }
    return r.token
  let isExtended := r.isExtended
  let c? ← takeVisible
  let operator (t : String) : Parse Token := noteToken (.operator t.toList)
  match c? with
  | none => noteToken .endOfText
  | some '\n' =>
    Parse.endLine
    noteToken .newline
  | some '&' =>
    if ← Parse.takeIf '&' then operator "&&"
    else if isExtended then
      if ← Parse.takeIf '>' then
        if ← Parse.takeIf '>' then noteToken (.redirect (.to none .appendEverything))
        else noteToken (.redirect (.to none .everything))
      else operator "&"
    else operator "&"
  | some '|' =>
    if ← Parse.takeIf '|' then operator "||"
    else if isExtended then
      if ← Parse.takeIf '&' then operator "|&" else operator "|"
    else operator "|"
  | some ';' =>
    if ← Parse.takeIf ';' then
      if isExtended then
        if ← Parse.takeIf '&' then operator ";;&" else operator ";;"
      else operator ";;"
    else if isExtended then
      if ← Parse.takeIf '&' then operator ";&" else operator ";"
    else operator ";"
  | some '(' => operator "("
  | some ')' => operator ")"
  | _ =>
    let list := readInner inner readNext
    let s ← scan list (wholeWord list Reader.nesting) .word c?
    let w := Word.ofSymbols s.symbols.reverse
    let digits? := if w.isEmpty then some [] else bareText? w
    match s.current, digits? with
    | some c, some t =>
      if (c = '<' ∨ c = '>') ∧ !s.isQuoted ∧ t.all Char.isDigit ∧ (t.length ≤ 1 ∨ isExtended) then
        noteToken (.redirect (← readRedirection (numeral? t) c))
      else
        Parse.giveBack s.current
        modify fun r => { r with word := w, isQuoted := s.isQuoted }
        noteToken .word
    | _, _ =>
      Parse.giveBack s.current
      modify fun r => { r with word := w, isQuoted := s.isQuoted }
      noteToken .word

/-- Reads the documents that the line before has asked for. -/
def readDocuments (readNext : Parse Token) : Parse Unit := do
  let pending := (← get).pending
  modify fun r => { r with pending := [] }
  for p in pending do
    let w ←
      if p.isQuoted then do
        let t ← Parse.loop (fun (t : Text) => do
          if p.dropsTabs then
            let _ ← Parse.takeWhile (· = '\t')
          if ← Parse.takeEndMark p.endMark [] p.endMark then return .inr t.reverse
          let line ← Parse.loop (fun (line : Text) => do
            match ← Parse.take with
            | some '\n' =>
              Parse.endLine
              return .inr ('\n' :: line, true)
            | some c => return .inl (c :: line)
            | none => return .inr (line, false)) Parse.rounds []
          return if line.2 then .inl (line.1 ++ t) else .inr (line.1 ++ t).reverse) Parse.rounds []
        pure [Part.quoted t]
      else do
        let list := readInner inner readNext
        let s ← scan list (wholeWord list Reader.nesting) (.document p.endMark p.dropsTabs) (← Parse.take)
        pure (Word.ofSymbols s.symbols.reverse)
    modify fun r => { r with documents := r.documents.setIfInBounds p.number w }

/-- The next token. Line ends are skipped, reserved words known and aliases replaced as is looked out for. -/
def readToken : Nat → Parse Token
  | 0 => Parse.fail (.other "too deep".toList)
  | n + 1 => do
    let next := readToken n
    let checks := (← get).checks
    Parse.loop (fun (checks : Checks) => do
      let first ← readBareToken inner next
      let token ←
        if checks.skipsLines then
          Parse.loop (fun (t : Token) => do
            if t = .newline then
              readDocuments inner next
              Parse.check .none
              return .inl (← readBareToken inner next)
            else return .inr t) Parse.rounds first
        else pure first
      let r ← get
      let checks := checks.union r.checks
      Parse.check .none
      match token, bareText? r.word with
      | .word, some t =>
        if r.isQuoted then return .inr token
        else if checks.knowsReserved ∧ (t ∈ reservedWords ∨ (r.isExtended ∧ t ∈ extendedWords)) then
          return .inr (← noteToken (.reserved t))
        else if checks.knowsAliases then
          match r.aliases.lookup t with
          | some value =>
            if r.isInUse t then return .inr token
            else
              if value ≠ [] then
                let endsInBlank := value.getLast? = some ' ' || value.getLast? = some '\t'
                modify fun r => { r with sources := ⟨value, some t, endsInBlank⟩ :: r.sources }
              return .inl checks
          | none => return .inr token
        else return .inr token
      | _, _ => return .inr token) Parse.rounds checks

/-- The next token. -/
def nextToken : Parse Token := readToken inner Reader.nesting

/-- Insists on a token. -/
def expect (t : Token) : Parse Unit := do
  if (← nextToken inner) ≠ t then failAt (some t.name)

/-- The list in the body of a command. -/
def readBody : Parse (Option Command) := do return (← inner .body).join

/-- The target of a redirection whose head was the last token. -/
def readTarget (r : Redirection) : Parse Redirect := do
  match r with
  | .document descriptor dropsTabs =>
    Parse.check .endMark
    if (← nextToken inner) ≠ .word then failAt none
    let s ← get
    let number := s.documents.size
    set { s with
      documents := s.documents.push []
      pending := s.pending ++ [Pending.mk number s.word.text dropsTabs s.isQuoted] }
    return .document descriptor number
  | .to descriptor kind =>
    if (← nextToken inner) ≠ .word then failAt none
    return .to descriptor kind (← get).word

/-- Redirections that follow a command. -/
def readRedirects : Parse (List Redirect) := do
  let rs ← Parse.loop (fun (rs : List Redirect) => do
    match ← nextToken inner with
    | .redirect r => return .inl ((← readTarget inner r) :: rs)
    | _ =>
      Parse.pushBack
      return .inr rs) Parse.rounds []
  return rs.reverse

/-- The elements of an array, up to the closing bracket. -/
def readElements : Parse Value := do
  let es ← Parse.loop (fun (es : List (Option Word × Word)) => do
    Parse.check .lines
    match ← nextToken inner with
    | .word => return .inl ((← get).word.element :: es)
    | .operator [')'] => return .inr es
    | _ => failAt none) Parse.rounds []
  return .list es.reverse

/-- What a simple command has been read as, the last part first. -/
structure SimpleParts where
  assignments : List Assignment
  words : List Word
  redirects : List Redirect
  /-- Whether assignments may still come. -/
  isOpen : Bool
  deriving Inhabited

/-- An expression in double round brackets, the first of which have been read. -/
def readExpression : Parse Word := do
  let list := readInner inner (nextToken inner)
  let s ← scan list (wholeWord list Reader.nesting) .arithmetic (← Parse.takeJoined)
  match Word.ofSymbols s.symbols.reverse with
  | [.arithmetic _ w] => return w
  | w => return w

/-- The body of a function, and the function. -/
def readFunction (command : Parse Command) (name : Text) : Parse Command := do
  let r ← get
  if !r.isExtended ∧ (!isName name ∨ name ∈ specialCommands) then
    Parse.fail (.other "Bad function name".toList)
  Parse.check .all
  let line := r.line
  return .define line name (← command)

/-- Goes on with a simple command that begins on a line: takes a part of it, or finds its end. -/
def readSimplePart (command : Parse Command) (line : Nat) (isExtended : Bool) (s : SimpleParts) :
    Parse (SimpleParts ⊕ Command) := do
  Parse.check (if s.isOpen then .aliases else .none)
  let finish : Parse (SimpleParts ⊕ Command) := do
    Parse.pushBack
    return .inr (.simple line s.assignments.reverse s.words.reverse s.redirects.reverse)
  match ← nextToken inner with
  | .word =>
    let r ← get
    let isDeclaration := isExtended && (s.words.getLast?.bind bareText?).any (· ∈ declarations)
    match if s.isOpen ∨ isDeclaration then r.word.assignment? isExtended else none with
    | some (.assign name subscript isAppended (.word [])) =>
      if isExtended ∧ (← Parse.peek) = some '(' then
        let _ ← Parse.take
        let a := Assignment.assign name subscript isAppended (← readElements inner)
        let words := if s.isOpen then s.words else [.plain name] :: s.words
        return .inl { s with assignments := a :: s.assignments, words := words }
      else if s.isOpen then
        return .inl { s with assignments := .assign name subscript isAppended (.word []) :: s.assignments }
      else return .inl { s with words := r.word :: s.words }
    | some a =>
      if s.isOpen then return .inl { s with assignments := a :: s.assignments }
      else return .inl { s with words := r.word :: s.words }
    | none => return .inl { s with words := r.word :: s.words, isOpen := false }
  | .redirect r => return .inl { s with redirects := (← readTarget inner r) :: s.redirects }
  | .operator ['('] =>
    match s.assignments, s.words, s.redirects with
    | [], [name], [] =>
      expect inner (.operator [')'])
      return .inr (← readFunction command name.text)
    | _, _, _ => finish
  | _ => finish

/-- A simple command, or a function. -/
def readSimple (command : Parse Command) : Parse Command := do
  let r ← get
  Parse.loop (readSimplePart inner command r.line r.isExtended) Parse.rounds (SimpleParts.mk [] [] [] true)

/-- The branches of a condition: the first keyword has been read. -/
def readBranches : Nat → Parse Command
  | 0 => Parse.fail (.other "too deep".toList)
  | n + 1 => do
    let condition ← readBody inner
    expect inner (.reserved "then".toList)
    let body ← readBody inner
    match ← nextToken inner with
    | .reserved ['e', 'l', 'i', 'f'] => return .branch condition body (some (← readBranches n))
    | .reserved ['e', 'l', 's', 'e'] => return .branch condition body (← readBody inner)
    | _ =>
      Parse.pushBack
      return .branch condition body none

/-- The patterns of an arm, up to the bracket; the first one is the last word. -/
def readPatterns : Parse (List Word) := do
  let ps ← Parse.loop (fun (ps : List Word) => do
    let ps := (← get).word :: ps
    if (← nextToken inner) = .operator ['|'] then
      let _ ← nextToken inner
      return .inl ps
    else return .inr ps) Parse.rounds []
  if (← get).token ≠ .operator [')'] then failAt (some "\")\"".toList)
  return ps.reverse

/-- How an arm ends: with it, all ends, or the next arm is run, or the next patterns are tried. -/
def armEnd? : Token → Option Char
  | .operator [';', ';'] => some ';'
  | .operator [';', '&'] => some '&'
  | .operator [';', ';', '&'] => some '?'
  | _ => none

/-- The arms of a choice. -/
def readArms : Parse (List (List Word × Option Command × Char)) := do
  let isEnd (t : Token) : Bool := t = .reserved "esac".toList
  let arms ← Parse.loop (fun (arms : List (List Word × Option Command × Char)) => do
    Parse.check .reserved
    let t ← nextToken inner
    if isEnd t then return .inr arms
    else
      if t = .operator ['('] then
        let _ ← nextToken inner
      let patterns ← readPatterns inner
      let body := (← inner .inside).join
      Parse.check .reserved
      let t ← nextToken inner
      if isEnd t then return .inr ((patterns, body, ';') :: arms)
      else
        match armEnd? t with
        | some c => return .inl ((patterns, body, c) :: arms)
        | none => failAt (some "\";;\"".toList)) Parse.rounds []
  return arms.reverse

/-- A loop over words, or over answers, or one that counts. -/
def readFor (line : Nat) (isPick : Bool) : Parse Command := do
  let isExtended := (← get).isExtended
  if !isPick ∧ isExtended ∧ (← Parse.peek) = some ' ' ∧ ((← get).rest.dropWhile (· = ' ')).take 2 = ['(', '('] then
    let _ ← Parse.takeWhile (· = ' ')
    let _ ← Parse.take
    let _ ← Parse.take
    let w ← readExpression inner
    let (first, w) := (Word.cut? ';' w).getD (w, [])
    let (condition, next) := (Word.cut? ';' w).getD (w, [])
    Parse.check .all
    let t ← nextToken inner
    if t = .operator [';'] then
      Parse.check .all
      let _ ← nextToken inner
    if (← get).token ≠ .reserved "do".toList then failAt none
    return .count line first condition next (← readBody inner)
  let t ← nextToken inner
  let r ← get
  let name := ((bareText? r.word).filter isName).getD []
  if t ≠ .word ∨ r.isQuoted ∨ name = [] then
    if isExtended then failAt none else Parse.fail (.other "Bad for loop variable".toList)
  Parse.check .all
  let words ←
    if (← nextToken inner) = .reserved ['i', 'n'] then
      let ws ← Parse.loop (fun (ws : List Word) => do
        match ← nextToken inner with
        | .word => return .inl ((← get).word :: ws)
        | .newline | .operator [';'] => return .inr ws
        | _ => failAt none) Parse.rounds []
      pure (some ws.reverse)
    else
      if (← get).token ≠ .operator [';'] then Parse.pushBack
      pure none
  Parse.check .all
  expect inner (.reserved "do".toList)
  let body ← readBody inner
  return if isPick then .pick line name words body else .each line name words body

/-- The operators of conditions that stand before one word. -/
def isUnaryTest : Text → Bool
  | ['-', c] => "abcdefghknoprstuvwxzGLNORS".toList.contains c
  | _ => false

/-- The operators of conditions that stand between two words. -/
def binaryTests : List Text :=
  ["==", "=", "!=", "=~", "-eq", "-ne", "-lt", "-le", "-gt", "-ge", "-nt", "-ot", "-ef"].map String.toList

/-- A condition that compares, or looks at one word, which has been read. -/
def readComparison : Parse Condition := do
  let r ← get
  let w := r.word
  let bare := if r.isQuoted then none else bareText? w
  let t ← nextToken inner
  let second ← get
  let operator? := if second.isQuoted then none else bareText? second.word
  match t with
  | .word =>
    if bare.any isUnaryTest ∧ operator? ≠ some [']', ']'] ∧ !(operator?.any (· ∈ binaryTests)) then
      return .unary (bare.getD []) second.word
    else
      match operator?.filter (· ∈ binaryTests) with
      | some operator =>
        if operator = ['=', '~'] then
          let c? ← takeVisible
          let list := readInner inner (nextToken inner)
          let s ← scan list (wholeWord list Reader.nesting) .expression c?
          Parse.giveBack s.current
          return .binary w operator (Word.ofSymbols s.symbols.reverse)
        else
          if (← nextToken inner) ≠ .word then failAt none
          return .binary w operator (← get).word
      | none =>
        Parse.pushBack
        return .word w
  | .redirect (.to none .input) =>
    if (← nextToken inner) ≠ .word then failAt none
    return .binary w ['<'] (← get).word
  | .redirect (.to none .output) =>
    if (← nextToken inner) ≠ .word then failAt none
    return .binary w ['>'] (← get).word
  | _ =>
    Parse.pushBack
    return .word w

/-- A condition between double brackets, as deep in brackets as a bound allows. -/
def readCondition : Nat → Parse Condition
  | 0 => Parse.fail (.other "too deep".toList)
  | n + 1 => do
    let skip : Parse Token := do
      Parse.check .lines
      nextToken inner
    let single : Parse Condition := do
      let isNegated ← Parse.loop (fun (isNegated : Bool) => do
        let t ← skip
        let r ← get
        if t = .word ∧ !r.isQuoted ∧ bareText? r.word = some ['!'] then return .inl (!isNegated)
        else return .inr isNegated) Parse.rounds false
      let c ←
        match (← get).token with
        | .operator ['('] =>
          let c ← readCondition n
          if (← skip) ≠ .operator [')'] then failAt none
          pure c
        | .word => readComparison inner
        | _ => failAt none
      return if isNegated then .negated c else c
    let conjunction : Parse Condition := do
      let first ← single
      Parse.loop (fun (c : Condition) => do
        if (← skip) = .operator ['&', '&'] then return .inl (.both c (← single))
        else
          Parse.pushBack
          return .inr c) Parse.rounds first
    let first ← conjunction
    Parse.loop (fun (c : Condition) => do
      if (← skip) = .operator ['|', '|'] then return .inl (.either c (← conjunction))
      else
        Parse.pushBack
        return .inr c) Parse.rounds first

/-- A command with its redirections. -/
def readCommand : Nat → Parse Command
  | 0 => Parse.fail (.other "too deep".toList)
  | n + 1 => do
    let self := readCommand n
    let line := (← get).line
    let t ← nextToken inner
    let isExtended := (← get).isExtended
    let finish (c : Command) : Parse Command := do
      Parse.check .commands
      let rs ← readRedirects inner
      return if rs = [] then c else .redirected line (some c) rs
    match t with
    | .word | .redirect _ =>
      Parse.pushBack
      readSimple inner self
    | .reserved ['i', 'f'] =>
      let c ← readBranches inner Reader.nesting
      expect inner (.reserved "fi".toList)
      finish c
    | .reserved ['w', 'h', 'i', 'l', 'e'] | .reserved ['u', 'n', 't', 'i', 'l'] =>
      let condition ← readBody inner
      expect inner (.reserved "do".toList)
      let body ← readBody inner
      expect inner (.reserved "done".toList)
      finish (.loop (t = .reserved "until".toList) condition body)
    | .reserved ['f', 'o', 'r'] | .reserved ['s', 'e', 'l', 'e', 'c', 't'] =>
      let c ← readFor inner line (t = .reserved "select".toList)
      expect inner (.reserved "done".toList)
      finish c
    | .reserved ['c', 'a', 's', 'e'] =>
      if (← nextToken inner) ≠ .word then failAt (some "word".toList)
      let subject := (← get).word
      Parse.check .all
      expect inner (.reserved ['i', 'n'])
      finish (.choose line subject (← readArms inner))
    | .operator ['('] =>
      if isExtended ∧ (← Parse.peek) = some '(' then
        let _ ← Parse.take
        finish (.evaluate line (← readExpression inner))
      else
        let body ← readBody inner
        expect inner (.operator [')'])
        Parse.check .commands
        return .subshell line body (← readRedirects inner)
    | .reserved ['\x7b'] =>
      let body ← readBody inner
      expect inner (.reserved ['\x7d'])
      finish (.group body)
    | .reserved ['[', '['] =>
      let c ← readCondition inner Reader.nesting
      let t ← nextToken inner
      if t ≠ .word ∨ bareText? (← get).word ≠ some [']', ']'] then failAt none
      finish (.test line c)
    | .reserved ['f', 'u', 'n', 'c', 't', 'i', 'o', 'n'] =>
      if (← nextToken inner) ≠ .word then failAt none
      let name := (← get).word.text
      if (← nextToken inner) = .operator ['('] then expect inner (.operator [')'])
      else Parse.pushBack
      readFunction self name
    | _ => failAt none

/-- Commands joined by pipes, without anything in front of them. -/
def readStages : Parse Command := do
  let command := readCommand inner Reader.nesting
  let first ← command
  let stages ← Parse.loop (fun (stages : List Command) => do
    let t ← nextToken inner
    let joined (c : Command) : Command :=
      if t = .operator ['|', '&'] then .redirected 0 (some c) [.to (some 2) .outputTo [.plain ['1']]] else c
    if t = .operator ['|'] ∨ t = .operator ['|', '&'] then
      Parse.check .all
      let next ← command
      match stages with
      | s :: ss => return .inl (next :: joined s :: ss)
      | [] => return .inr stages
    else
      Parse.pushBack
      return .inr stages) Parse.rounds [first]
  return match stages with
    | [c] => c
    | cs => .pipe cs.reverse

/-- Commands joined by pipes. In front of them may stand what negates them, or, in the extended dialect, what times
them; there they may also stand together, as often as a bound allows. -/
def readPipeline : Nat → Parse Command
  | 0 => Parse.fail (.other "too deep".toList)
  | n + 1 => do
    let isExtended := (← get).isExtended
    match ← nextToken inner with
    | .reserved ['!'] =>
      Parse.check .commands
      return .negated (← if isExtended then readPipeline n else readStages inner)
    | .reserved ['t', 'i', 'm', 'e'] =>
      Parse.check .commands
      let t ← nextToken inner
      let isBrief := t = .word && bareText? (← get).word == some ['-', 'p']
      if isBrief then Parse.check .commands else Parse.pushBack
      let isAlone := (← nextToken inner) ∈ [.endOfText, .newline, .operator [';'], .operator ['&']]
      Parse.pushBack
      if isAlone then return .timed isBrief none
      let c ← readPipeline n
      return .timed isBrief (some c)
    | _ =>
      Parse.pushBack
      readStages inner

/-- Pipelines joined by conditions. -/
def readConditional : Parse Command := do
  let pipeline := readPipeline inner Reader.nesting
  let first ← pipeline
  Parse.loop (fun (c : Command) => do
    match ← nextToken inner with
    | .operator ['&', '&'] =>
      Parse.check .all
      return .inl (.both c (← pipeline))
    | .operator ['|', '|'] =>
      Parse.check .all
      return .inl (.either c (← pipeline))
    | _ =>
      Parse.pushBack
      return .inr c) Parse.rounds first

/-- Commands one after another; the last one comes first. -/
def Command.ofReversed? : List Command → Option Command
  | [] => none
  | [c] => some c
  | cs => some (.sequence cs.reverse)

/-- A list of commands. Nothing is what a line has that the text ends before. -/
def readListOn (kind : ListKind) : Parse (Option (Option Command)) := do
  let isLine := kind = .line
  let checks : Checks := if isLine then .commands else .all
  let documents := readDocuments inner (nextToken inner)
  Parse.loop (fun (s : List Command × Bool) => do
    let (sofar, mayEnd) := s
    let found := Command.ofReversed? sofar
    Parse.check checks
    let line := (← get).line
    match ← nextToken inner with
    | .newline =>
      documents
      return .inr (some found)
    | .endOfText =>
      documents
      Parse.pushBackEnd
      return .inr (if sofar.isEmpty ∧ isLine then none else some found)
    | t =>
      Parse.pushBack
      if !isLine ∧ mayEnd ∧ t.endsList then return .inr (some found)
      let c ← readConditional inner
      let t ← nextToken inner
      let sofar := (if t = .operator ['&'] then .background line c else c) :: sofar
      let found := Command.ofReversed? sofar
      match t with
      | .endOfText =>
        documents
        Parse.pushBackEnd
        return .inr (some found)
      | .newline =>
        Parse.pushBack
        return .inl (sofar, true)
      | .operator ['&'] | .operator [';'] => return .inl (sofar, true)
      | _ =>
        if isLine then failAt none
        Parse.pushBack
        return .inr (some found)) Parse.rounds ([], kind = .inside)

end

/-- A list of commands with lists within, as deep as the bound allows. -/
def readList : Nat → ListKind → Parse (Option (Option Command))
  | 0, _ => Parse.fail (.other "too deep".toList)
  | n + 1, kind => readListOn (readList n) kind

/-- A text with its substitutions, as the word that it would be in a document. -/
def promptWord (t : Text) : Parse Word := do
  let inner := readList Reader.nesting
  let list := readInner inner (nextToken inner)
  Parse.onText t (← get).line do
    let s ← scan list (wholeWord list Reader.nesting) (.document ['\x00'] false) (← Parse.take)
    return Word.ofSymbols s.symbols.reverse

namespace Reader

/-- How deep lists may stand within lists. -/
def depth : Nat := 10000

/-- The commands of the next line; nothing at the end of the text. -/
def readLine (r : Reader) : Except SyntaxError (Option (Option Command) × Reader) :=
  (readList depth .line).run { r with isPushedBack := false, checks := .none, pending := [] }

/-- Whether there is nothing more to read. -/
def isAtEnd (r : Reader) : Bool := r.sources.all fun s => s.rest = []

end Reader

end JavacLauncher.Shell
