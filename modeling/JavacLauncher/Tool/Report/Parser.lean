import JavacLauncher.Tool.Report.Token

/-!
# Reading report scripts

Terms are read by how tightly their operators bind; texts side by side are put together. In a list of texts to
be written, the sign for more-than names a file unless brackets stand around it.
-/

namespace JavacLauncher.Tool.Report

abbrev Reading := StateT (List (Token × Nat)) (Except (Nat × Text))

namespace Reading

def peek? : Reading (Option Token) := do return (← get).head?.map (·.1)

def skip : Reading Unit := modify List.tail

/-- The line that the reading has come to. -/
def line : Reading Nat := do return ((← get).head?.map (·.2)).getD 0

/-- Something else should stand here. -/
def unexpected {α : Type} (lastLine : Nat) : Reading α := do
  match ← get with
  | (t, n) :: _ => throw (n, "syntax error at or near ".toList ++ t.shown)
  | [] => throw (lastLine, "missing \x7d near end of file".toList)

def isSign (s : String) : Reading Bool := do
  match ← peek? with
  | some (.sign t) => return s = t
  | _ => return false

def isKeyword (s : String) : Reading Bool := do
  match ← peek? with
  | some (.keyword t) => return s = t
  | _ => return false

/-- Reads a sign if it comes next. -/
def trySign (s : String) : Reading Bool := do
  if ← isSign s then
    skip
    return true
  else return false

def skipNewlines : Reading Unit := modify fun ts => ts.dropWhile fun t => t.1 matches .newline

/-- Reads past newlines and semicolons. -/
def skipEnds : Reading Unit := modify fun ts => ts.dropWhile fun t =>
  match t.1 with
  | .newline | .sign ";" => true
  | _ => false

end Reading

/-- What may stand in a term. -/
structure Mode where
  /-- The word `in` ends the term. -/
  endsAtIn : Bool
  /-- The sign for more-than ends the term. -/
  endsAtGreater : Bool
  deriving Inhabited

/-- Whether something may be assigned to a term. -/
def Term.isPlace : Term → Bool
  | .variable_ _ | .field _ | .element _ _ => true
  | _ => false

/-- Operators that change a place. -/
def updates : List (String × Arithmetic) :=
  [("+=", .plus), ("-=", .minus), ("*=", .times), ("/=", .over), ("%=", .modulo), ("^=", .power), ("**=", .power)]

def comparisons : List (String × Comparison) :=
  [("<", .less), ("<=", .lessEqual), ("==", .equal), ("!=", .notEqual), (">", .greater), (">=", .greaterEqual)]

/-- Whether a token may begin what is put together with the text in front of it. -/
def beginsOperand (m : Mode) : Token → Bool
  | .number _ | .text _ | .regex _ | .name _ | .called _ | .known _ => true
  | .sign s => ["(", "$", "!", "-", "+", "++", "--"].contains s && s ≠ "-" && s ≠ "+"
  | .keyword "in" => !m.endsAtIn && false
  | _ => false

variable (lastLine : Nat)

/-- Reads a sign that must come next. -/
def insist (s : String) : Reading Unit := do
  if !(← Reading.trySign s) then
    if s = ")" then
      match ← get with
      | (t, n) :: _ => throw (n, "missing ) near ".toList ++ t.shown)
      | [] => Reading.unexpected lastLine
    else Reading.unexpected lastLine

/-- Reads operands between operators of one kind, from the left. -/
def leftwards (operand : Reading Term) (op? : Reading (Option (Term → Term → Term))) : Nat → Term → Reading Term
  | 0, a => return a
  | n + 1, a => do
    match ← op? with
    | none => return a
    | some f => do
      let b ← operand
      leftwards operand op? n (f a b)

/-- The operators of a table, if one comes next. -/
def signOf? {α : Type} (table : List (String × α)) : Reading (Option α) := do
  match ← Reading.peek? with
  | some (.sign s) =>
    match table.lookup s with
    | some f => do
      Reading.skip
      return some f
    | none => return none
  | _ => return none

mutual

/-- Reads a term. -/
def readTerm (n : Nat) (m : Mode) : Reading Term :=
  match n with
  | 0 => Reading.unexpected lastLine
  | n + 1 => do
    let a ← readChoice n m
    if !a.isPlace then return a
    else if ← Reading.trySign "=" then
      Reading.skipNewlines
      return .assign a (← readTerm n m)
    else
      match ← signOf? updates with
      | some op => return .update op a (← readTerm n m)
      | none => return a

def readChoice (n : Nat) (m : Mode) : Reading Term :=
  match n with
  | 0 => Reading.unexpected lastLine
  | n + 1 => do
    let c ← readOr n m
    if ← Reading.trySign "?" then
      Reading.skipNewlines
      let yes ← readTerm n m
      Reading.skipNewlines
      insist lastLine ":"
      Reading.skipNewlines
      return .choice c yes (← readTerm n m)
    else return c

def readOr (n : Nat) (m : Mode) : Reading Term :=
  match n with
  | 0 => Reading.unexpected lastLine
  | n + 1 => do
    let first ← readAnd n m
    leftwards (readAnd n m) (do
      if ← Reading.trySign "||" then
        Reading.skipNewlines
        return some .or
      else return none) n first

def readAnd (n : Nat) (m : Mode) : Reading Term :=
  match n with
  | 0 => Reading.unexpected lastLine
  | n + 1 => do
    let first ← readIn n m
    leftwards (readIn n m) (do
      if ← Reading.trySign "&&" then
        Reading.skipNewlines
        return some .and
      else return none) n first

def readIn (n : Nat) (m : Mode) : Reading Term :=
  match n with
  | 0 => Reading.unexpected lastLine
  | n + 1 => do
    let a ← readFits n m
    if !m.endsAtIn && (← Reading.isKeyword "in") then
      Reading.skip
      match ← Reading.peek? with
      | some (.name array) =>
        Reading.skip
        return .isIn (match a with
          | .group ts => ts
          | a => [a]) array
      | _ => Reading.unexpected lastLine
    else return a

def readFits (n : Nat) (m : Mode) : Reading Term :=
  match n with
  | 0 => Reading.unexpected lastLine
  | n + 1 => do
    let first ← readComparison n m
    leftwards (readComparison n m) (do
      if ← Reading.trySign "~" then return some (.fits false)
      else if ← Reading.trySign "!~" then return some (.fits true)
      else return none) n first

def readComparison (n : Nat) (m : Mode) : Reading Term :=
  match n with
  | 0 => Reading.unexpected lastLine
  | n + 1 => do
    let a ← readPiped n m
    if m.endsAtGreater && (← Reading.isSign ">") then return a
    else
      match ← signOf? comparisons with
      | some op => return .comparison op a (← readPiped n m)
      | none => return a

/-- Reads a term from whose output records may be read. -/
def readPiped (n : Nat) (m : Mode) : Reading Term :=
  match n with
  | 0 => Reading.unexpected lastLine
  | n + 1 => do
    let a ← readConcatenation n m
    readPipes n a

/-- Reads as many readings of records as follow a command. -/
def readPipes (n : Nat) (a : Term) : Reading Term :=
  match n with
  | 0 => return a
  | n + 1 => do
    match ← get with
    | (.sign "|", _) :: (.keyword "getline", _) :: rest =>
      set rest
      let place? ← readPlace? n
      readPipes n (.recordFrom a place?)
    | _ => return a

def readConcatenation (n : Nat) (m : Mode) : Reading Term :=
  match n with
  | 0 => Reading.unexpected lastLine
  | n + 1 => do
    let first ← readSum n m
    leftwards (readSum n m) (do
      match ← Reading.peek? with
      | some t => return if beginsOperand m t then some .concatenation else none
      | none => return none) n first

def readSum (n : Nat) (m : Mode) : Reading Term :=
  match n with
  | 0 => Reading.unexpected lastLine
  | n + 1 => do
    let first ← readProduct n m
    leftwards (readProduct n m) (do
      return (← signOf? [("+", Arithmetic.plus), ("-", .minus)]).map Term.arithmetic) n first

def readProduct (n : Nat) (m : Mode) : Reading Term :=
  match n with
  | 0 => Reading.unexpected lastLine
  | n + 1 => do
    let first ← readUnary n m
    leftwards (readUnary n m) (do
      return (← signOf? [("*", Arithmetic.times), ("/", .over), ("%", .modulo)]).map Term.arithmetic) n first

def readUnary (n : Nat) (m : Mode) : Reading Term :=
  match n with
  | 0 => Reading.unexpected lastLine
  | n + 1 => do
    if ← Reading.trySign "!" then return .not (← readUnary n m)
    else if ← Reading.trySign "-" then return .negative (← readUnary n m)
    else if ← Reading.trySign "+" then return .positive (← readUnary n m)
    else readPower n m

def readPower (n : Nat) (m : Mode) : Reading Term :=
  match n with
  | 0 => Reading.unexpected lastLine
  | n + 1 => do
    let a ← readStepped n m
    if (← Reading.trySign "^") || (← Reading.isSign "**") then
      let _ ← Reading.trySign "**"
      return .arithmetic .power a (← readUnary n m)
    else return a

/-- Reads a value that may be counted up or down behind it. -/
def readStepped (n : Nat) (m : Mode) : Reading Term :=
  match n with
  | 0 => Reading.unexpected lastLine
  | n + 1 => do
    let a ← readValue n m
    if !a.isPlace then return a
    else
      match ← signOf? [("++", (1 : Int)), ("--", -1)] with
      | some k => return .step false k a
      | none => return a

/-- Reads terms with commas between them, up to a closing sign. -/
def readTerms (n : Nat) (close : String) : Reading (List Term) :=
  match n with
  | 0 => Reading.unexpected lastLine
  | n + 1 => do
    Reading.skipNewlines
    let a ← readTerm n ⟨false, false⟩
    Reading.skipNewlines
    if ← Reading.trySign "," then return a :: (← readTerms n close)
    else
      insist lastLine close
      return [a]

/-- Reads a value. -/
def readValue (n : Nat) (m : Mode) : Reading Term :=
  match n with
  | 0 => Reading.unexpected lastLine
  | n + 1 => do
    match ← get with
    | (.number x, _) :: rest =>
      set rest
      return .number x
    | (.text t, _) :: rest =>
      set rest
      return .text t
    | (.regex t, _) :: rest =>
      set rest
      return .regex t
    | (.sign "(", _) :: rest =>
      set rest
      match ← readTerms n ")" with
      | [a] =>
        -- A place in brackets is still one.
        return a
      | ts => return .group ts
    | (.sign "$", _) :: rest =>
      set rest
      match ← signOf? [("++", (1 : Int)), ("--", -1)] with
      | some k => return .field (.step true k (← readValue n m))
      | none =>
        if ← Reading.trySign "-" then return .field (.negative (← readValue n m))
        else return .field (← readValue n m)
    | (.sign "++", _) :: rest =>
      set rest
      return .step true 1 (← readValue n m)
    | (.sign "--", _) :: rest =>
      set rest
      return .step true (-1) (← readValue n m)
    | (.sign "-", _) :: rest =>
      set rest
      return .negative (← readValue n m)
    | (.name t, _) :: (.sign "[", _) :: rest =>
      set rest
      return .element t (← readTerms n "]")
    | (.name t, _) :: rest =>
      set rest
      return .variable_ t
    | (.called t, _) :: (.sign "(", _) :: rest =>
      set rest
      if ← Reading.trySign ")" then return .call t []
      else return .call t (← readTerms n ")")
    | (.known t, line) :: rest =>
      set rest
      let isBare := !(← Reading.isSign "(")
      let args ←
        if isBare then pure []
        else do
          Reading.skip
          if ← Reading.trySign ")" then pure [] else readTerms n ")"
      match Token.functions.lookup (String.ofList t) with
      | some (least, most) =>
        if args.length < least ∨ args.length > most then
          throw (line, "wrong number of arguments in call to ".toList ++ t)
        return .known t args
      | none => Reading.unexpected lastLine
    | (.keyword "getline", _) :: rest =>
      set rest
      let place? ← readPlace? n
      if ← Reading.trySign "<" then return .recordOf (← readValue n m) place?
      else return .record place?
    | _ => Reading.unexpected lastLine

/-- Reads a place if one comes next. -/
def readPlace? (n : Nat) : Reading (Option Term) :=
  match n with
  | 0 => return none
  | n + 1 => do
    match ← Reading.peek? with
    | some (.name _) | some (.sign "$") => return some (← readValue n ⟨false, false⟩)
    | _ => return none

end

/-- Reads terms with commas between them, to be written. -/
def readList : Nat → Reading (List Term)
  | 0 => return []
  | n + 1 => do
    match ← Reading.peek? with
    | none | some .newline | some (.sign ";") | some (.sign "\x7d") | some (.sign ">") | some (.sign ">>") | some (.sign "|") =>
      return []
    | _ =>
      let a ← readTerm lastLine (n + 1) ⟨false, true⟩
      if ← Reading.trySign "," then
        Reading.skipNewlines
        return a :: (← readList n)
      else
        match a with
        | .group ts => return ts
        | a => return [a]

/-- Reads where something is written. -/
def readSink? (n : Nat) : Reading (Option Sink) := do
  match ← signOf? [(">", some false), (">>", some true), ("|", none)] with
  | none => return none
  | some (some isAppended) => return some (.file isAppended (← readConcatenation lastLine n ⟨false, true⟩))
  | some none => return some (.command (← readConcatenation lastLine n ⟨false, true⟩))

/-- Reads the end of a statement. -/
def readEnd : Reading Unit := do
  match ← Reading.peek? with
  | some .newline | some (.sign ";") => Reading.skip
  | some (.sign "\x7d") => pure ()
  | none => pure ()
  | _ => Reading.unexpected lastLine

/-- Reads a statement that can stand in the head of a loop. -/
def readSimple (n : Nat) : Reading Statement := do
  match ← Reading.peek? with
  | some (.keyword "print") =>
    Reading.skip
    let ts ← readList lastLine n
    return .print ts (← readSink? lastLine n)
  | some (.keyword "printf") =>
    Reading.skip
    let ts ← readList lastLine n
    if ts = [] then Reading.unexpected lastLine
    return .printf ts (← readSink? lastLine n)
  | some (.keyword "delete") =>
    Reading.skip
    match ← get with
    | (.name t, _) :: (.sign "[", _) :: rest =>
      set rest
      return .delete t (some (← readTerms lastLine n "]"))
    | (.name t, _) :: rest =>
      set rest
      return .delete t none
    | _ => Reading.unexpected lastLine
  | _ => return .term (← readTerm lastLine n ⟨false, false⟩)

mutual

/-- Reads a statement. -/
def readStatement (n : Nat) : Reading Statement :=
  match n with
  | 0 => Reading.unexpected lastLine
  | n + 1 => do
    match ← Reading.peek? with
    | some (.sign ";") =>
      Reading.skip
      return .nothing
    | some (.sign "\x7b") =>
      let b ← readBlock n
      return b
    | some (.keyword "if") =>
      Reading.skip
      insist lastLine "("
      let c ← readTerm lastLine (n + 1) ⟨false, false⟩
      insist lastLine ")"
      Reading.skipNewlines
      let yes ← readStatement n
      let saved ← get
      Reading.skipEnds
      if ← Reading.isKeyword "else" then
        Reading.skip
        Reading.skipNewlines
        return .when_ c yes (← readStatement n)
      else
        set saved
        return .when_ c yes .nothing
    | some (.keyword "while") =>
      Reading.skip
      insist lastLine "("
      let c ← readTerm lastLine (n + 1) ⟨false, false⟩
      insist lastLine ")"
      if ← Reading.trySign ";" then return .while_ c .nothing
      else
        Reading.skipNewlines
        return .while_ c (← readStatement n)
    | some (.keyword "do") =>
      Reading.skip
      Reading.skipNewlines
      let body ← readStatement n
      Reading.skipEnds
      if !(← Reading.isKeyword "while") then Reading.unexpected lastLine
      Reading.skip
      insist lastLine "("
      let c ← readTerm lastLine (n + 1) ⟨false, false⟩
      insist lastLine ")"
      readEnd lastLine
      return .doWhile body c
    | some (.keyword "for") =>
      Reading.skip
      insist lastLine "("
      match ← get with
      | (.name k, _) :: (.keyword "in", _) :: (.name a, _) :: (.sign ")", _) :: rest =>
        set rest
        Reading.skipNewlines
        return .forIn_ k a (← readStatement n)
      | _ =>
        let first ← if ← Reading.isSign ";" then pure .nothing else readSimple lastLine (n + 1)
        insist lastLine ";"
        Reading.skipNewlines
        let c? ←
          if ← Reading.isSign ";" then pure none
          else do pure (some (← readTerm lastLine (n + 1) ⟨false, false⟩))
        insist lastLine ";"
        Reading.skipNewlines
        let after ← if ← Reading.isSign ")" then pure .nothing else readSimple lastLine (n + 1)
        insist lastLine ")"
        if ← Reading.trySign ";" then return .for_ first c? after .nothing
        else
          Reading.skipNewlines
          return .for_ first c? after (← readStatement n)
    | some (.keyword "break") => bare .break_
    | some (.keyword "continue") => bare .continue_
    | some (.keyword "next") => bare .next
    | some (.keyword "nextfile") => bare .nextFile
    | some (.keyword "exit") =>
      Reading.skip
      let value? ← value?
      readEnd lastLine
      return .exit_ value?
    | some (.keyword "return") =>
      Reading.skip
      let value? ← value?
      readEnd lastLine
      return .return_ value?
    | _ =>
      let s ← readSimple lastLine (n + 1)
      readEnd lastLine
      return s
where
  bare (s : Statement) : Reading Statement := do
    Reading.skip
    readEnd lastLine
    return s
  value? : Reading (Option Term) := do
    match ← Reading.peek? with
    | none | some .newline | some (.sign ";") | some (.sign "\x7d") => return none
    | _ => return some (← readTerm lastLine (n + 1) ⟨false, false⟩)

/-- Reads a block. -/
def readBlock (n : Nat) : Reading Statement :=
  match n with
  | 0 => Reading.unexpected lastLine
  | n + 1 => do
    insist lastLine "\x7b"
    let body ← readStatements n
    insist lastLine "\x7d"
    return .block body

/-- Reads statements up to the end of their block. -/
def readStatements (n : Nat) : Reading (List Statement) :=
  match n with
  | 0 => Reading.unexpected lastLine
  | n + 1 => do
    Reading.skipEnds
    if ← Reading.isSign "\x7d" then return []
    else if (← get).isEmpty then Reading.unexpected lastLine
    else
      let s ← readStatement n
      return s :: (← readStatements n)

end

/-- Reads names with commas between them, up to a closing bracket. -/
def readParameters : Nat → Reading (List Text)
  | 0 => Reading.unexpected lastLine
  | n + 1 => do
    Reading.skipNewlines
    match ← Reading.peek? with
    | some (.name t) =>
      Reading.skip
      Reading.skipNewlines
      if ← Reading.trySign "," then return t :: (← readParameters n)
      else
        insist lastLine ")"
        return [t]
    | _ =>
      insist lastLine ")"
      return []

/-- Reads a rule or a function. -/
def readItem (n : Nat) (s : Script) : Reading Script := do
  let size := n
  let rule (p : Pattern) : Reading Script := do
    if ← Reading.isSign "\x7b" then
      let b ← readBlock lastLine size
      return { s with rules := ⟨p, some b⟩ :: s.rules }
    else
      match p with
      | .first | .last => Reading.unexpected lastLine
      | p => return { s with rules := ⟨p, none⟩ :: s.rules }
  match ← Reading.peek? with
  | some (.keyword "BEGIN") =>
    Reading.skip
    rule .first
  | some (.keyword "END") =>
    Reading.skip
    rule .last
  | some (.keyword "function") | some (.keyword "func") =>
    Reading.skip
    match ← Reading.peek? with
    | some (.name t) | some (.called t) =>
      Reading.skip
      insist lastLine "("
      let ps ← readParameters lastLine size
      Reading.skipNewlines
      let b ← readBlock lastLine size
      return { s with functions := ⟨t, ps, b⟩ :: s.functions }
    | _ => Reading.unexpected lastLine
  | some (.sign "\x7b") => rule .always
  | _ =>
    let t ← readTerm lastLine size ⟨false, false⟩
    if ← Reading.trySign "," then
      Reading.skipNewlines
      let u ← readTerm lastLine size ⟨false, false⟩
      rule (.range t u)
    else rule (.term t)

/-- Reads a script. -/
def readItems (size : Nat) : Nat → Script → Reading Script
  | 0, s => return s
  | n + 1, s => do
    Reading.skipEnds
    if (← get).isEmpty then return s
    else
      if ← Reading.isSign "\x7d" then
        throw (← Reading.line, "extra '\x7d'".toList)
      let s ← readItem lastLine size s
      match ← Reading.peek? with
      | none | some .newline | some (.sign ";") | some (.sign "\x7b") | some (.sign "\x7d") => readItems size n s
      | _ =>
        match s.rules with
        | ⟨_, none⟩ :: _ => Reading.unexpected lastLine
        | _ => readItems size n s

/-- The functions that a term or statement calls, from the tokens of a script. -/
def calledNames (ts : List (Token × Nat)) : List Text :=
  ts.filterMap fun t => match t.1 with
    | .called n => some n
    | _ => none

/-- The script that a text writes, or what is wrong in which line. -/
def Script.ofText (t : Text) : Except (Nat × Text) Script := do
  let t := if t.getLast? = some '\n' then t else t ++ ['\n']
  let ts ← Token.readAll (t.length + 1) 1 none t []
  let lastLine := t.count '\n' + 1
  let size := 20 * ts.length + 40
  let (s, _) ← (readItems lastLine size (ts.length + 1) ⟨[], []⟩).run ts
  match (calledNames ts).find? fun n => !s.functions.any fun f => f.name = n with
  | some n => throw (lastLine, "function ".toList ++ n ++ " never defined".toList)
  | none => return ⟨s.rules.reverse, s.functions⟩

end JavacLauncher.Tool.Report
