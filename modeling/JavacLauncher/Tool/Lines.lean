import JavacLauncher.Text.Kind
import JavacLauncher.Tool.Basic

/-!
# Tools that show files, or parts of them

Lines are counted from 1. What a tool has read of a file and not used is there for whoever reads next; of a
pipe whole blocks are gone.
-/

namespace JavacLauncher.Tool

/-! ## Numbers with units -/

/-- What the letters behind a number multiply it by. -/
def unit? (t : Text) : Option Nat :=
  let power (base : Nat) (c : Char) : Option Nat :=
    ("KMGTPE".toList.findIdx? (· = c.toUpper)).map fun i => Nat.pow base (i + 1)
  match t with
  | [] => some 1
  | ['b'] => some 512
  | [c] => if c = 'B' then none else power 1024 c
  | [c, 'B'] => power 1000 c
  | [c, 'i', 'B'] => power 1024 c
  | _ => none

/-- The value of a number with a unit. -/
def sized? (t : Text) : Option Nat :=
  let digits := t.takeWhile Char.isDigit
  if digits = [] then none
  else (unit? (t.drop digits.length)).map fun u => Nat.ofDigitChars 10 digits 0 * u

/-! ## Whole files -/

/-- A character in a form that can be seen. -/
def visible (showsTabs : Bool) (c : Char) : Text :=
  let n := c.toNat
  let low (n : Nat) : Text := if n < 32 then ['^', Char.ofNat (n + 64)] else if n = 127 then "^?".toList else [Char.ofNat n]
  if c = '\n' then [c]
  else if c = '\t' then (if showsTabs then "^I".toList else [c])
  else if n ≥ 128 then 'M' :: '-' :: low (n - 128)
  else low n

/-- A number in front of a line. -/
def lineNumber (n : Nat) : Text :=
  let ds := Text.ofNat n
  List.replicate (6 - ds.length) ' ' ++ ds

/-- Lines as `cat` shows them; how many have been numbered, and whether the last one was empty. -/
def shownLines (o : Parsed) : List Text → Nat → Bool → List Text → List Text × Nat × Bool
  | [], n, wasEmpty, shown => (shown.reverse, n, wasEmpty)
  | l :: ls, n, wasEmpty, shown =>
    let isEmpty := l = ['\n']
    if isEmpty ∧ wasEmpty ∧ o.has "s" then shownLines o ls n true shown
    else
      let isNumbered := if o.has "b" then !isEmpty else o.has "n"
      let n' := if isNumbered then n + 1 else n
      let front := if isNumbered then lineNumber n' ++ ['\t'] else []
      let body := if o.has "v" then l.flatMap (visible (o.has "T"))
        else if o.has "T" then l.flatMap fun c => if c = '\t' then "^I".toList else [c]
        else l
      let body := if o.has "E" ∧ l.getLast? = some '\n' then body.dropLast ++ ['$', '\n'] else body
      shownLines o ls n' isEmpty ((front ++ body) :: shown)

/-- The spellings of several options at once. -/
def spread (table : List (String × List String)) (p : Parsed) : Parsed :=
  { p with options := p.options.flatMap fun o =>
      match table.lookup o.1 with
      | some names => names.map fun n => (n, none)
      | none => [o] }

/-- Whether reading a file would read what the tool itself writes there. -/
def readsOwnOutput (file : Text) : Work Bool := do
  let p ← process
  let m ← act get
  match (p.stream? 1).bind m.stream? with
  | some (.file out offset access) =>
    let number? : Option Nat :=
      if file = ['-'] then
        match (p.stream? 0).bind m.stream? with
        | some (.file n _ _) => some n
        | _ => none
      else (m.tree.resolve true p.standpoint (Process.pathOf file)).toOption.map (·.2)
    let size :=
      match (m.tree.node? out).map Node.kind with
      | some (.file content) => content.length
      | _ => 0
    return number? = some out && (if access.appends then size > 0 else offset > 0)
  | _ => return false

def cat : Body := fun args => do
  let p ← parse ⟨"benstuvAET",
    [("number-nonblank", "b", .nothing), ("number", "n", .nothing), ("squeeze-blank", "s", .nothing),
      ("show-nonprinting", "v", .nothing), ("show-ends", "E", .nothing), ("show-tabs", "T", .nothing),
      ("show-all", "A", .nothing)], 1, false⟩ args
  let o := spread [("A", ["v", "E", "T"]), ("e", ["v", "E"]), ("t", ["v", "T"])] p
  let isPlain := o.options.all fun e => e.1 = "u"
  let mut count := 0
  let mut wasEmpty := false
  let mut status := 0
  for file in if o.operands = [] then [['-']] else o.operands do
    if ← readsOwnOutput file then
      complain (quoteName file ++ ": input file is output file".toList)
      status := 1
    else
      match ← contentOf file with
      | .error e =>
        complainOf file e
        status := 1
      | .ok t =>
        if isPlain then sayNow t
        else
          let (ls, n, e) := shownLines o (piecesWith '\n' t) count wasEmpty []
          count := n
          wasEmpty := e
          sayNow ls.flatten
  endWith status

def tac : Body := fun args => do
  let p ← parse ⟨"brs:", [("before", "b", .nothing), ("regex", "r", .nothing), ("separator", "s", .value)], 1, false⟩ args
  let ending := match p.value? "s" with
    | some (c :: _) => c
    | _ => '\n'
  eachContent p.operands fun _ t => say (piecesWith ending t).reverse.flatten

def rev : Body := fun args => do
  let p ← parse ⟨"0", [("zero", "0", .nothing)], 1, false⟩ args
  eachContent p.operands fun _ t => do
    for l in piecesWith '\n' t do
      say (if l.getLast? = some '\n' then l.dropLast.reverse ++ ['\n'] else l.reverse)

def nl : Body := fun args => do
  let p ← parse ⟨"b:d:f:h:i:l:n:ps:v:w:", [("body-numbering", "b", .value), ("number-width", "w", .value),
    ("number-separator", "s", .value), ("starting-line-number", "v", .value), ("line-increment", "i", .value),
    ("number-format", "n", .value)], 1, false⟩ args
  let (t, status) ← allContent p.operands
  let style := (p.value? "b").getD ['t']
  let width := ((p.value? "w").bind sized?).getD 6
  let separator := (p.value? "s").getD ['\t']
  let step := ((p.value? "i").bind sized?).getD 1
  let mut n := ((p.value? "v").bind sized?).getD 1
  for l in linesOf '\n' t do
    if style = ['a'] ∨ (style = ['t'] ∧ l ≠ []) then
      let ds := Text.ofNat n
      let blanks := List.replicate (width - ds.length) ' '
      let shown := match p.value? "n" with
        | some ['l', 'n'] => ds ++ blanks
        | some ['r', 'z'] => List.replicate (width - ds.length) '0' ++ ds
        | _ => blanks ++ ds
      sayLine (shown ++ separator ++ l)
      n := n + step
    else sayLine (List.replicate (width + separator.length) ' ' ++ l)
  endWith status

/-- A line cut into pieces of a width, at blanks if that is asked for. -/
def foldedLine (width : Nat) (atBlanks : Bool) : Nat → Text → List Text
  | 0, l => [l]
  | n + 1, l =>
    if l.length ≤ width then [l]
    else
      let front := l.take width
      let back := (front.reverse.dropWhile fun c => c ≠ ' ' && c ≠ '\t').length
      let k := if atBlanks ∧ back > 0 then back else width
      l.take k :: foldedLine width atBlanks n (l.drop k)

def fold : Body := fun args => do
  let p ← parse ⟨"bsw:0123456789", [("width", "w", .value), ("spaces", "s", .nothing), ("bytes", "b", .nothing)], 1, false⟩ args
  let width ←
    match p.value? "w" with
    | some t =>
      match (sized? t).filter (· > 0) with
      | some n => pure n
      | none => fail 1 ("invalid number of columns: ".toList ++ quoteArgument t)
    | none =>
      let ds := p.options.filterMap fun o => o.1.toList.head?.filter Char.isDigit
      pure (if ds = [] then 80 else Nat.ofDigitChars 10 ds 0)
  eachContent p.operands fun _ t => do
    let pieces := t.splitOn '\n'
    say (['\n'].intercalate (pieces.map fun l => ['\n'].intercalate (foldedLine (max width 1) (p.has "s") l.length l)))

/-! ## The first and the last lines -/

/-- How `head` and `tail` are called the old way: `-3` and the like in front. -/
def oldCount (args : List Text) : Work (List Text) := do
  match args with
  | ('-' :: c :: t) :: rest =>
    if c.isDigit then
      let digits := (c :: t).takeWhile Char.isDigit
      let letters := (c :: t).drop digits.length
      let mut unit := 'n'
      let mut factor : Text := []
      let mut extra : List Text := []
      for l in letters do
        match l with
        | 'c' => unit := 'c'
        | 'l' | 'n' => unit := 'n'
        | 'b' | 'k' | 'm' =>
          unit := 'c'
          factor := [l]
        | 'q' | 'v' | 'z' | 'f' => extra := extra ++ [['-', l]]
        | l => misuse 1 ("invalid trailing option -- ".toList ++ [l])
      return ['-', unit] :: (digits ++ factor) :: extra ++ rest
    else return args
  | _ => return args

/-- A count with its sign, if it has one. -/
def signedCount (what : String) (t : Text) : Work (Option Char × Nat) := do
  let (sign?, digits) :=
    match t with
    | '-' :: t => (some '-', t)
    | '+' :: t => (some '+', t)
    | t => (none, t)
  match sized? digits with
  | some n => return (sign?, n)
  | none => fail 1 ("invalid number of ".toList ++ what.toList ++ ": ".toList ++ quoteArgument t)

/-- What is read, and how much of it a tool uses, of a file or standard input. What is not used is given
back if it can be. -/
def contentUsed (file : Text) (used : Text → Nat) : Work (Except SystemError Text) := do
  let p ← process
  if file = ['-'] then
    match p.stream? 0 with
    | none => return .error .badDescriptor
    | some n =>
      match ← act (Machine.read n none) with
      | .error e => return .error e
      | .ok bs =>
        let t := Octets.ofBytes bs
        let k := used t
        let m ← act get
        let kept :=
          match m.stream? n with
          | some (.file _ _ _) => k
          | _ => (k + 8191) / 8192 * 8192
        act (Machine.unread n (bs.drop kept))
        return .ok t
  else contentOf file

/-- How much the first lines, or bytes, take up; with a minus all but the last ones. -/
def frontSize (ending : Char) (isBytes isAllBut : Bool) (n : Nat) (t : Text) : Nat :=
  if isBytes then if isAllBut then t.length - n else min n t.length
  else
    let ls := piecesWith ending t
    let ls := if isAllBut then ls.take (ls.length - n) else ls.take n
    ls.foldl (fun k l => k + l.length) 0

/-- The name of a file above its lines. -/
def header (file : Text) (isFirst : Bool) : Text :=
  (if isFirst then [] else ['\n']) ++ "==> ".toList ++
    (if file = ['-'] then "standard input".toList else quoteNothing file) ++ " <==\n".toList
where
  quoteNothing (t : Text) : Text := t

/-- Whether the files' names are shown. -/
def showsHeaders (p : Parsed) (files : List Text) : Bool :=
  match p.last? ["q", "v"] with
  | some o => o = "v"
  | none => files.length > 1

def head : Body := fun args => do
  let p ← parse ⟨"c:n:qvz0123456789", [("bytes", "c", .value), ("lines", "n", .value), ("quiet", "q", .nothing),
    ("silent", "q", .nothing), ("verbose", "v", .nothing), ("zero-terminated", "z", .nothing)], 1, false⟩
    (← oldCount args)
  let isBytes := p.last? ["c", "n"] = some "c"
  let (sign?, n) ←
    match p.last? ["c", "n"] with
    | some o => signedCount (if isBytes then "bytes" else "lines") ((p.value? o).getD [])
    | none => pure (none, 10)
  let ending := if p.has "z" then '\x00' else '\n'
  let files := if p.operands = [] then [['-']] else p.operands
  let mut isFirst := true
  let mut status := 0
  for file in files do
    let size := frontSize ending isBytes (sign? = some '-') n
    match ← contentUsed file size with
    | .ok t =>
      if showsHeaders p files then say (header file isFirst)
      isFirst := false
      say (t.take (size t))
    | .error e =>
      if e = .isDirectory then
        if showsHeaders p files then say (header file isFirst)
        isFirst := false
        complain ("error reading ".toList ++ inShellQuotes file ++ ": ".toList ++ describe e)
      else complain ("cannot open ".toList ++ inShellQuotes file ++ " for reading: ".toList ++ describe e)
      status := 1
  if status ≠ 0 then
    flush
    stop status

/-- The last lines, or bytes; with a plus all from that one on. -/
def backPart (ending : Char) (isBytes isFrom : Bool) (n : Nat) (t : Text) : Text :=
  if isBytes then if isFrom then t.drop (n - 1) else t.drop (t.length - n)
  else
    let ls := piecesWith ending t
    (if isFrom then ls.drop (n - 1) else ls.drop (ls.length - n)).flatten

def tail : Body := fun args => do
  let args ←
    match args with
    | ('+' :: t) :: rest =>
      pure (if (t.head?).any Char.isDigit ∧ rest.length ≤ 1 then
        (if t.getLast? = some 'c' then ['-', 'c'] :: ('+' :: t.dropLast) :: rest else ['-', 'n'] :: ('+' :: t) :: rest)
        else args)
    | args => oldCount args
  let p ← parse ⟨"c:fFn:qs:vz0123456789", [("bytes", "c", .value), ("lines", "n", .value), ("quiet", "q", .nothing),
    ("silent", "q", .nothing), ("verbose", "v", .nothing), ("follow", "f", .maybe), ("pid", "pid", .value),
    ("retry", "retry", .nothing), ("zero-terminated", "z", .nothing)], 1, false⟩ args
  let isBytes := p.last? ["c", "n"] = some "c"
  let (sign?, n) ←
    match p.last? ["c", "n"] with
    | some o => signedCount (if isBytes then "bytes" else "lines") ((p.value? o).getD [])
    | none => pure (none, 10)
  let ending := if p.has "z" then '\x00' else '\n'
  let files := if p.operands = [] then [['-']] else p.operands
  let mut isFirst := true
  let mut status := 0
  for file in files do
    match ← contentOf file with
    | .ok t =>
      if showsHeaders p files then say (header file isFirst)
      isFirst := false
      say (backPart ending isBytes (sign? = some '+') n t)
    | .error e =>
      if e = .isDirectory then
        if showsHeaders p files then say (header file isFirst)
        isFirst := false
        complain ("error reading ".toList ++ inShellQuotes file ++ ": ".toList ++ describe e)
      else complain ("cannot open ".toList ++ inShellQuotes file ++ " for reading: ".toList ++ describe e)
      status := 1
  if status ≠ 0 then
    flush
    stop status

/-! ## Counting -/

/-- How many words a text has. -/
def wordCount (t : Text) : Nat :=
  (t.foldl (fun (n, isInWord) c =>
    let isSpace := CharKind.isSpace c
    (if !isSpace && !isInWord then n + 1 else n, !isSpace)) (0, false)).1

/-- The counts that are asked for, in their order. -/
def countsOf (letters : List String) (t : Text) : List Nat :=
  let count (letter : String) : Nat :=
    match letter with
    | "l" => t.count '\n'
    | "w" => wordCount t
    | "L" => ((t.splitOn '\n').map List.length).foldl max 0
    | _ => t.length
  (["l", "w", "m", "c", "L"].filter letters.contains).map count

def wc : Body := fun args => do
  let p ← parse ⟨"clLmw", [("bytes", "c", .nothing), ("chars", "m", .nothing), ("lines", "l", .nothing),
    ("words", "w", .nothing), ("max-line-length", "L", .nothing), ("total", "total", .value)], 1, false⟩ args
  let asked := ["l", "w", "m", "c", "L"].filter p.has
  let letters := if asked = [] then ["l", "w", "c"] else asked
  let files := if p.operands = [] then [['-']] else p.operands
  let m ← act get
  let self ← process
  let sizeOf (file : Text) : Option Nat :=
    if file = ['-'] then
      match (self.stream? 0).bind m.stream? with
      | some (.file n _ _) => ((m.tree.node? n).map fun n => ((FileTree.contentOf n).toOption.getD []).length)
      | _ => none
    else
      match m.tree.look self.standpoint (Process.pathOf file) with
      | .ok ⟨.file content, _, _⟩ => some content.length
      | .ok _ => none
      | .error _ => some 0
  let width :=
    if files.length = 1 ∧ letters.length = 1 then 1
    else
      let total := (files.filterMap sizeOf).foldl (· + ·) 0
      let minimum := if files.any fun f => (sizeOf f).isNone then 7 else 1
      max (Text.ofNat total).length minimum
  let show_ (counts : List Nat) (file? : Option Text) : Work Unit :=
    let columns := counts.map fun n =>
      let ds := Text.ofNat n
      List.replicate (width - ds.length) ' ' ++ ds
    sayLine ([' '].intercalate columns ++ (match file? with
      | some f => ' ' :: f
      | none => []))
  let mut status := 0
  let mut totals : List Nat := letters.map fun _ => 0
  for file in files do
    let name? := if p.operands = [] then none else some file
    match ← contentOf file with
    | .ok t =>
      let counts := countsOf letters t
      totals := (totals.zip counts).map fun (a, b) => a + b
      show_ counts name?
    | .error e =>
      complainOf file e
      status := 1
      if e = .isDirectory then show_ (letters.map fun _ => 0) name?
  if files.length > 1 then show_ totals (some "total".toList)
  flush
  endWith status

/-! ## Passing on and making lines -/

def tee : Body := fun args => do
  let p ← parse ⟨"aip", [("append", "a", .nothing), ("ignore-interrupts", "i", .nothing), ("output-error", "p", .maybe)], 1, false⟩ args
  let self ← process
  let mut streams : List (Text × Nat) := []
  let mut status := 0
  for file in p.operands do
    match ← act (self.openFile file (if p.has "a" then .toAppend else .toWrite)) with
    | .ok n => streams := streams ++ [(file, n)]
    | .error e =>
      complainOf file e
      status := 1
  let t ← act self.readInput
  sayNow t
  for (file, n) in streams do
    match ← act (Machine.write n (Octets.toBytes t)) with
    | .refused e =>
      complainOf file e
      status := 1
    | _ => pure ()
  endWith status

def yes : Body := fun args => do
  let p ← parse ⟨"", [], 1, true⟩ args
  let line := (if p.operands = [] then ['y'] else [' '].intercalate p.operands) ++ ['\n']
  let block := (List.replicate (gathered / line.length + 1) line).flatten
  let rec go : Nat → Work Unit
    | 0 => throw (.killed (UInt8.ofNat Signal.kill))
    | n + 1 => do
      if (← get).failure?.isSome then pure ()
      else
        sayNow block
        go n
  go 100000

end JavacLauncher.Tool
