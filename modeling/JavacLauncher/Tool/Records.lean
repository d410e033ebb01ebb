import JavacLauncher.Tool.Lines

/-!
# Tools that work on lines and their fields
-/

namespace JavacLauncher.Tool

/-! ## Repeated lines -/

/-- The part of a line that `uniq` compares. -/
def comparedPart (fields chars : Nat) (width? : Option Nat) (foldsCase : Bool) (l : Text) : Text :=
  let isBlank (c : Char) : Bool := c = ' ' || c = '\t'
  let rest := (List.range fields).foldl (fun l _ => (l.dropWhile isBlank).dropWhile fun c => !isBlank c) l
  let rest := rest.drop chars
  let rest := (width?.map rest.take).getD rest
  if foldsCase then rest.map Char.toUpper else rest

/-- Runs of lines that compare alike. -/
def runsOf (part : Text → Text) : List Text → List (List Text)
  | [] => []
  | l :: ls =>
    match runsOf part ls with
    | (m :: run) :: runs => if part l = part m then (l :: m :: run) :: runs else [l] :: (m :: run) :: runs
    | runs => [l] :: runs

def uniq : Body := fun args => do
  let p ← parse ⟨"cdDf:is:uw:z0123456789", [("count", "c", .nothing), ("repeated", "d", .nothing), ("all-repeated", "D", .maybe),
    ("skip-fields", "f", .value), ("ignore-case", "i", .nothing), ("skip-chars", "s", .value), ("unique", "u", .nothing),
    ("check-chars", "w", .value), ("zero-terminated", "z", .nothing), ("group", "group", .maybe)], 1, false⟩ args
  refuseOperands p 2
  let number (name what : String) : Work (Option Nat) := do
    match p.value? name with
    | some t =>
      match sized? t with
      | some n => return some n
      | none => fail 1 (quoteNothing t ++ ": invalid number of ".toList ++ what.toList)
    | none => return none
  let fields := (← number "f" "fields to skip").getD 0
  let chars := (← number "s" "bytes to skip").getD 0
  let width? ← number "w" "bytes to compare"
  let ending := if p.has "z" then '\x00' else '\n'
  let t ←
    match ← contentOf (p.operands.headD ['-']) with
    | .ok t => pure t
    | .error e => fail 1 (quoteName (p.operands.headD []) ++ ": ".toList ++ describe e)
  let runs := runsOf (comparedPart fields chars width? (p.has "i")) (linesOf ending t)
  let mut out : List Text := []
  for run in runs do
    let isShown := (run.length > 1 || !p.has "d" && !p.has "D") && (run.length = 1 || !p.has "u")
    if isShown then
      let ds := Text.ofNat run.length
      let front := if p.has "c" then List.replicate (7 - ds.length) ' ' ++ ds ++ [' '] else []
      let shown := if p.has "D" then run else run.take 1
      out := (shown.flatMap fun l => front ++ l ++ [ending]) :: out
  match p.operands with
  | [_, file] =>
    match ← act ((← process).openFile file .toWrite) with
    | .ok n =>
      let _ ← act (Machine.write n (Octets.toBytes out.reverse.flatten))
    | .error e => fail 1 (quoteName file ++ ": ".toList ++ describe e)
  | _ => say out.reverse.flatten
where
  quoteNothing (t : Text) : Text := t

/-! ## Fields -/

/-- The numbers from one to another, or to the end. -/
abbrev NumberRange := Nat × Option Nat

/-- Reads a list of ranges such as `1,3-5,7-`. -/
def readRanges (isField : Bool) (t : Text) : Work (List NumberRange) := do
  let what := if isField then "fields are numbered from 1".toList else "byte/character positions are numbered from 1".toList
  let invalid (u : Text) : Work NumberRange :=
    misuse 1 ((if isField then "invalid field value ".toList else "invalid byte/character position ".toList) ++ quoteArgument u)
  (t.splitOnP fun c => c = ',' || c = ' ' || c = '\t').mapM fun r => do
    let number (u : Text) : Work Nat := do
      if u.all Char.isDigit then
        let n := Nat.ofDigitChars 10 u 0
        if n = 0 then misuse 1 what
        return n
      else
        let _ ← invalid r
        return 0
    match cut? '-' r with
    | none => if r = [] then misuse 1 what else do
      let n ← number r
      return (n, some n)
    | some ([], []) => misuse 1 "invalid range with no endpoint: -".toList
    | some (a, b) =>
      let first ← if a = [] then pure 1 else number a
      if b = [] then return (first, none)
      else
        let last ← number b
        if last < first then misuse 1 "invalid decreasing range".toList
        return (first, some last)

/-- Whether a number is in one of some ranges. -/
def inRanges (rs : List NumberRange) (n : Nat) : Bool :=
  rs.any fun r => r.1 ≤ n && (r.2.all fun last => n ≤ last)

/-- The pieces of a list that are kept, each run of neighbours as one. -/
def keptRuns {α : Type} (isKept : Nat → Bool) (starts : Nat → Bool) : Nat → List α → List (List α)
  | _, [] => []
  | n, a :: as =>
    let rest := keptRuns isKept starts (n + 1) as
    if !isKept n then rest
    else
      match as, rest with
      | _ :: _, run :: runs => if isKept (n + 1) ∧ !starts (n + 1) then (a :: run) :: runs else [a] :: run :: runs
      | _, rest => [a] :: rest

def cut : Body := fun args => do
  let p ← parse ⟨"b:c:d:f:nsz", [("bytes", "b", .value), ("characters", "c", .value), ("fields", "f", .value),
    ("delimiter", "d", .value), ("only-delimited", "s", .nothing), ("output-delimiter", "O", .value),
    ("complement", "C", .nothing), ("zero-terminated", "z", .nothing)], 1, false⟩ args
  let lists := p.options.filter fun o => ["b", "c", "f"].contains o.1
  match lists with
  | [] => misuse 1 "you must specify a list of bytes, characters, or fields".toList
  | [_] => pure ()
  | _ => misuse 1 "only one list may be specified".toList
  let isField := p.has "f"
  let delimiter ←
    match p.value? "d" with
    | none => pure '\t'
    | some [c] => pure c
    | some [] => pure '\x00'
    | some _ => misuse 1 "the delimiter must be a single character".toList
  if !isField ∧ p.has "d" then misuse 1 "an input delimiter may be specified only when operating on fields".toList
  if !isField ∧ p.has "s" then
    misuse 1 "suppressing non-delimited lines makes sense\n\tonly when operating on fields".toList
  let ranges ← readRanges isField ((lists.head?.bind (·.2)).getD [])
  let isKept (n : Nat) : Bool := inRanges ranges n != p.has "C"
  let starts (n : Nat) : Bool := ranges.any fun r => r.1 = n
  let ending := if p.has "z" then '\x00' else '\n'
  let output? := p.value? "O"
  eachContent p.operands fun _ t => do
    for l in linesOf ending t do
      if isField then
        let fields := l.splitOn delimiter
        if fields.length = 1 then
          if !p.has "s" then say (l ++ [ending])
        else
          let kept := (fields.zipIdx 1).filter fun e => isKept e.2
          say ((output?.getD [delimiter]).intercalate (kept.map (·.1)) ++ [ending])
      else
        match output? with
        | some o => say (o.intercalate (keptRuns isKept starts 1 l) ++ [ending])
        | none => say (((l.zipIdx 1).filter fun e => isKept e.2).map (·.1) ++ [ending])

/-! ## Several files side by side -/

/-- The delimiters of a list in which backslashes stand for characters. -/
def delimiterList : Text → List Text
  | '\\' :: 'n' :: t => ['\n'] :: delimiterList t
  | '\\' :: 't' :: t => ['\t'] :: delimiterList t
  | '\\' :: '0' :: t => [] :: delimiterList t
  | '\\' :: c :: t => [c] :: delimiterList t
  | c :: t => [c] :: delimiterList t
  | [] => []

/-- Texts with delimiters between them, in turn. -/
def joinWith (delimiters : List Text) (texts : List Text) : Text :=
  match texts with
  | [] => []
  | t :: ts => t ++ (ts.zipIdx.flatMap fun (u, i) => (delimiters[i % delimiters.length]?).getD [] ++ u)

def paste : Body := fun args => do
  let p ← parse ⟨"d:sz", [("delimiters", "d", .value), ("serial", "s", .nothing), ("zero-terminated", "z", .nothing)], 1, false⟩ args
  let delimiters := match (p.value? "d").map delimiterList with
    | some [] => [[]]
    | some ds => ds
    | none => [['\t']]
  let files := if p.operands = [] then [['-']] else p.operands
  let ending := if p.has "z" then '\x00' else '\n'
  let mut contents : List (List Text) := []
  let mut status := 0
  let inputs := (files.filter (· = ['-'])).length
  let mut shared : List Text := []
  if inputs > 1 then
    match ← contentOf ['-'] with
    | .ok t => shared := linesOf ending t
    | .error _ => pure ()
  let mut turn := 0
  for file in files do
    if file = ['-'] ∧ inputs > 1 ∧ !p.has "s" then
      contents := contents ++ [(shared.zipIdx.filter fun e => e.2 % inputs = turn).map (·.1)]
      turn := turn + 1
    else
      match ← contentOf file with
      | .ok t => contents := contents ++ [linesOf ending t]
      | .error e =>
        complainOf file e
        if !p.has "s" then stop 1
        status := 1
  if p.has "s" then
    for lines in contents do
      say (joinWith delimiters lines ++ [ending])
  else
    let rows := contents.foldl (fun n ls => max n ls.length) 0
    for i in List.range rows do
      say (joinWith delimiters (contents.map fun ls => (ls[i]?).getD []) ++ [ending])
  endWith status

/-- Two lists in order, merged: lines of the first alone, of the second alone, and of both. -/
def mergeLines : Nat → List Text → List Text → List (Nat × Text)
  | 0, _, _ => []
  | _ + 1, [], bs => bs.map fun b => (2, b)
  | _ + 1, as, [] => as.map fun a => (1, a)
  | n + 1, a :: as, b :: bs =>
    if a = b then (3, a) :: mergeLines n as bs
    else if a.precedes b then (1, a) :: mergeLines n as (b :: bs)
    else (2, b) :: mergeLines n (a :: as) bs

def comm : Body := fun args => do
  let p ← parse ⟨"123z", [("check-order", "check-order", .nothing), ("nocheck-order", "nocheck", .nothing),
    ("output-delimiter", "O", .value), ("total", "total", .nothing), ("zero-terminated", "z", .nothing)], 1, false⟩ args
  insistOperands p 2 "operand"
  refuseOperands p 2
  let read (file : Text) : Work (List Text) := do
    match ← contentOf file with
    | .ok t => return linesOf '\n' t
    | .error e => fail 1 (quoteName file ++ ": ".toList ++ describe e)
  let a ← read (p.operands.headD [])
  let b ← read ((p.operands[1]?).getD [])
  let separator := (p.value? "O").getD ['\t']
  for (column, l) in mergeLines (a.length + b.length + 1) a b do
    if !p.has (toString column) then
      let shown := ([1, 2, 3].filter fun k => k < column && !p.has (toString k)).length
      sayLine ((List.replicate shown separator).flatten ++ l)

def join : Body := fun args => do
  let p ← parse ⟨"a:e:i1:2:j:o:t:v:z", [("ignore-case", "i", .nothing), ("check-order", "check", .nothing), ("header", "h", .nothing)], 1, false⟩ args
  insistOperands p 2 "operand"
  refuseOperands p 2
  let read (file : Text) : Work (List Text) := do
    match ← contentOf file with
    | .ok t => return linesOf '\n' t
    | .error e => fail 1 (quoteName file ++ ": ".toList ++ describe e)
  let a ← read (p.operands.headD [])
  let b ← read ((p.operands[1]?).getD [])
  let tab? := (p.value? "t").bind List.head?
  let fieldsOf (l : Text) : List Text :=
    match tab? with
    | some c => l.splitOn c
    | none => (l.splitOnP fun c => c = ' ' || c = '\t').filter (· ≠ [])
  let number (name : String) : Nat := (((p.value? name).or (p.value? "j")).bind sized?).getD 1
  let one := number "1"
  let two := number "2"
  let separator := tab?.getD ' '
  let keyOf (n : Nat) (fs : List Text) : Text := (fs[n - 1]?).getD []
  let others (n : Nat) (fs : List Text) : List Text := (fs.zipIdx 1).filterMap fun e => if e.2 = n then none else some e.1
  let xs := a.map fieldsOf
  let ys := b.map fieldsOf
  let pairs := !p.has "v"
  let alone (side : Char) : Bool := (p.values "a" ++ p.values "v").contains [side]
  let put (fs : List Text) : Work Unit := sayLine ([separator].intercalate fs)
  let chosen (x y : List Text) : List Text :=
    match p.value? "o" with
    | some spec =>
      (spec.splitOnP fun c => c = ',' || c = ' ').map fun s =>
        match s with
        | ['0'] => if x = [] then keyOf two y else keyOf one x
        | '1' :: '.' :: n => ((x[(sized? n).getD 1 - 1]?).filter (· ≠ [])).getD ((p.value? "e").getD [])
        | _ :: '.' :: n => ((y[(sized? n).getD 1 - 1]?).filter (· ≠ [])).getD ((p.value? "e").getD [])
        | _ => []
    | none =>
      (if x = [] then keyOf two y else keyOf one x) :: others one x ++ others two y
  for x in xs do
    let found := ys.filter fun y => keyOf two y = keyOf one x
    if found = [] then
      if alone '1' then put (chosen x [])
    else if pairs then
      for y in found do
        put (chosen x y)
  if alone '2' then
    for y in ys do
      if !xs.any fun x => keyOf one x = keyOf two y then put (chosen [] y)

/-! ## Characters -/

/-- The characters that an array of `tr` is written with, and whether each was written with a backslash. -/
def unescapeSet : Nat → Text → List (Char × Bool)
  | 0, _ => []
  | _ + 1, [] => []
  | n + 1, '\\' :: t =>
    let digits := (t.take 3).takeWhile fun c => '0' ≤ c && c ≤ '7'
    if digits ≠ [] then
      let digits := if Nat.ofDigitChars 8 digits 0 > 255 then digits.take 2 else digits
      (Char.ofNat (Nat.ofDigitChars 8 digits 0), true) :: unescapeSet n (t.drop digits.length)
    else
      match t with
      | [] => [('\\', false)]
      | c :: t =>
        let d := match c with
          | 'a' => '\x07'
          | 'b' => '\x08'
          | 'f' => '\x0c'
          | 'n' => '\n'
          | 'r' => '\r'
          | 't' => '\t'
          | 'v' => '\x0b'
          | c => c
        (d, true) :: unescapeSet n t
  | n + 1, c :: t => (c, false) :: unescapeSet n t

/-- A part of an array: characters, or one that is repeated so often, or as often as is needed. -/
inductive SetPart where
  | chars (cs : Text)
  | kind (name : Text) (cs : Text)
  | repeated (c : Char) (count? : Option Nat)
  deriving Repr, Inhabited

/-- All octets. -/
def allOctets : Text := (List.range 256).map Char.ofNat

/-- The parts of an array of characters. -/
def setParts : Nat → List (Char × Bool) → Work (List SetPart)
  | 0, _ => return []
  | _ + 1, [] => return []
  | n + 1, (c, isEscaped) :: t => do
    let single : Work (List SetPart) := do
      match t with
      | ('-', false) :: (d, _) :: rest =>
        if c ≤ d then
          let more ← setParts n rest
          return .chars ((List.range (d.toNat - c.toNat + 1)).map fun i => Char.ofNat (c.toNat + i)) :: more
        else
          let shown (c : Char) : Text := if isShown c then [c] else escapeChar c
          fail 1 ("range-endpoints of '".toList ++ shown c ++ '-' :: shown d ++
            "' are in reverse collating sequence order".toList)
      | t => return .chars [c] :: (← setParts n t)
    if c = '[' ∧ !isEscaped then
      match t with
      | (':', false) :: rest =>
        let name := (rest.takeWhile fun e => e.1 ≠ ':').map (·.1)
        match rest.drop name.length with
        | (':', false) :: (']', false) :: rest =>
          match CharKind.ofName? name with
          | some f => return .kind name (allOctets.filter f) :: (← setParts n rest)
          | none => fail 1 ("invalid character class ".toList ++ quoteArgument name)
        | _ => single
      | ('=', false) :: (d, _) :: ('=', false) :: (']', false) :: rest => return .chars [d] :: (← setParts n rest)
      | (d, _) :: ('*', false) :: rest =>
        let digits := (rest.takeWhile fun e => e.1.isDigit).map (·.1)
        match rest.drop digits.length with
        | (']', false) :: rest =>
          let count := Nat.ofDigitChars (if digits.head? = some '0' then 8 else 10) digits 0
          return .repeated d (if count = 0 then none else some count) :: (← setParts n rest)
        | _ => single
      | _ => single
    else single

/-- The characters of an array, filled up to a length where a character is to be repeated as needed. -/
def setChars (parts : List SetPart) (length : Nat) : Text :=
  let fixed := parts.foldl (fun n p =>
    match p with
    | .chars cs | .kind _ cs => n + cs.length
    | .repeated _ (some k) => n + k
    | .repeated _ none => n) 0
  parts.flatMap fun
    | .chars cs | .kind _ cs => cs
    | .repeated c (some k) => List.replicate k c
    | .repeated c none => List.replicate (length - fixed) c

/-- A text with runs of a character squeezed to one. -/
def squeeze (isSqueezed : Char → Bool) (t : Text) : Text :=
  (t.foldl (fun (acc : Text) c =>
    match acc with
    | d :: _ => if c = d ∧ isSqueezed c then acc else c :: acc
    | [] => [c]) []).reverse

def tr : Body := fun args => do
  let p ← parse ⟨"cCdst", [("complement", "c", .nothing), ("delete", "d", .nothing), ("squeeze-repeats", "s", .nothing),
    ("truncate-set1", "t", .nothing)], 1, true⟩ args
  let isComplement := p.has "c" || p.has "C"
  let deletes := p.has "d"
  let squeezes := p.has "s"
  let needed := if deletes = squeezes then 2 else 1
  match p.operands with
  | [] => misuse 1 "missing operand".toList
  | ops =>
    if ops.length < needed then
      complain ("missing operand after ".toList ++ quoteArgument (ops.getLastD []))
      complainPlainly (if squeezes then "Two strings must be given when both deleting and squeezing repeats.".toList
        else "Two strings must be given when translating.".toList)
      suggestHelp 1
    let most := if deletes ∧ !squeezes then 1 else 2
    if ops.length > most then
      complain ("extra operand ".toList ++ quoteArgument ((ops[most]?).getD []))
      if most = 1 then
        complainPlainly "Only one string may be given when deleting without squeezing repeats.".toList
      suggestHelp 1
  let first ← setParts 100000 (unescapeSet 100000 (p.operands.headD []))
  let set1 := setChars first 0
  let set1 := if isComplement then allOctets.filter fun c => !set1.contains c else set1
  let second ← setParts 100000 (unescapeSet 100000 ((p.operands[1]?).getD []))
  let t ← act (← process).readInput
  let table (f : Char → Bool) : Array Bool := (allOctets.map f).toArray
  if deletes then
    let gone := table set1.contains
    let t := t.filter fun c => !(gone[c.toNat]?).getD false
    if squeezes then
      let set2 := table (setChars second 0).contains
      say (squeeze (fun c => (set2[c.toNat]?).getD false) t)
    else say t
  else if p.operands.length = 1 then
    let set := table set1.contains
    say (squeeze (fun c => (set[c.toNat]?).getD false) t)
  else
    let set2 := setChars second set1.length
    if set2 = [] ∧ !p.has "t" ∧ set1 ≠ [] then fail 1 "when not truncating set1, string2 must be non-empty".toList
    let kindName (parts : List SetPart) : List Text := parts.filterMap fun
      | .kind n _ => some n
      | _ => none
    let isCaseChange := (kindName first = ["lower".toList] && kindName second = ["upper".toList]) ||
      (kindName first = ["upper".toList] && kindName second = ["lower".toList])
    if !isCaseChange ∧ (kindName second).any fun n => n ≠ "lower".toList ∧ n ≠ "upper".toList then
      fail 1 "when translating, the only character classes that may appear in\nstring2 are 'upper' and 'lower'".toList
    let last := set2.getLastD '\x00'
    let set2 := if p.has "t" then set2 else set2 ++ List.replicate (set1.length - set2.length) last
    let map := (set1.zip set2).foldl (fun (m : Array Char) (a, b) => m.set! a.toNat b) allOctets.toArray
    let t := t.map fun c => (map[c.toNat]?).getD c
    if squeezes then
      let set := table (setChars second set1.length).contains
      say (squeeze (fun c => (set[c.toNat]?).getD false) t)
    else say t

end JavacLauncher.Tool
