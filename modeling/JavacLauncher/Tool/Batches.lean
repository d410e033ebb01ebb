import JavacLauncher.Tool.Starting

/-!
# Programs for batches of arguments

What is read is cut into items, and a program is started for as many of them as fit, or as are asked for.
Quotes and backslashes hold blanks together unless another character ends the items.
-/

namespace JavacLauncher.Tool

/-- How items are read. -/
structure Itemizing where
  /-- What has been read, the last first, each with whether a line ended behind it. -/
  done : List (Text × Bool)
  current? : Option Text
  /-- The quote that is open. -/
  quote? : Option Char
  /-- A blank has just been read. A line that ends with one goes on. -/
  wasBlank : Bool
  deriving Inhabited

/-- Ends an item. -/
def Itemizing.close (s : Itemizing) (endsLine : Bool) : Itemizing :=
  match s.current? with
  | some t => { s with done := (t.reverse, endsLine) :: s.done, current? := none }
  | none =>
    match s.done with
    | (t, _) :: more => if endsLine then { s with done := (t, true) :: more } else s
    | [] => s

/-- The items of a text; with `byLine` only line breaks end them. A quote that is left open is given instead. -/
def itemsOf (byLine : Bool) : Text → Itemizing → Except Char (List (Text × Bool))
  | [], s =>
    match s.quote? with
    | some q => .error q
    | none => .ok (s.close true).done.reverse
  | c :: t, s =>
    let wasBlank := s.wasBlank
    let s := { s with wasBlank := false }
    let add (c : Char) : Itemizing := { s with current? := some (c :: s.current?.getD []) }
    match s.quote? with
    | some q =>
      if c = q then itemsOf byLine t { s with quote? := none }
      else if c = '\n' then .error q
      else itemsOf byLine t (add c)
    | none =>
      if c = '\n' then itemsOf byLine t (s.close (byLine || !wasBlank))
      else if c = ' ' ∨ c = '\t' then
        if byLine then itemsOf byLine t (if s.current?.isNone then s else add c)
        else itemsOf byLine t { s.close false with wasBlank := true }
      else if c = '\'' ∨ c = '"' then itemsOf byLine t { s with quote? := some c, current? := some (s.current?.getD []) }
      else if c = '\\' then
        match t with
        | d :: t => itemsOf byLine t { s with current? := some (d :: s.current?.getD []) }
        | [] => itemsOf byLine [] s
      else itemsOf byLine t (add c)

/-- Every place of a text replaced by another one. -/
def replaceAll (old new : Text) : Nat → Text → Text
  | 0, t => t
  | _ + 1, [] => []
  | n + 1, c :: t =>
    match if old = [] then none else after? old (c :: t) with
    | some rest => new ++ replaceAll old new n rest
    | none => c :: replaceAll old new n t

/-- Items in batches of so many. -/
def inBatches (size : Nat) : Nat → List Text → List (List Text)
  | 0, _ => []
  | _ + 1, [] => []
  | n + 1, ts => ts.take size :: inBatches size n (ts.drop size)

/-- Items in batches that stand on so many lines. -/
def inLines (count : Nat) (items : List (Text × Bool)) : List (List Text) :=
  let (batches, last, _) := items.foldl (fun (batches, now, lines) (t, endsLine) =>
    let now := t :: now
    let lines := if endsLine then lines + 1 else lines
    if lines ≥ count then (now.reverse :: batches, [], 0) else (batches, now, lines))
    (([], [], 0) : List (List Text) × List Text × Nat)
  (if last = [] then batches else last.reverse :: batches).reverse

/-- How much room the arguments of one program take at most. -/
def batchRoom : Nat := 131072

/-- Items in batches that fit. -/
def inRoom (room : Nat) (ts : List Text) : List (List Text) :=
  let (batches, last, _) := ts.foldl (fun (batches, now, used) t =>
    if used + t.length + 1 > room ∧ now ≠ [] then (now.reverse :: batches, [t], t.length + 1)
    else (batches, t :: now, used + t.length + 1)) (([], [], 0) : List (List Text) × List Text × Nat)
  (if last = [] then batches else last.reverse :: batches).reverse

/-- The character that ends items, as it is written in an option. -/
def delimiter? (t : Text) : Option Char :=
  match t with
  | [c] => some c
  | ['\\', c] =>
    match c with
    | 'n' => some '\n'
    | 't' => some '\t'
    | '0' => some '\x00'
    | 'a' => some '\x07'
    | 'r' => some '\r'
    | '\\' => some '\\'
    | _ => none
  | _ => none

def xargs (start : Starter) : Body := fun args => do
  let p ← parse ⟨"0a:d:E:e::I:i::L:l::n:oprs:txP:", [("null", "0", .nothing), ("arg-file", "a", .value),
    ("delimiter", "d", .value), ("eof", "e", .maybe), ("replace", "i", .maybe), ("max-lines", "l", .maybe),
    ("max-args", "n", .value), ("interactive", "p", .nothing), ("no-run-if-empty", "r", .nothing),
    ("max-chars", "s", .value), ("verbose", "t", .nothing), ("exit", "x", .nothing), ("max-procs", "P", .value)], 1, true⟩ args
  let self ← process
  let command := if p.operands = [] then ["echo".toList] else p.operands
  let place? : Option Text :=
    match p.last? ["I", "i", "L", "l", "n"] with
    | some "I" => p.value? "I"
    | some "i" => some ((p.value? "i").getD ['\x7b', '\x7d'])
    | _ => none
  let number (letter : String) (otherwise : Nat) : Work Nat := do
    match p.value? letter with
    | none => return otherwise
    | some t =>
      if t ≠ [] ∧ t.all Char.isDigit then
        let n := Nat.ofDigitChars 10 t 0
        if n = 0 ∧ letter ≠ "P" then
          complain ("value ".toList ++ t ++ " for -".toList ++ letter.toList ++ " option should be >= 1".toList)
          suggestHelp 1
        return n
      else
        complain ("invalid number \"".toList ++ t ++ "\" for -".toList ++ letter.toList ++ " option".toList)
        suggestHelp 1
  let perBatch ← number "n" 0
  let perLines ← number (if p.has "L" then "L" else "l") (if p.has "l" then 1 else 0)
  let room ← number "s" batchRoom
  let ending? ←
    match p.last? ["0", "d"] with
    | some "0" => pure (some '\x00')
    | some _ =>
      match delimiter? ((p.value? "d").getD []) with
      | some c => pure (some c)
      | none =>
        fail 1 ("Invalid input delimiter specification ".toList ++ (p.value? "d").getD [] ++
          ": the delimiter must be either a single character or an escape sequence starting with \\.".toList)
    | none => pure none
  let input ←
    match p.value? "a" with
    | some file =>
      match ← contentOf file with
      | .ok t => pure t
      | .error e => fail 1 ("Cannot open input file ".toList ++ quoteArgument file ++ ": ".toList ++ describe e)
    | none => act self.readInput
  let items ←
    match ending? with
    | some c => pure ((linesOf c input).map fun t => (t, true))
    | none =>
      match itemsOf place?.isSome input ⟨[], none, none, false⟩ with
      | .ok found => pure found
      | .error q =>
        fail 1 ("unmatched ".toList ++ (if q = '"' then "double".toList else "single".toList) ++
          " quote; by default quotes are special to xargs unless you use the -0 option".toList)
  let end? := (p.value? "E") <|> (p.value? "e")
  let items := match end? with
    | some t => if t = [] then items else items.takeWhile fun i => i.1 ≠ t
    | none => items
  let texts := items.map (·.1)
  let calls : List (List Text) :=
    match place? with
    | some place => texts.map fun t => command.map fun a => replaceAll place t (a.length + 1) a
    | none =>
      let batches :=
        match p.last? ["L", "l", "n"] with
        | some "n" => inBatches (max perBatch 1) texts.length texts
        | some _ => inLines (max perLines 1) items
        | none => inRoom room texts
      let batches := if batches = [] ∧ !p.has "r" then [[]] else batches
      batches.map fun b => command ++ b
  let nothing ← act (Machine.openStream (.device .null))
  let change (q : Process) : Process := if p.has "a" then q else q.bind 0 nothing
  let name := command.headD []
  let mut status := 0
  for argv in calls do
    if p.has "t" then complainPlainly ([' '].intercalate (argv.map quoteName))
    match ← runChild start change argv with
    | .error e => fail (startStatus e) (name ++ ": ".toList ++ describe e)
    | .ok (.exited n) =>
      if n = 255 then fail 124 (name ++ ": exited with status 255; aborting".toList)
      else if n ≠ 0 then status := 123
    | .ok (.killed n) => fail 125 (name ++ ": terminated by signal ".toList ++ Text.ofNat n.toNat)
  endWith status

end JavacLauncher.Tool
