import JavacLauncher.Text.Real
import JavacLauncher.Tool.Lines

/-!
# Sorting lines

Lines are compared by keys, each a part of the line with rules of its own, and at last as they are. Equal
lines stay in order.
-/

namespace JavacLauncher.Tool

/-- How the texts of a key are compared. -/
inductive KeyOrder where
  | plain
  | number
  | real
  | human
  | month
  | version
  deriving DecidableEq, Repr, Inhabited

structure SortKey where
  /-- Fields and characters to pass over in front of the key. -/
  firstField : Nat
  firstChar : Nat
  /-- Fields and characters that the key ends with; without a field it goes on to the end. -/
  lastField? : Option Nat
  lastChar : Nat
  skipsFrontBlanks : Bool
  skipsBackBlanks : Bool
  isDictionary : Bool
  ignoresUnprintable : Bool
  foldsCase : Bool
  isReversed : Bool
  order : KeyOrder
  deriving Repr, Inhabited

namespace SortKey

def whole : SortKey := ⟨0, 0, none, 0, false, false, false, false, false, false, .plain⟩

/-- Whether the key has no rules of its own. -/
def isBare (k : SortKey) : Bool :=
  !(k.skipsFrontBlanks || k.skipsBackBlanks || k.isDictionary || k.ignoresUnprintable || k.foldsCase || k.isReversed) &&
    k.order = .plain

/-- Sets a rule by its letter. -/
def setRule (k : SortKey) (isBack isBoth : Bool) (c : Char) : Option SortKey :=
  match c with
  | 'b' => some { k with
      skipsFrontBlanks := k.skipsFrontBlanks || !isBack || isBoth
      skipsBackBlanks := k.skipsBackBlanks || isBack || isBoth }
  | 'd' => some { k with isDictionary := true }
  | 'f' => some { k with foldsCase := true }
  | 'g' => some { k with order := .real }
  | 'h' => some { k with order := .human }
  | 'i' => some { k with ignoresUnprintable := true }
  | 'M' => some { k with order := .month }
  | 'n' => some { k with order := .number }
  | 'r' => some { k with isReversed := true }
  | 'V' => some { k with order := .version }
  | 'R' => some k
  | _ => none

/-- The rules of another key with the place of this one. -/
def withRules (k rules : SortKey) : SortKey :=
  { rules with
    firstField := k.firstField, firstChar := k.firstChar, lastField? := k.lastField?, lastChar := k.lastChar }

end SortKey

def isFieldBlank (c : Char) : Bool := c = ' ' || c = '\t' || c = '\n'

/-- A line without so many fields in front. -/
def dropFields (tab? : Option Char) : Nat → Text → Text
  | 0, l => l
  | n + 1, l =>
    match tab? with
    | some tab => dropFields tab? n ((l.dropWhile (· ≠ tab)).drop 1)
    | none => dropFields tab? n ((l.dropWhile isFieldBlank).dropWhile fun c => !isFieldBlank c)

/-- How much of a line its first fields are. The tab behind the last of them counts only if more follows. -/
def fieldsEnd (tab? : Option Char) (goesOn : Bool) : Nat → Text → Nat
  | 0, _ => 0
  | n + 1, l =>
    match tab? with
    | some tab =>
      let size := (l.takeWhile (· ≠ tab)).length
      if size < l.length ∧ (n > 0 ∨ goesOn) then size + 1 + fieldsEnd tab? goesOn n (l.drop (size + 1)) else size
    | none =>
      let rest := dropFields none 1 l
      l.length - rest.length + fieldsEnd tab? goesOn n rest

/-- The part of a line that a key is. -/
def SortKey.part (tab? : Option Char) (k : SortKey) (l : Text) : Text :=
  let rest := dropFields tab? k.firstField l
  let rest := if k.skipsFrontBlanks then rest.dropWhile isFieldBlank else rest
  let start := l.length - (rest.drop k.firstChar).length
  let stop :=
    match k.lastField? with
    | none => l.length
    | some n =>
      if k.lastChar = 0 then fieldsEnd tab? false (n + 1) l
      else
        let at_ := fieldsEnd tab? true n l
        let back := l.drop at_
        let at_ := if k.skipsBackBlanks then at_ + (back.takeWhile isFieldBlank).length else at_
        min l.length (at_ + k.lastChar)
  (l.take stop).drop start

/-- Compares two texts. -/
def compareTexts (a b : Text) : Ordering := if a.precedes b then .lt else if b.precedes a then .gt else .eq

/-- A decimal number in front of a text: its sign, its digits before the point and those behind it. -/
structure Decimal where
  isNegative : Bool
  whole : Nat
  fraction : Text
  deriving Repr, Inhabited

/-- The number that a text begins with; there is always one. -/
def Decimal.ofText (t : Text) : Decimal × Text :=
  let t := t.dropWhile isFieldBlank
  let (isNegative, t) := match t with
    | '-' :: t => (true, t)
    | t => (false, t)
  let digits := t.takeWhile Char.isDigit
  let rest := t.drop digits.length
  let fraction := match rest with
    | '.' :: r => r.takeWhile Char.isDigit
    | _ => []
  let rest := if fraction = [] then rest else rest.drop (fraction.length + 1)
  let fraction := (fraction.reverse.dropWhile (· = '0')).reverse
  let whole := Nat.ofDigitChars 10 digits 0
  (⟨isNegative && (whole > 0 || fraction ≠ []), whole, fraction⟩, rest)

/-- Compares numbers. -/
def Decimal.compare (a b : Decimal) : Ordering :=
  let sizes : Ordering := (Ord.compare a.whole b.whole).then (compareTexts a.fraction b.fraction)
  match a.isNegative, b.isNegative with
  | false, true => .gt
  | true, false => .lt
  | false, false => sizes
  | true, true => sizes.swap

/-- The place of a unit behind a number. -/
def unitPlace (t : Text) : Nat :=
  match t with
  | c :: _ => (("KMGTPEZYRQ".toList.findIdx? (· = (if c = 'k' then 'K' else c))).map (· + 1)).getD 0
  | [] => 0

/-- Compares numbers with units. -/
def compareHuman (a b : Text) : Ordering :=
  let (x, restA) := Decimal.ofText a
  let (y, restB) := Decimal.ofText b
  let place (d : Decimal) (rest : Text) : Int :=
    let n : Int := if d.whole = 0 ∧ d.fraction = [] then 0 else unitPlace rest
    if d.isNegative then -n else n
  let sign (d : Decimal) : Int := if d.isNegative then -1 else if d.whole = 0 ∧ d.fraction = [] then 0 else 1
  ((Ord.compare (sign x) (sign y)).then (Ord.compare (place x restA) (place y restB))).then (x.compare y)

/-- The number of a month by its name; 0 if it is none. -/
def monthOf (t : Text) : Nat :=
  let name := ((t.dropWhile isFieldBlank).take 3).map Char.toUpper
  (((["JAN", "FEB", "MAR", "APR", "MAY", "JUN", "JUL", "AUG", "SEP", "OCT", "NOV", "DEC"].map
    String.toList).findIdx? (· = name)).map (· + 1)).getD 0

/-- Compares numbers of any form; texts that are none come first. -/
def compareReals (a b : Text) : Ordering :=
  let value (t : Text) : Option Float := (Real.take? (t.dropWhile CharKind.isSpace)).map (·.1)
  match value a, value b with
  | none, none => .eq
  | none, some _ => .lt
  | some _, none => .gt
  | some x, some y => if x < y then .lt else if y < x then .gt else .eq

/-! ## Versions -/

/-- The place of a character in versions: tildes come before the end, letters before all others. -/
def versionPlace (c? : Option Char) : Int :=
  match c? with
  | none => -1
  | some c => if c.isDigit then 0 else if c.isAlpha then c.toNat else if c = '~' then -2 else c.toNat + 256

/-- Compares versions: parts without digits by their characters, numbers by their size. -/
def compareVersions : Nat → Text → Text → Ordering
  | 0, _, _ => .eq
  | n + 1, a, b =>
    if a = [] ∧ b = [] then .eq
    else
      let isLetter (c? : Option Char) : Bool := c?.any fun c => !c.isDigit
      if isLetter a.head? ∨ isLetter b.head? then
        let place (c? : Option Char) : Int := versionPlace c?
        if place a.head? = place b.head? then compareVersions n a.tail b.tail
        else Ord.compare (place a.head?) (place b.head?)
      else
        let x := a.takeWhile Char.isDigit
        let y := b.takeWhile Char.isDigit
        let sizes := Ord.compare (Nat.ofDigitChars 10 x 0) (Nat.ofDigitChars 10 y 0)
        if x = [] ∧ y = [] then .eq
        else sizes.then (compareVersions n (a.drop x.length) (b.drop y.length))

/-- How much of a file name its ending is: dots with letters behind them. -/
def endingLength (t : Text) : Nat :=
  let rec go : Nat → Text → Nat → Nat
    | 0, _, best => best
    | n + 1, r, best =>
      -- Here `r` is the rest of the name from its end on, reversed.
      let word := r.takeWhile fun c => c.isAlphanum || c = '~'
      let used := t.length - r.length + word.length + 1
      match r.drop word.length with
      | '.' :: more =>
        if (word.getLast?).any (fun c => c.isAlpha || c = '~') ∧ more ≠ [] then go n more used else best
      | _ => best
  go t.length t.reverse 0

/-- Compares file names by the versions in them. -/
def compareNames (a b : Text) : Ordering :=
  if a = b then .eq
  else
    let special (t : Text) : Nat := if t = [] then 0 else if t = ['.'] then 1 else if t = ['.', '.'] then 2 else 3
    if special a < 3 ∨ special b < 3 then Ord.compare (special a) (special b)
    else
      match a.head? = some '.', b.head? = some '.' with
      | _, _ =>
        if a.head? = some '.' ∧ b.head? ≠ some '.' then .lt
        else if a.head? ≠ some '.' ∧ b.head? = some '.' then .gt
        else
          let fuel := a.length + b.length + 2
          let x := a.take (a.length - endingLength a)
          let y := b.take (b.length - endingLength b)
          (compareVersions fuel x y).then (compareVersions fuel a b)

/-! ## Comparing lines -/

/-- Compares two texts by the rules of a key. -/
def SortKey.compare (k : SortKey) (a b : Text) : Ordering :=
  let keeps (c : Char) : Bool :=
    (!k.isDictionary || c.isAlphanum || c = ' ' || c = '\t') && (!k.ignoresUnprintable || CharKind.isPrintable c)
  let change (t : Text) : Text :=
    let t := if k.isDictionary || k.ignoresUnprintable then t.filter keeps else t
    if k.foldsCase then t.map Char.toUpper else t
  let o :=
    match k.order with
    | .plain => compareTexts (change a) (change b)
    | .number => (Decimal.ofText a).1.compare (Decimal.ofText b).1
    | .real => compareReals a b
    | .human => compareHuman a b
    | .month => Ord.compare (monthOf a) (monthOf b)
    | .version => compareNames a b
  if k.isReversed then o.swap else o

/-- A line and the parts of it that are compared. -/
structure SortLine where
  line : Text
  parts : List Text

/-- Compares two lines by all keys. -/
def compareKeys : List SortKey → List Text → List Text → Ordering
  | k :: ks, a :: as, b :: bs => (k.compare a b).then (compareKeys ks as bs)
  | _, _, _ => .eq

/-- Reads a field number, and the character number behind a point. -/
def readPlace (what : String) (t : Text) : Work (Nat × Nat × Text) := do
  let digits := t.takeWhile Char.isDigit
  if digits = [] then
    fail 2 ("invalid number ".toList ++ what.toList ++ ": invalid count at start of ".toList ++ quoteArgument t)
  let rest := t.drop digits.length
  let field := Nat.ofDigitChars 10 digits 0
  match rest with
  | '.' :: rest =>
    let more := rest.takeWhile Char.isDigit
    if more = [] then
      fail 2 ("invalid number after '.': invalid count at start of ".toList ++ quoteArgument rest)
    return (field, Nat.ofDigitChars 10 more 0, rest.drop more.length)
  | rest => return (field, if what = "after ','" then 0 else 1, rest)

/-- Sets rules by letters, and gives back what is behind them. -/
def setRules (isBack : Bool) : SortKey → Text → SortKey × Text
  | k, [] => (k, [])
  | k, c :: t =>
    match k.setRule isBack false c with
    | some k => setRules isBack k t
    | none => (k, c :: t)

/-- Reads a key such as `2,3n`. -/
def readKey (t : Text) : Work SortKey := do
  let wrong {α : Type} (m : String) : Work α :=
    fail 2 (m.toList ++ ": invalid field specification ".toList ++ quoteArgument t)
  let (field, char, rest) ← readPlace "at field start" t
  if field = 0 then wrong "field number is zero"
  if char = 0 then wrong "character offset is zero"
  let (k, rest) := setRules false { SortKey.whole with firstField := field - 1, firstChar := char - 1 } rest
  match rest with
  | [] => return k
  | ',' :: rest =>
    let (field, char, rest) ← readPlace "after ','" rest
    if field = 0 then wrong "field number is zero"
    let (k, rest) := setRules true { k with lastField? := some (field - 1), lastChar := char } rest
    if rest ≠ [] then wrong "stray character in field spec"
    return k
  | _ => wrong "stray character in field spec"

def sort : Body := fun args => do
  let p ← parse ⟨"bcCdfghik:mMno:rRsS:t:T:uVyz",
    [("ignore-leading-blanks", "b", .nothing), ("dictionary-order", "d", .nothing), ("ignore-case", "f", .nothing),
      ("general-numeric-sort", "g", .nothing), ("ignore-nonprinting", "i", .nothing), ("month-sort", "M", .nothing),
      ("human-numeric-sort", "h", .nothing), ("numeric-sort", "n", .nothing), ("reverse", "r", .nothing),
      ("version-sort", "V", .nothing), ("check", "c", .maybe), ("key", "k", .value), ("merge", "m", .nothing),
      ("output", "o", .value), ("stable", "s", .nothing), ("field-separator", "t", .value), ("unique", "u", .nothing),
      ("zero-terminated", "z", .nothing), ("random-sort", "R", .nothing), ("parallel", "parallel", .value),
      ("buffer-size", "S", .value), ("temporary-directory", "T", .value), ("sort", "sort", .value)], 2, false⟩ args
  let longOrder := (p.value? "sort").bind fun t =>
    ([("general-numeric", 'g'), ("human-numeric", 'h'), ("month", 'M'), ("numeric", 'n'), ("version", 'V'),
      ("random", 'R')].map fun e => (e.1.toList, e.2)).lookup t
  let letters := p.options.filterMap fun o => match o.1.toList, o.2 with
    | [c], none => some c
    | _, _ => none
  let rules := (letters ++ longOrder.toList).foldl (fun k c => (k.setRule false true c).getD k) SortKey.whole
  let keys ← (p.values "k").mapM readKey
  let keys := keys.map fun k => if k.isBare then k.withRules rules else k
  let keys := if keys = [] ∧ !rules.isBare then [rules] else keys
  let tab? ←
    match p.value? "t" with
    | some [c] => pure (some c)
    | some ['\\', '0'] => pure (some '\x00')
    | some [] => fail 2 "empty tab".toList
    | some t => fail 2 ("multi-character tab ".toList ++ quoteArgument t)
    | none => pure none
  let ending := if p.has "z" then '\x00' else '\n'
  let mut parts : List Text := []
  for file in if p.operands = [] then [['-']] else p.operands do
    match ← contentOf file with
    | .ok t => parts := (if t = [] ∨ t.getLast? = some ending then t else t ++ [ending]) :: parts
    | .error e =>
      if e = .isDirectory then fail 2 ("read failed: ".toList ++ quoteName file ++ ": ".toList ++ describe e)
      else fail 2 ("cannot read: ".toList ++ quoteName file ++ ": ".toList ++ describe e)
  let lines := (linesOf ending parts.reverse.flatten).map fun l => SortLine.mk l (keys.map fun k => k.part tab? l)
  let isUnique := p.has "u"
  let compare (a b : SortLine) : Ordering :=
    let o := compareKeys keys a.parts b.parts
    if keys ≠ [] ∧ (o ≠ .eq ∨ isUnique ∨ p.has "s") then o
    else
      let last := compareTexts a.line b.line
      if rules.isReversed then last.swap else last
  if p.has "c" ∨ p.has "C" then
    let file := p.operands.headD ['-']
    let pairs := lines.zip lines.tail
    match pairs.findIdx? fun e => compare e.1 e.2 = .gt || (isUnique && compare e.1 e.2 = .eq) with
    | some i =>
      if p.has "c" ∧ p.value? "c" ≠ some "quiet".toList ∧ p.value? "c" ≠ some "silent".toList then
        complain (file ++ ':' :: Text.ofNat (i + 2) ++ ": disorder: ".toList ++ ((lines[i + 1]?).map SortLine.line).getD [])
      stop 1
    | none => pure ()
  else
    let sorted := lines.mergeSort fun a b => compare a b ≠ .gt
    let rec unique (last? : Option SortLine) : List SortLine → List SortLine
      | [] => []
      | l :: ls =>
        if last?.any fun k => compare k l = .eq then unique last? ls else l :: unique (some l) ls
    let sorted := if isUnique then unique none sorted else sorted
    let text := sorted.flatMap fun l => l.line ++ [ending]
    match p.value? "o" with
    | some file =>
      match ← act ((← process).openFile file .toWrite) with
      | .ok n =>
        let _ ← act (Machine.write n (Octets.toBytes text))
      | .error e => fail 2 ("open failed: ".toList ++ quoteName file ++ ": ".toList ++ describe e)
    | none => say text

end JavacLauncher.Tool
