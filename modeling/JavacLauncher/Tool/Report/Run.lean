import JavacLauncher.Tool.Report.Parser
import JavacLauncher.Tool.Report.Value
import JavacLauncher.Tool.Starting
import Std.Data.HashMap.Basic

/-!
# Running report scripts

Variables are cells in a store, so that a function can be given an array to change. A command that is written
to runs when it is closed, at the latest at the end; what it reads is kept until then.
-/

namespace JavacLauncher.Tool.Report

/-- What a variable holds. -/
inductive Cell where
  | scalar (v : Value)
  | array (id : Nat)
  /-- Nothing yet, nor does the variable that was given for it. -/
  | sameAs (cell : Nat)
  deriving Inhabited

/-- Names are found by the strings that they make up. -/
instance : Hashable Text := ⟨fun t => hash (String.ofList t)⟩

/-- The values of an array by name, each with a number that grows with its age. -/
structure Table where
  items : Std.HashMap Text (Value × Nat)
  count : Nat
  deriving Inhabited

/-- Something that is written to. -/
inductive Target where
  | stream (n : Nat)
  | standard
  /-- A command, and what has been written to it, the last part first. -/
  | command (parts : List Text)
  deriving Inhabited

structure State where
  script : Script
  globals : Std.HashMap Text Nat
  cells : Std.HashMap Nat Cell
  arrays : Std.HashMap Nat Table
  /-- The number for the next cell or array. -/
  next : Nat
  /-- The cells of a function's own variables. -/
  frame : List (Text × Nat)
  record : Text
  /-- The fields of the record, once they have been asked for. -/
  fields? : Option (Array Value)
  /-- What is left of the input, if a file is being read. -/
  rest? : Option Text
  /-- Which argument comes next, and whether any has been read. -/
  argument : Nat
  hasRead : Bool
  isOver : Bool
  targets : List (Text × Target)
  /-- What is left to read of files and of what commands have written, and how the commands ended. -/
  sources : List (Text × Text × Nat)
  matchers : Std.HashMap Text Matcher
  /-- The ranges that are open. -/
  openRanges : List Nat
  status : Nat
  seed : Nat
  lastSeed : Value
  deriving Inhabited

/-- What interrupts a script. -/
inductive Jump where
  | next
  | nextFile
  | exit
  | leave
  | again
  | give (v : Value)
  deriving Inhabited

abbrev Reporting := ExceptT Jump (StateT State Work)

namespace Reporting

def work {α : Type} (w : Work α) : Reporting α := ExceptT.lift (StateT.lift w)

/-- Something goes wrong while the script runs. -/
def reject {α : Type} (t : Text) : Reporting α := work (do
  complainPlainly ((← read).name ++ ": ".toList ++ t)
  stop 2)

end Reporting

open Reporting

/-! ## Variables -/

/-- The cell of a variable. -/
def cellOf (name : Text) : Reporting Nat := do
  let s ← get
  match s.frame.lookup name with
  | some i => return i
  | none =>
    match s.globals[name]? with
    | some i => return i
    | none =>
      set { s with globals := s.globals.insert name s.next, cells := s.cells.insert s.next (.scalar .unset), next := s.next + 1 }
      return s.next

/-- What a variable other than the number of fields holds. -/
def plainValue (name : Text) : Reporting Value := do
  match (← get).cells[← cellOf name]? with
  | some (.scalar v) => return v
  | some (.array _) => reject ("run time error: array ".toList ++ name ++ " used as a scalar".toList)
  | _ => return .unset

def setPlain (name : Text) (v : Value) : Reporting Unit := do
  let i ← cellOf name
  match (← get).cells[i]? with
  | some (.array _) => reject ("run time error: array ".toList ++ name ++ " used as a scalar".toList)
  | _ => modify fun s => { s with cells := s.cells.insert i (.scalar v) }

/-- The array of a cell; a cell without a value becomes one. -/
def arrayIn (name : Text) : Nat → Nat → Reporting Nat
  | 0, _ => reject "run time error: type error in arrays".toList
  | n + 1, i => do
    match (← get).cells[i]? with
    | some (.array id) => return id
    | some (.sameAs j) =>
      let id ← arrayIn name n j
      modify fun s => { s with cells := s.cells.insert i (.array id) }
      return id
    | some (.scalar (.number _)) | some (.scalar (.text _)) | some (.scalar (.input _)) =>
      reject ("run time error: scalar ".toList ++ name ++ " used as an array".toList)
    | _ =>
      let s ← get
      set { s with cells := s.cells.insert i (.array s.next), arrays := s.arrays.insert s.next default, next := s.next + 1 }
      return s.next

/-- How many functions may hand on one array. -/
def maxHandings : Nat := 1000

def arrayOf (name : Text) : Reporting Nat := do arrayIn name maxHandings (← cellOf name)

def tableOf (name : Text) : Reporting Table := do
  return ((← get).arrays[← arrayOf name]?).getD default

def setTable (name : Text) (t : Table) : Reporting Unit := do
  let id ← arrayOf name
  modify fun s => { s with arrays := s.arrays.insert id t }

/-- The table with an element set. -/
def Table.put (t : Table) (key : Text) (v : Value) : Table :=
  match t.items[key]? with
  | some (_, age) => { t with items := t.items.insert key (v, age) }
  | none => ⟨t.items.insert key (v, t.count), t.count + 1⟩

/-- A number for the order in which names are gone through. -/
def mixed (t : Text) : Nat :=
  t.foldl (fun h c => (Nat.xor h c.toNat * 16777619) % 4294967296) 2166136261

/-- The names in a table in the order in which they are gone through. -/
def Table.keys (t : Table) : List Text :=
  let buckets := (List.range 24).foldl (fun b _ => if t.items.size > b * 12 then 2 * b else b) 64
  let keyed := t.items.toList.map fun (k, _, age) => (mixed k % buckets, age, k)
  (keyed.mergeSort fun (a b : Nat × Nat × Text) => a.1 < b.1 || (a.1 = b.1 && a.2.1 ≥ b.2.1)).map (·.2.2)

/-- The format for numbers within texts. -/
def textFormat : Reporting Text := do
  match ← plainValue "CONVFMT".toList with
  | .text t | .input t => return t
  | _ => return "%.6g".toList

def toText (v : Value) : Reporting Text := do
  match v with
  | .number x => return (Value.number x).toText (← textFormat)
  | v => return v.toText []

/-- The text of a variable. -/
def textOf (name : String) : Reporting Text := do toText (← plainValue name.toList)

/-! ## Expressions -/

/-- The matcher of an expression. -/
def matcherOf (t : Text) : Reporting Matcher := do
  match (← get).matchers[t]? with
  | some m => return m
  | none =>
    match Matcher.ofText .escaping false t with
    | .ok m =>
      modify fun s => { s with matchers := s.matchers.insert t m }
      return m
    | .error e =>
      reject ("line 1: regular expression compile failed (".toList ++ e.message.map Char.toLower ++ ")\n".toList ++ t)

/-! ## Records and fields -/

/-- How fields are told apart by a text. -/
def separatorOf (t : Text) : Reporting Separator := do
  match t with
  | [' '] => return .blanks
  | [] => return .nothing
  | [c] => return if c = '\\' then .character c else .character c
  | t => return .expression (← matcherOf t)

/-- The fields of the record. -/
def fields : Reporting (Array Value) := do
  let s ← get
  match s.fields? with
  | some fs => return fs
  | none =>
    let separator ← separatorOf (← textOf "FS")
    let endsAtLines := (← textOf "RS") = []
    let fs := ((separator.cut endsAtLines s.record).map Value.input).toArray
    modify fun s => { s with fields? := some fs }
    return fs

/-- Puts the record together from its fields. -/
def join (fs : Array Value) : Reporting Unit := do
  let texts ← fs.toList.mapM toText
  let separator ← textOf "OFS"
  modify fun s => { s with fields? := some fs, record := separator.intercalate texts }

def setRecord (t : Text) : Reporting Unit := modify fun s => { s with record := t, fields? := none }

/-- The most fields that a record may have. -/
def maxFields : Nat := 32767

def fieldValue (i : Int) : Reporting Value := do
  if i < 0 then reject ("run time error: negative field index $".toList ++ (toString i).toList)
  else if i = 0 then return .input (← get).record
  else return ((← fields)[i.toNat - 1]?).getD .unset

def setField (i : Int) (v : Value) : Reporting Unit := do
  if i < 0 ∨ i > maxFields then reject ("run time error: negative field index $".toList ++ (toString i).toList)
  else if i = 0 then setRecord (← toText v)
  else
    let fs ← fields
    let k := i.toNat
    let fs := if k > fs.size then fs ++ (Array.replicate (k - fs.size) Value.unset) else fs
    join (fs.set! (k - 1) v)

def numberOfFields : Text := "NF".toList

def valueOf (name : Text) : Reporting Value := do
  if name = numberOfFields then return .ofNat (← fields).size else plainValue name

def setValue (name : Text) (v : Value) : Reporting Unit := do
  if name = numberOfFields then
    let fs ← fields
    let k := min (truncated v.toNumber).toNat maxFields
    join ((fs ++ Array.replicate (k - fs.size) Value.unset).extract 0 k)
  else setPlain name v

/-! ## Input -/

/-- How records end now. -/
def recordEnd : Reporting RecordEnd := do
  match ← textOf "RS" with
  | [] => return .paragraph
  | [c] => return .character c
  | t => return .expression (← matcherOf t)

/-- Counts a variable up. -/
def countUp (name : String) : Reporting Unit := do
  setPlain name.toList (.number ((← plainValue name.toList).toNumber + 1.0))

/-- What backslashes stand for in the value of an argument. -/
def withoutEscapes (t : Text) : Text :=
  let line := (t.flatMap fun c => if c = '"' then ['\\', '"'] else if c = '\n' then "\\012".toList else [c]) ++ ['"']
  ((Token.quoted? (line.length + 1) [] line).map (·.1)).getD t

/-- The variable and the value of an argument that assigns one. -/
def assignment? (t : Text) : Option (Text × Text) :=
  match cut? '=' t with
  | some (c :: name, value) =>
    if (c.isAlpha || c = '_') && name.all fun d => d.isAlphanum || d = '_' then some (c :: name, withoutEscapes value) else none
  | _ => none

/-- Opens the next file of the input; false if there is none. -/
def openNext : Nat → Reporting Bool
  | 0 => return false
  | n + 1 => do
    let s ← get
    let count := (truncated (← plainValue "ARGC".toList).toNumber).toNat
    if s.argument ≥ count then
      if s.hasRead then return false
      else
        let p ← work process
        let t ← work (act p.readInput)
        modify fun s => { s with rest? := some t, hasRead := true }
        return true
    else
      set { s with argument := s.argument + 1 }
      let v := ((← tableOf "ARGV".toList).items[Text.ofNat s.argument]?).map (·.1)
      let t ← toText (v.getD .unset)
      if t = [] then openNext n
      else
        match assignment? t with
        | some (name, value) =>
          setValue name (.input value)
          openNext n
        | none =>
          match ← work (contentOf t) with
          | .ok content =>
            setPlain "FILENAME".toList (.text t)
            setPlain "FNR".toList (.number 0.0)
            modify fun s => { s with rest? := some content, hasRead := true }
            return true
          | .error e =>
            -- What has been written so far is written before the end.
            let _ : Unit ← reject ("cannot open \"".toList ++ t ++ "\" (".toList ++ describe e ++ [')'])
            return false

/-- The next record of the input. -/
def nextRecord? : Nat → Reporting (Option Text)
  | 0 => return none
  | n + 1 => do
    let s ← get
    if s.isOver then return none
    match s.rest? with
    | some rest =>
      match (← recordEnd).next? rest with
      | some (record, rest) =>
        modify fun s => { s with rest? := some rest }
        countUp "NR"
        countUp "FNR"
        return some record
      | none =>
        modify fun s => { s with rest? := none }
        nextRecord? n
    | none =>
      if ← openNext 10000 then nextRecord? n
      else
        modify fun s => { s with isOver := true }
        return none

/-- The next record of the input, through as many files as there may be. -/
def nextInput? : Reporting (Option Text) := nextRecord? 100000

/-! ## Output -/

variable (start : Starter)

/-- Runs a command of the shell. -/
def runCommand (command : Text) (change : Process → Process) : Reporting Outcome := do
  let result ← work (runChild start change ["/bin/sh".toList, "-c".toList, command])
  return result.toOption.getD (.exited 127)

/-- The number by which a command's end is told. -/
def endOf (o : Outcome) : Nat :=
  match o with
  | .exited n => n.toNat
  | .killed n => 256 + n.toNat

/-- Ends a target. -/
def closeTarget (name : Text) (t : Target) : Reporting Nat := do
  match t with
  | .command parts =>
    let input ← work (act (Machine.openStream (.source (Octets.toBytes parts.reverse.flatten))))
    return endOf (← runCommand start name (·.bind 0 input))
  | _ => return 0

/-- Writes to a target that has a name. -/
def writeTo (key : Text) (open_ : Reporting Target) (t : Text) : Reporting Unit := do
  let s ← get
  let target ←
    match s.targets.lookup key with
    | some target => pure target
    | none => do
      let target ← open_
      modify fun s => { s with targets := s.targets ++ [(key, target)] }
      pure target
  match target with
  | .standard => work (say t)
  | .stream n =>
    let _ ← work (act (Machine.write n (Octets.toBytes t)))
  | .command parts =>
    modify fun s => { s with targets := s.targets.map fun (e : Text × Target) =>
      if e.1 = key then (key, .command (t :: parts)) else e }

/-- Opens a file to be written. -/
def openTarget (isAppended : Bool) (name : Text) : Reporting Target := do
  if name = "/dev/stdout".toList ∨ name = ['-'] then return .standard
  else
    let p ← work process
    if name = "/dev/stderr".toList then return .stream ((p.stream? 2).getD Machine.errorStream)
    else
      match ← work (act (p.openFile name (if isAppended then .toAppend else .toWrite))) with
      | .ok n => return .stream n
      | .error e => reject ("cannot open \"".toList ++ name ++ "\" (".toList ++ describe e ++ [')'])

/-- Where a record of a file comes from. -/
def sourceOf (key : Text) (content : Reporting (Option (Text × Nat))) : Reporting (Option Text) := do
  match (← get).sources.lookup key with
  | some (t, _) => return some t
  | none =>
    match ← content with
    | none => return none
    | some (t, status) =>
      modify fun s => { s with sources := s.sources ++ [(key, t, status)] }
      return some t

/-- The next record of a source; nothing if it could not be opened, and an empty inner one at its end. -/
def recordOf (key : Text) (content : Reporting (Option (Text × Nat))) : Reporting (Option (Option Text)) := do
  match ← sourceOf key content with
  | none => return none
  | some t =>
    match (← recordEnd).next? t with
    | none => return some none
    | some (record, rest) =>
      modify fun s => { s with sources := s.sources.map fun (e : Text × Text × Nat) =>
        if e.1 = key then (key, rest, e.2.2) else e }
      return some (some record)

/-! ## Functions that every script has -/

/-- What stands for a match in a replacement. -/
def withMatch (found : Text) : Text → Text
  | '\\' :: '\\' :: '&' :: t => '\\' :: found ++ withMatch found t
  | '\\' :: '&' :: t => '&' :: withMatch found t
  | '&' :: t => found ++ withMatch found t
  | c :: t => c :: withMatch found t
  | [] => []

/-- A text with matches replaced, and how many there were. -/
def replaced (m : Matcher) (isAll : Bool) (replacement : Text) (t : Array Char) :
    Nat → Nat → Option Nat → List Text → Nat → Text × Nat
  | 0, i, _, out, count => (((t.extract i t.size).toList :: out).reverse.flatten, count)
  | n + 1, i, lastEnd?, out, count =>
    let ending : Text × Nat := (((t.extract i t.size).toList :: out).reverse.flatten, count)
    if i > t.size then ending
    else
      match (m.find? t i).bind (Marks.span? · 0) with
      | none => ending
      | some (a, b) =>
        let out := (t.extract i a).toList :: out
        if a = b ∧ lastEnd? = some a then
          replaced m isAll replacement t n (a + 1) none ((t.extract a (a + 1)).toList :: out) count
        else
          let out := withMatch (t.extract a b).toList replacement :: out
          if !isAll then (((t.extract b t.size).toList :: out).reverse.flatten, count + 1)
          else if a = b then replaced m isAll replacement t n (a + 1) none ((t.extract a (a + 1)).toList :: out) (count + 1)
          else replaced m isAll replacement t n b (some b) out (count + 1)

/-- A part of a text by place and length. -/
def part (t : Text) (start : Int) (length? : Option Int) : Text :=
  let length? := length?.map fun n => if start ≤ 0 then n - start else n
  let rest := t.drop (start - 1).toNat
  match length? with
  | some n => rest.take n.toNat
  | none => rest

/-- Where a text begins in another one, counted from 1; zero if it does not. -/
def indexIn (t u : Text) : Nat → Nat
  | k =>
    match t with
    | [] => if u = [] then k else 0
    | c :: t => if u.isPrefixOf (c :: t) then k else indexIn t u (k + 1)

/-- The function of arguments that are only values. -/
def knownValue (name : String) (args : List Value) : Reporting Value := do
  let texts ← args.mapM toText
  let number (i : Nat) : Float := ((args[i]?).getD .unset).toNumber
  let text (i : Nat) : Text := (texts[i]?).getD []
  match name with
  | "length" =>
    let s ← get
    return .ofNat (if args.isEmpty then s.record.length else (text 0).length)
  | "substr" => return .text (part (text 0) (truncated (number 1)) ((args[2]?).map fun v => truncated v.toNumber))
  | "index" => return .ofNat (if text 1 = [] then 1 else indexIn (text 0) (text 1) 1)
  | "sin" => return .number (number 0).sin
  | "cos" => return .number (number 0).cos
  | "atan2" => return .number (Float.atan2 (number 0) (number 1))
  | "exp" => return .number (number 0).exp
  | "log" => return .number (number 0).log
  | "sqrt" => return .number (number 0).sqrt
  | "int" =>
    let x := number 0
    return .number (if x < 0.0 then x.ceil + 0.0 else x.floor)
  | "rand" =>
    let s ← get
    let seed := (s.seed * 6364136223846793005 + 1442695040888963407) % 18446744073709551616
    set { s with seed := seed }
    return .number (Float.ofNat (seed / 8192) / 2251799813685248.0)
  | "srand" =>
    let s ← get
    let new := (args[0]?).getD (.number 1700000000.0)
    set { s with lastSeed := new, seed := (truncated new.toNumber).natAbs }
    return s.lastSeed
  | "tolower" => return .text ((text 0).map Char.toLower)
  | "toupper" => return .text ((text 0).map Char.toUpper)
  | "systime" => return .number 1700000000.0
  | "system" =>
    work flush
    return .ofNat (endOf (← runCommand start (text 0) id))
  | "fflush" =>
    work flush
    return .ofNat 0
  | "close" =>
    work flush
    let s ← get
    match s.targets.lookup (text 0), s.sources.lookup (text 0) with
    | some t, _ =>
      modify fun s => { s with targets := s.targets.filter fun e => e.1 ≠ text 0 }
      return .ofNat (← closeTarget start (text 0) t)
    | none, some (_, status) =>
      modify fun s => { s with sources := s.sources.filter fun e => e.1 ≠ text 0 }
      return .ofNat status
    | none, none => return .number (-1.0)
  | "sprintf" => formatAll (text 0) (args.drop 1) "sprintf"
  | _ => return .unset
where
  /-- What a format writes, or the end of the script. -/
  formatAll (format : Text) (args : List Value) (name : String) : Reporting Value := do
    match formatted (formatSteps format) (← textFormat) format.length 1 format args with
    | (t, none) => return .text t
    | (t, some mistake) =>
      let what := match mistake with
        | .tooFewArguments => "not enough arguments passed to ".toList
        | .badConversion n => "improper conversion(number ".toList ++ Text.ofNat n ++ ") in ".toList
      let file ← textOf "FILENAME"
      let place := "\tFILENAME=\"".toList ++ file ++ "\" FNR=".toList ++ (← textOf "FNR") ++ " NR=".toList ++ (← textOf "NR")
      work (do
        complainPlainly ((← read).name ++ ": run time error: ".toList ++ what ++ name.toList ++ "(\"".toList ++ format ++ "\")\n".toList ++ place)
        if name = "printf" then say t
        flush
        stop 2)

/-! ## Terms -/

/-- The name of an element. -/
def keyOf (vs : List Value) : Reporting Text := do
  let separator ← textOf "SUBSEP"
  return separator.intercalate (← vs.mapM toText)

/-- Marks the number of an input record read from elsewhere. -/
def numberNew (countsFile : Bool) : Reporting Unit := do
  countUp "NR"
  if countsFile then countUp "FNR"

mutual

/-- The value of a term. -/
def evaluate (n : Nat) (t : Term) : Reporting Value :=
  match n with
  | 0 => work (throw (.killed (UInt8.ofNat Signal.kill)))
  | n + 1 => do
    match t with
    | .number x => return .number x
    | .text t => return .text t
    | .regex t => return .ofBool ((← matcherOf t).fits (← get).record)
    | .variable_ name => valueOf name
    | .field i => fieldValue (truncated (← evaluate n i).toNumber)
    | .element name index =>
      let key ← keyOf (← evaluateAll n index)
      let table ← tableOf name
      match table.items[key]? with
      | some (v, _) => return v
      | none =>
        setTable name (table.put key .unset)
        return .unset
    | .negative a => return .number (-(← evaluate n a).toNumber)
    | .positive a => return .number (← evaluate n a).toNumber
    | .not a => return .ofBool (!(← evaluate n a).isTrue)
    | .arithmetic op a b =>
      let x := (← evaluate n a).toNumber
      let y := (← evaluate n b).toNumber
      return .number (op.apply x y)
    | .concatenation a b =>
      let x ← toText (← evaluate n a)
      let y ← toText (← evaluate n b)
      return .text (x ++ y)
    | .comparison op a b =>
      let x ← evaluate n a
      let y ← evaluate n b
      return .ofBool (op.holds (← textFormat) x y)
    | .fits isNegated a pattern =>
      let t ← toText (← evaluate n a)
      let m ← matcherFrom n pattern
      return .ofBool (m.fits t != isNegated)
    | .isIn index array =>
      let key ← keyOf (← evaluateAll n index)
      return .ofBool ((← tableOf array).items.contains key)
    | .and a b => if (← evaluate n a).isTrue then return .ofBool (← evaluate n b).isTrue else return .ofBool false
    | .or a b => if (← evaluate n a).isTrue then return .ofBool true else return .ofBool (← evaluate n b).isTrue
    | .choice c yes no => if (← evaluate n c).isTrue then evaluate n yes else evaluate n no
    | .assign place value =>
      let v ← evaluate n value
      store n place v
      return v
    | .update op place value =>
      let y := (← evaluate n value).toNumber
      let x := (← evaluate n place).toNumber
      let v := Value.number (op.apply x y)
      store n place v
      return v
    | .step isBefore amount place =>
      let x := (← evaluate n place).toNumber
      let new := x + Float.ofInt amount
      store n place (.number new)
      return .number (if isBefore then new else x)
    | .call name args => call n name args
    | .known name args => known n (String.ofList name) args
    | .record place? =>
      match ← nextInput? with
      | none => return .number 0.0
      | some record =>
        keep n place? record
        return .number 1.0
    | .recordOf file place? =>
      let name ← toText (← evaluate n file)
      let found ← recordOf name (do
        work flush
        match ← work (contentOf name) with
        | .ok t => return some (t, 0)
        | .error _ => return none)
      match found with
      | none => return .number (-1.0)
      | some none => return .number 0.0
      | some (some record) =>
        keep n place? record
        return .number 1.0
    | .recordFrom command place? =>
      let name ← toText (← evaluate n command)
      let found ← recordOf name (do
        let out ← work (do
          flush
          act (Machine.openStream Machine.newBuffer))
        let o ← runCommand start name (·.bind 1 out)
        return some (Octets.ofBytes (← work (act (Machine.takeStream out))), endOf o))
      match found with
      | none | some none => return .number 0.0
      | some (some record) =>
        numberNew true
        keep n place? record
        return .number 1.0
    | .group ts => return .text (← keyOf (← evaluateAll n ts))

/-- The values of terms, from the left. -/
def evaluateAll (n : Nat) (ts : List Term) : Reporting (List Value) :=
  match n with
  | 0 => return []
  | n + 1 =>
    match ts with
    | [] => return []
    | t :: ts => do
      let v ← evaluate n t
      return v :: (← evaluateAll n ts)

/-- Puts a record where it is asked for. -/
def keep (n : Nat) (place? : Option Term) (record : Text) : Reporting Unit :=
  match n with
  | 0 => pure ()
  | n + 1 =>
    match place? with
    | none => setRecord record
    | some place => store n place (.input record)

/-- Puts a value in a place. -/
def store (n : Nat) (place : Term) (v : Value) : Reporting Unit :=
  match n with
  | 0 => pure ()
  | n + 1 => do
    match place with
    | .variable_ name => setValue name v
    | .field i => setField (truncated (← evaluate n i).toNumber) v
    | .element name index =>
      let key ← keyOf (← evaluateAll n index)
      setTable name ((← tableOf name).put key v)
    | _ => pure ()

/-- The matcher that a term stands for. -/
def matcherFrom (n : Nat) (t : Term) : Reporting Matcher :=
  match n with
  | 0 => return default
  | n + 1 => do
    match t with
    | .regex t => matcherOf t
    | t => matcherOf (← toText (← evaluate n t))

/-- Calls a function that every script has. -/
def known (n : Nat) (name : String) (args : List Term) : Reporting Value :=
  match n with
  | 0 => return .unset
  | n + 1 => do
    match name, args with
    | "length", [.variable_ a] =>
      match (← get).cells[← cellOf a]? with
      | some (.array id) => return .ofNat ((((← get).arrays[id]?).map fun t => t.items.size).getD 0)
      | _ => knownValue start name (← evaluateAll n args)
    | "split", t :: .variable_ a :: more =>
      let text ← toText (← evaluate n t)
      let separator ←
        match more with
        | [.regex r] => do pure (.expression (← matcherOf r))
        | [t] => do separatorOf (← toText (← evaluate n t))
        | _ => separatorOf (← textOf "FS")
      let pieces := separator.cut false text
      let (table, _) := pieces.foldl (fun ((t, i) : Table × Nat) s => (t.put (Text.ofNat i) (.input s), i + 1)) (default, 1)
      setTable a table
      return .ofNat pieces.length
    | "sub", r :: t :: target => substitute n false r t (target.headD (.field (.number 0.0)))
    | "gsub", r :: t :: target => substitute n true r t (target.headD (.field (.number 0.0)))
    | "match", [t, r] =>
      let text ← toText (← evaluate n t)
      let m ← matcherFrom n r
      let (a, b) : Float × Float :=
        match (m.find? text.toArray 0).bind (Marks.span? · 0) with
        | some (a, b) => (Float.ofNat (a + 1), Float.ofNat (b - a))
        | none => (0.0, -1.0)
      setPlain "RSTART".toList (.number a)
      setPlain "RLENGTH".toList (.number b)
      return .number a
    | name, args => knownValue start name (← evaluateAll n args)

/-- Replaces matches in a place. -/
def substitute (n : Nat) (isAll : Bool) (pattern replacement target : Term) : Reporting Value :=
  match n with
  | 0 => return .unset
  | n + 1 => do
    let m ← matcherFrom n pattern
    let r ← toText (← evaluate n replacement)
    let t ← toText (← evaluate n target)
    let array := t.toArray
    let (new, count) := replaced m isAll r array (2 * array.size + 2) 0 none [] 0
    if count > 0 ∧ target.isPlace then store n target (.text new)
    return .ofNat count

/-- Calls a function of the script. -/
def call (n : Nat) (name : Text) (args : List Term) : Reporting Value :=
  match n with
  | 0 => return .unset
  | n + 1 => do
    match (← get).script.functions.find? fun f => f.name = name with
    | none => reject ("function ".toList ++ name ++ " never defined".toList)
    | some f =>
      if args.length > f.parameters.length then
        reject ("line 1: too many arguments in call to ".toList ++ name)
      let cells ← argumentCells n args
      let missing := f.parameters.length - cells.length
      let cells := cells ++ List.replicate missing (.scalar .unset)
      let s ← get
      let old := s.frame
      let frame := f.parameters.zipIdx.map fun (p, i) => (p, s.next + i)
      set { s with
        frame := frame
        next := s.next + cells.length
        cells := (cells.zipIdx.foldl (fun m (c, i) => m.insert (s.next + i) c) s.cells) }
      let result ← tryCatch (do
        run n f.body
        return .unset) fun j =>
          match j with
          | .give v => pure v
          | j => throw j
      modify fun s => { s with frame := old, cells := frame.foldl (fun m e => m.erase e.2) s.cells }
      return result

/-- What the parameters of a function stand for. -/
def argumentCells (n : Nat) (args : List Term) : Reporting (List Cell) :=
  match n with
  | 0 => return []
  | n + 1 =>
    match args with
    | [] => return []
    | a :: args => do
      let cell ←
        match a with
        | .variable_ name =>
          if name = numberOfFields then do pure (Cell.scalar (← valueOf name))
          else do
            let i ← cellOf name
            match (← get).cells[i]? with
            | some (.array id) => pure (Cell.array id)
            | some (.scalar .unset) | some (.sameAs _) => pure (Cell.sameAs i)
            | some c => pure c
            | none => pure (Cell.scalar .unset)
        | t => do pure (Cell.scalar (← evaluate n t))
      return cell :: (← argumentCells n args)

/-- Runs a statement. -/
def run (n : Nat) (s : Statement) : Reporting Unit :=
  match n with
  | 0 => work (throw (.killed (UInt8.ofNat Signal.kill)))
  | n + 1 => do
    match s with
    | .nothing => pure ()
    | .term t =>
      let _ ← evaluate n t
    | .print ts sink? =>
      let ending ← textOf "ORS"
      let text ←
        if ts.isEmpty then pure (← get).record
        else do
          let format ← plainValue "OFMT".toList
          let vs ← evaluateAll n ts
          let texts ← vs.mapM fun v =>
            match v, format with
            | .number x, .text f | .number x, .input f => pure (numberText (formatSteps f) f x)
            | v, _ => toText v
          pure ((← textOf "OFS").intercalate texts)
      write n sink? (text ++ ending)
    | .printf ts sink? =>
      let vs ← evaluateAll n ts
      match vs with
      | [] => pure ()
      | f :: vs =>
        let v ← knownValue.formatAll (← toText f) vs "printf"
        write n sink? (← toText v)
    | .block body => runAll n body
    | .when_ c yes no => if (← evaluate n c).isTrue then run n yes else run n no
    | .while_ c body => loop n c .nothing body
    | .doWhile body c =>
      if ← runBody n body then loop n c .nothing body
    | .for_ first c? after body =>
      run n first
      loop n (c?.getD (.number 1.0)) after body
    | .forIn_ name array body => runFor n name body (← tableOf array).keys array
    | .break_ => throw .leave
    | .continue_ => throw .again
    | .next => throw .next
    | .nextFile => throw .nextFile
    | .exit_ status? =>
      if let some t := status? then
        let v ← evaluate n t
        modify fun s => { s with status := ((truncated v.toNumber) % 256).toNat }
      throw .exit
    | .return_ value? =>
      match value? with
      | some t => throw (.give (← evaluate n t))
      | none => throw (.give .unset)
    | .delete name index? =>
      match index? with
      | some index =>
        let key ← keyOf (← evaluateAll n index)
        let t ← tableOf name
        setTable name { t with items := t.items.erase key }
      | none => setTable name default

/-- Runs statements one after another. -/
def runAll (n : Nat) (ss : List Statement) : Reporting Unit :=
  match n with
  | 0 => work (throw (.killed (UInt8.ofNat Signal.kill)))
  | n + 1 =>
    match ss with
    | [] => pure ()
    | s :: ss => do
      run n s
      runAll n ss

/-- Runs the body of a loop; false if the loop is left. -/
def runBody (n : Nat) (body : Statement) : Reporting Bool :=
  match n with
  | 0 => return false
  | n + 1 => tryCatch (do
      run n body
      return true) fun j =>
        match j with
        | .leave => pure false
        | .again => pure true
        | j => throw j

/-- Runs a loop while its condition holds. -/
def loop (n : Nat) (condition : Term) (after body : Statement) : Reporting Unit :=
  match n with
  | 0 => work (throw (.killed (UInt8.ofNat Signal.kill)))
  | n + 1 => do
    if (← evaluate n condition).isTrue then
      if ← runBody n body then
        run n after
        loop n condition after body

/-- Runs a loop for the names in an array. -/
def runFor (n : Nat) (name : Text) (body : Statement) (keys : List Text) (array : Text) : Reporting Unit :=
  match n with
  | 0 => work (throw (.killed (UInt8.ofNat Signal.kill)))
  | n + 1 =>
    match keys with
    | [] => pure ()
    | k :: ks => do
      setValue name (.input k)
      if ← runBody n body then runFor n name body ks array

/-- Writes a text where a sink says. -/
def write (n : Nat) (sink? : Option Sink) (t : Text) : Reporting Unit :=
  match n with
  | 0 => pure ()
  | n + 1 => do
    match sink? with
    | none => work (say t)
    | some (.file isAppended name) =>
      let name ← toText (← evaluate n name)
      writeTo name (openTarget isAppended name) t
    | some (.command command) =>
      let command ← toText (← evaluate n command)
      writeTo command (do
        work flush
        return .command []) t

end

/-! ## The whole script -/

/-- How many steps one action may take. -/
def maxSteps : Nat := 1000000

/-- Whether a rule is for the record at hand. -/
def isMeant (index : Nat) (p : Pattern) : Reporting Bool := do
  match p with
  | .first | .last => return false
  | .always => return true
  | .term t => return (← evaluate start maxSteps t).isTrue
  | .range first last =>
    let isOpen := (← get).openRanges.contains index
    if isOpen || (← evaluate start maxSteps first).isTrue then
      let isOver := (← evaluate start maxSteps last).isTrue
      modify fun s => { s with openRanges :=
        if isOver then s.openRanges.filter (· ≠ index) else index :: s.openRanges.filter (· ≠ index) }
      return true
    else return false

/-- Does what rules say, each with its number, for the record at hand. -/
def runRules : List (Rule × Nat) → Reporting Unit
  | [] => pure ()
  | (r, i) :: rules => do
    if ← isMeant start i r.pattern then
      run start maxSteps (r.action?.getD (.print [] none))
    runRules rules

/-- Goes through the records of the input. -/
def runRecords (rules : List (Rule × Nat)) : Nat → Reporting Unit
  | 0 => pure ()
  | n + 1 => do
    match ← nextInput? with
    | none => pure ()
    | some record =>
      setRecord record
      tryCatch (runRules start rules) fun j =>
        match j with
        | .next => pure ()
        | .nextFile => modify fun s => { s with rest? := none }
        | j => throw j
      runRecords rules n

/-- Does what the rules for the start or the end say. -/
def runEdge (rules : List Rule) : Reporting Unit := do
  for r in rules do
    run start maxSteps (r.action?.getD .nothing)

/-- Does something; false if the script was ended in it. -/
def unlessEnded (body : Reporting Unit) : Reporting Bool :=
  tryCatch (do
    body
    return true) fun _ => pure false

/-- Runs a script. -/
def runScript : Reporting Unit := do
  let s := (← get).script
  let isFirst (r : Rule) : Bool := r.pattern matches .first
  let isLast (r : Rule) : Bool := r.pattern matches .last
  let main := s.rules.zipIdx.filter fun r => !isFirst r.1 && !isLast r.1
  let goesOn ← unlessEnded (do
    runEdge start (s.rules.filter isFirst)
    if main.length > 0 ∨ s.rules.any isLast then runRecords start main maxSteps)
  let _ := goesOn
  let _ ← unlessEnded (runEdge start (s.rules.filter isLast))
  -- Commands that are still written to run now, before the last of the standard output.
  for (name, t) in (← get).targets do
    if t matches .command _ then
      let s ← get
      let p ← work process
      let parts := match s.targets.lookup name with
        | some (.command parts) => parts
        | _ => []
      let input ← work (act (Machine.openStream (.source (Octets.toBytes parts.reverse.flatten))))
      let id ← work (act Machine.newProcess)
      let child := { p with id := id, parent := p.id }.bind 0 input
      let _ ← work (act (start child "/bin/sh".toList ["/bin/sh".toList, "-c".toList, name]))

/-- The variables that every script has. -/
def initialValues : List (String × Value) :=
  [("FS", .text [' ']), ("OFS", .text [' ']), ("ORS", .text ['\n']), ("RS", .text ['\n']), ("NR", .number 0.0),
    ("FNR", .number 0.0), ("SUBSEP", .text ['\x1c']), ("CONVFMT", .text "%.6g".toList), ("OFMT", .text "%.6g".toList),
    ("RSTART", .number 0.0), ("RLENGTH", .number (-1.0)), ("FILENAME", .unset)]

/-- Gives the variables their first values. -/
def prepare (args : List Text) (environment : List (Text × Text)) (given : List (Text × Text)) : Reporting Unit := do
  for (name, v) in initialValues do
    setPlain name.toList v
  setTable "ENVIRON".toList (environment.foldl (fun (t : Table) e => t.put e.1 (.input e.2)) default)
  setTable "ARGV".toList ((args.zipIdx.foldl (fun (t : Table) (a, i) => t.put (Text.ofNat i) (.input a)) default))
  setPlain "ARGC".toList (.ofNat args.length)
  for (name, value) in given do
    setValue name (.input value)

end Report

open Report in
/-- Makes a report from records. -/
def awk (start : Starter) : Body := fun args => withReader (fun c => { c with name := lastName c.name }) do
  let (options, programs, operands) ← readOptions (args.length + 1) args [] []
  let name := (← read).name
  let (text, operands) ←
    match programs, operands with
    | [], t :: ops => pure (t, ops)
    | [], [] =>
      complainPlainly "Usage: mawk [Options] [Program] [file ...]".toList
      stop 2
    | files, ops => do
      let mut parts : List Text := []
      for file in files do
        match ← contentOf file with
        | .ok t => parts := parts ++ [t]
        | .error e => fail 2 ("cannot open \"".toList ++ file ++ "\" (".toList ++ describe e ++ [')'])
      pure (['\n'].intercalate parts, ops)
  match Script.ofText text with
  | .error (line, message) => fail 2 ("line ".toList ++ Text.ofNat line ++ ": ".toList ++ message)
  | .ok script =>
    let self ← process
    let s : State := { (default : State) with script := script, argument := 1, lastSeed := .number 0.0, seed := self.id }
    let (_, s) ← (do
      prepare (name :: operands) self.environment options
      runScript start : Reporting Unit).run.run s
    flush
    endWith s.status
where
  /-- Reads the options: variables with their values, and the files of the script. -/
  readOptions : Nat → List Text → List (Text × Text) → List Text →
      Work (List (Text × Text) × List Text × List Text)
    | 0, args, given, files => return (given.reverse, files.reverse, args)
    | n + 1, args, given, files => do
      let valueOf (t : Text) (rest : List Text) : Work (Text × List Text) := do
        match t, rest with
        | [], [] => fail 2 "no argument for option".toList
        | [], v :: rest => return (v, rest)
        | t, rest => return (t, rest)
      match args with
      | ['-', '-'] :: rest => return (given.reverse, files.reverse, rest)
      | ('-' :: 'F' :: t) :: rest =>
        let (v, rest) ← valueOf t rest
        readOptions n rest (("FS".toList, withoutEscapes v) :: given) files
      | ('-' :: 'v' :: t) :: rest =>
        let (v, rest) ← valueOf t rest
        match assignment? v with
        | some e => readOptions n rest (e :: given) files
        | none => fail 2 ("improper assignment: -v ".toList ++ v)
      | ('-' :: 'f' :: t) :: rest =>
        let (v, rest) ← valueOf t rest
        readOptions n rest given (v :: files)
      | ('-' :: 'W' :: t) :: rest =>
        let (v, rest) ← valueOf t rest
        if v.head? = some 'v' then
          sayLine "mawk 1.3.4 20240123".toList
          stop 0
        readOptions n rest given files
      | ('-' :: c :: t) :: rest =>
        if "-version".toList.isPrefixOf (c :: t) then
          sayLine "mawk 1.3.4 20240123".toList
          flush
          stop 0
        fail 2 ("not an option: -".toList ++ c :: t ++ (if rest = [] then [] else []))
      | args => return (given.reverse, files.reverse, args)

end JavacLauncher.Tool
