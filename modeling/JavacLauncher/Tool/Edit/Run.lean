import JavacLauncher.Machine.Change
import JavacLauncher.Tool.Edit.Reader
import JavacLauncher.Tool.Starting

/-!
# Editing files

The script is gone through for one line after another, and what is in the space at its end is written. A last
line that nothing ends is written without an end, unless more is written behind it.
-/

namespace JavacLauncher.Tool.Edit

/-- Where a range stands. -/
inductive RangeState where
  | closed
  /-- Open, up to a line if that is known. -/
  | open_ (last? : Option Nat)
  deriving DecidableEq, Repr, Inhabited

/-- What is written when the script has been gone through. -/
inductive Queued where
  | text (t : Text)
  | file (name : Text)
  | line (t : Text)
  deriving Repr, Inhabited

/-- A file that is written to. -/
structure Output where
  name : Text
  stream : Nat
  /-- The last line that was written there has no end. -/
  lacksEnd : Bool
  deriving Inhabited

/-- How the editing is done. -/
structure Manner where
  script : Script
  ending : Char
  isQuiet : Bool
  /-- Each file is edited by itself. -/
  isSeparate : Bool
  /-- Files are replaced by what comes of them; if they are kept, so are they called. -/
  inPlace? : Option (Option Text)
  width : Nat
  deriving Inhabited

/-- The state of the work. -/
structure State where
  space : Text
  hold : Text
  number : Nat
  /-- The line in the space has no end, and so has the one in the hold. -/
  lacksEnd : Bool
  holdLacksEnd : Bool
  /-- The lines that are left of the current file, its name, and whether its last line has no end. -/
  lines : List Text
  name : Text
  lastLacksEnd : Bool
  /-- The files still to be read. -/
  files : List Text
  queue : List Queued
  ranges : Array RangeState
  /-- Something has been replaced since the line was read. -/
  hasReplaced : Bool
  /-- The matcher that was used last. -/
  last? : Option Matcher
  outputs : List Output
  /-- The last line of the main output has no end. -/
  mainLacksEnd : Bool
  /-- What has been written in the place of the current file, the last part first. -/
  edited : List Text
  isEditing : Bool
  /-- What is left of files that are read line by line. -/
  readers : List (Text × List Text)
  status : Nat
  deriving Inhabited

/-- What comes after a command. -/
inductive Flow where
  /-- The end of the script. -/
  | done
  /-- The next line, without writing this one. -/
  | drop
  /-- The start of the script with what is left in the space. -/
  | again
  | quit (status : Nat) (prints : Bool)
  deriving DecidableEq, Repr, Inhabited

abbrev Editing := StateT State Work

variable (m : Manner)

/-! ## Output -/

/-- Writes to the main output. -/
def emit (t : Text) : Editing Unit := do
  if (← get).isEditing then modify fun s => { s with edited := t :: s.edited } else liftM (say t)

/-- Ends the last line of the main output if nothing has. -/
def endLine : Editing Unit := do
  if (← get).mainLacksEnd then
    emit [m.ending]
    modify fun s => { s with mainLacksEnd := false }

/-- Writes a line to the main output. -/
def emitLine (t : Text) (lacksEnd : Bool) : Editing Unit := do
  endLine m
  emit (if lacksEnd then t else t ++ [m.ending])
  modify fun s => { s with mainLacksEnd := lacksEnd }

/-- Writes a text to the main output. -/
def emitText (t : Text) : Editing Unit := do
  endLine m
  emit t

/-- Writes a line to a file. -/
def writeLine (file : Text) (t : Text) (lacksEnd : Bool) : Editing Unit := do
  if file = "/dev/stdout".toList then emitLine m t lacksEnd
  else
    let s ← get
    match s.outputs.find? fun o => o.name = file with
    | none => pure ()
    | some o =>
      let text := (if o.lacksEnd then [m.ending] else []) ++ t ++ (if lacksEnd then [] else [m.ending])
      let _ ← liftM (act (Machine.write o.stream (Octets.toBytes text)))
      set { s with outputs := s.outputs.map fun (e : Output) => if e.name = file then { e with lacksEnd := lacksEnd } else e }

/-! ## Input -/

/-- A complaint that does not wait for what has been gathered. -/
def grumble (t : Text) : Editing Unit := do
  liftM (do complainPlainly ((← read).name ++ ": ".toList ++ t) : Work Unit)

/-- Puts what came of the current file in its place. -/
def finishFile : Editing Unit := do
  let s ← get
  if s.isEditing then
    match m.inPlace? with
    | none => pure ()
    | some keep? =>
      let p ← liftM process
      let bytes := Octets.toBytes s.edited.reverse.flatten
      match ← liftM (act (p.find false s.name)) with
      | .error _ => pure ()
      | .ok (place, _, node) =>
        if let some ending := keep? then
          let base := (s.name.reverse.takeWhile (· ≠ '/')).reverse
          let front := s.name.take (s.name.length - base.length)
          let kept := if '*' ∈ ending then ending.flatMap fun c => if c = '*' then base else [c] else base ++ ending
          if let .error e ← liftM (act (p.move s.name (if '/' ∈ kept then kept else front ++ kept))) then
            liftM (fail 4 ("cannot rename ".toList ++ s.name ++ ": ".toList ++ describe e) : Work Unit)
        liftM (act (Machine.changeTree fun now t => t.insert place ⟨.file bytes, node.mode, now⟩))
    set { s with isEditing := false, edited := [], mainLacksEnd := false }

/-- Opens the next file. -/
def openNext : Editing Unit := do
  finishFile m
  let s ← get
  match s.files with
  | [] => pure ()
  | file :: files =>
    set { s with files := files }
    let p ← liftM process
    let isStandard := file = ['-'] ∧ m.inPlace?.isNone
    let found ← liftM (act (p.find true file))
    let isPlain : Bool :=
      match found with
      | .ok (_, _, n) => (n.kind matches .file _ | .program _)
      | .error _ => true
    if m.inPlace?.isSome && !isPlain then
      grumble ("couldn't edit ".toList ++ file ++ ": not a regular file".toList)
      modify fun s => { s with status := 4 }
    else
      match ← liftM (if isStandard then act (p.read 0 none) else act (p.readFile file)) with
      | .error e =>
        if e = .isDirectory then
          grumble ("read error on ".toList ++ file ++ ": ".toList ++ describe e)
          liftM (stop 4 : Work Unit)
        else grumble ("can't read ".toList ++ file ++ ": ".toList ++ describe e)
        modify fun s => { s with status := 2 }
      | .ok t =>
        let s ← get
        set { s with
          lines := linesOf m.ending t
          lastLacksEnd := t ≠ [] && t.getLast? ≠ some m.ending
          name := file
          number := if m.isSeparate then 0 else s.number
          hold := if m.isSeparate then [] else s.hold
          ranges := if m.isSeparate then m.script.map fun (c : Command) => if c.range.isOpen then .open_ none else .closed else s.ranges
          isEditing := m.inPlace?.isSome }

/-- Opens files until there is a line to read; false if there is none. -/
def hasLine : Nat → Editing Bool
  | 0 => return false
  | n + 1 => do
    let s ← get
    if s.lines ≠ [] then return true
    else if s.files = [] then return false
    else
      openNext m
      hasLine n

/-- Whether the line at hand is the last one. -/
def isLast : Editing Bool := do
  let s ← get
  if s.lines ≠ [] then return false
  else if m.isSeparate then return true
  else return !(← hasLine m (s.files.length + 1))

/-- Takes the next line; none if there is none. -/
def takeLine? : Editing (Option Text) := do
  if ← hasLine m ((← get).files.length + 1) then
    let s ← get
    match s.lines with
    | [] => return none
    | l :: ls =>
      set { s with lines := ls, number := s.number + 1, lacksEnd := ls = [] && s.lastLacksEnd }
      return some l
  else return none

/-! ## Which lines a command is for -/

/-- Whether an expression matches; if none is given, the one that was used last. -/
def matcherOrLast (matcher? : Option Matcher) : Editing Matcher := do
  let s ← get
  match matcher? <|> s.last? with
  | some matcher =>
    set { s with last? := some matcher }
    return matcher
  | none => liftM (fail 1 "-e expression #1, char 0: no previous regular expression".toList)

def fitsSpace (matcher? : Option Matcher) : Editing Bool := do
  return (← matcherOrLast matcher?).fits (← get).space

/-- Whether a condition holds of the line at hand. -/
def holds : Point → Editing Bool
  | .line n => do return (← get).number = n
  | .every first step => do
    let n := (← get).number
    return if step = 0 then n = first else n ≥ first && (n - first) % step = 0
  | .last => isLast m
  | .fits matcher? => fitsSpace matcher?

/-- Opens a range at the line at hand, unless it is over with it. -/
def openRange (index : Nat) (stop : Stop) : Editing Unit := do
  let n := (← get).number
  let open_ (last? : Option Nat) : Editing Unit :=
    modify fun s => { s with ranges := s.ranges.set! index (.open_ last?) }
  match stop with
  | .line k => if k > n then open_ (some k)
  | .after k => if k > 0 then open_ (some (n + k))
  | .multiple k => if k > 0 then open_ (some ((n / k + 1) * k))
  | .last => if ← isLast m then pure () else open_ none
  | .fits _ => open_ none

/-- Whether a command is for the line at hand. -/
def isMeant (index : Nat) (r : Range) : Editing Bool := do
  let plain ←
    match r.first?, r.stop? with
    | none, _ => pure true
    | some p, none => holds m p
    | some p, some stop =>
      let close : Editing Unit := modify fun s => { s with ranges := s.ranges.set! index .closed }
      match ((← get).ranges[index]?).getD .closed with
      | .closed =>
        if ← holds m p then
          openRange m index stop
          pure true
        else pure false
      | .open_ (some last) =>
        let n := (← get).number
        if n ≥ last then close
        pure (decide (n ≤ last))
      | .open_ none =>
        let isOver ←
          match stop with
          | .fits matcher? => fitsSpace matcher?
          | .last => isLast m
          | _ => pure true
        if isOver then close
        pure true
  return plain != r.isNegated

/-! ## Replacing -/

/-- How the letters of a replacement are written. -/
structure Casing where
  /-- All letters: `U`, `L`, or as they are. -/
  all? : Option Char
  /-- The next letter. -/
  next? : Option Char
  deriving Inhabited

/-- A letter as it is to be written. -/
def Casing.apply (k : Char) (c : Char) : Char := if k = 'U' ∨ k = 'u' then c.toUpper else c.toLower

/-- A text as it is to be written. -/
def Casing.write (k : Casing) (t : Text) : Text × Casing :=
  match t with
  | [] => ([], k)
  | c :: t =>
    let all (c : Char) : Char := match k.all? with
      | some a => Casing.apply a c
      | none => c
    let first := match k.next? with
      | some a => Casing.apply a c
      | none => all c
    (first :: t.map all, { k with next? := none })

/-- What a match is replaced with. -/
def replacement (t : Array Char) (marks : Marks) (parts : List Part) : Text :=
  (parts.foldl (fun ((out, k) : List Text × Casing) part =>
    match part with
    | .text s =>
      let (s, k) := k.write s
      (s :: out, k)
    | .group n =>
      let (s, k) := k.write (marks.text t n)
      (s :: out, k)
    | .shift c =>
      if c = 'u' ∨ c = 'l' then (out, { k with next? := some c })
      else (out, ⟨if c = 'E' then none else some c, none⟩)) (([], ⟨none, none⟩) : List Text × Casing)).1.reverse.flatten

/-- The text with matches replaced, from a place on, and whether there were any. An empty match that follows
another match at once does not count. -/
def replaced (matcher : Matcher) (c : Change) (t : Array Char) :
    Nat → Nat → Nat → Option Nat → List Text → Bool → Text × Bool
  | 0, i, _, _, out, found => ((((t.extract i t.size).toList) :: out).reverse.flatten, found)
  | n + 1, i, count, lastEnd?, out, found =>
    let rest (i : Nat) (out : List Text) (found : Bool) : Text × Bool :=
      (((t.extract i t.size).toList :: out).reverse.flatten, found)
    if i > t.size then rest i out found
    else
      match (matcher.find? t i).bind fun marks => (marks.span? 0).map fun s => (marks, s) with
      | none => rest i out found
      | some (marks, a, b) =>
        let out := (t.extract i a).toList :: out
        if a = b ∧ lastEnd? = some a then
          replaced matcher c t n (a + 1) count none ((t.extract a (a + 1)).toList :: out) found
        else
          let isCounted := count + 1 ≥ c.number
          let out := (if isCounted then replacement t marks c.parts else (t.extract a b).toList) :: out
          let found := found || isCounted
          if isCounted ∧ !c.isGlobal then rest b out found
          else if a = b then replaced matcher c t n (a + 1) (count + 1) none ((t.extract a (a + 1)).toList :: out) found
          else replaced matcher c t n b (count + 1) (some b) out found

/-! ## Listing -/

/-- A character in a form that can be seen. -/
def listed (c : Char) : Text :=
  match c with
  | '\\' => "\\\\".toList
  | c => if isShown c then [c] else escapeChar c

/-- A line in a form that can be seen, in rows of a width. -/
def listing (width : Nat) (t : Text) : Text :=
  let (rows, _) := t.foldl (fun ((out, column) : List Text × Nat) c =>
    let s := listed c
    if width > 0 ∧ column + s.length > width - 1 then (s :: "\\\n".toList :: out, s.length)
    else (s :: out, column + s.length)) (([], 0) : List Text × Nat)
  rows.reverse.flatten ++ "$\n".toList

/-! ## Going through the script -/

/-- What a command of the shell writes. -/
def outputOf (start : Starter) (command : Text) : Editing Text := do
  liftM (do
    let n ← act (Machine.openStream Machine.newBuffer)
    let _ ← runChild start (·.bind 1 n) ["/bin/sh".toList, "-c".toList, command]
    return Octets.ofBytes (← act (Machine.takeStream n)) : Work Text)

/-- Writes what is to be written behind the line. -/
def emitQueue : Editing Unit := do
  let queue := (← get).queue
  modify fun s => { s with queue := [] }
  for q in queue do
    match q with
    | .text t => emitText m t
    | .line t => emitLine m t false
    | .file name =>
      let p ← liftM process
      let content ←
        liftM (if name = "/dev/stdin".toList then act (p.read 0 none) else act (p.readFile name))
      if let .ok t := content then
        if t ≠ [] then emitText m t

/-- Writes the line at hand, unless nothing is to be written by itself. -/
def emitSpace : Editing Unit := do
  if !m.isQuiet then
    let s ← get
    emitLine m s.space s.lacksEnd

/-- Takes the next line of a file that is read line by line. -/
def nextLineOf (file : Text) : Editing (Option Text) := do
  let s ← get
  let lines ←
    match s.readers.lookup file with
    | some ls => pure ls
    | none => do
      let p ← liftM process
      let content ← liftM (act (p.readFile file))
      pure (linesOf m.ending (content.toOption.getD []))
  match lines with
  | [] => return none
  | l :: ls =>
    modify fun s => { s with readers := (file, ls) :: s.readers.filter fun e => e.1 ≠ file }
    return some l

/-- Does a command's deed; nothing if the script goes on with the next command, or the place where it does. -/
def perform (start : Starter) (index : Nat) (range : Range) (d : Deed) : Editing (Option (Flow ⊕ Nat)) := do
  let s ← get
  let goTo (label : Text) : Option (Flow ⊕ Nat) :=
    if label = [] then some (.inl .done) else some (((place? m.script label).map Sum.inr).getD (.inl .done))
  let queue (q : Queued) : Editing (Option (Flow ⊕ Nat)) := do
    set { s with queue := s.queue ++ [q] }
    return none
  match d with
  | .block _ | .closeBlock | .label _ | .nothing => return none
  | .number =>
    emitText m (Text.ofNat s.number ++ ['\n'])
    return none
  | .append t => if t = [] then return none else queue (.text t)
  | .insert t =>
    if t ≠ [] then emitText m t
    return none
  | .change t =>
    let isOpen : Bool := range.stop?.isSome && (s.ranges[index]?).getD .closed ≠ .closed && !range.isNegated
    if !isOpen ∧ t ≠ [] then emitText m t
    return some (.inl .drop)
  | .jump label => return goTo label
  | .jumpIf label =>
    set { s with hasReplaced := false }
    return if s.hasReplaced then goTo label else none
  | .jumpUnless label =>
    set { s with hasReplaced := false }
    return if s.hasReplaced then none else goTo label
  | .delete => return some (.inl .drop)
  | .deleteFirst =>
    match cut? '\n' s.space with
    | none => return some (.inl .drop)
    | some (_, rest) =>
      set { s with space := rest }
      return some (.inl .again)
  | .run command =>
    let t ← outputOf start (if command = [] then s.space else command)
    if command = [] then
      modify fun s => { s with space := if t.getLast? = some m.ending then t.dropLast else t }
    else emitText m t
    return none
  | .fileName =>
    emitText m (s.name ++ ['\n'])
    return none
  | .fromHold =>
    set { s with space := s.hold, lacksEnd := s.holdLacksEnd }
    return none
  | .addHold =>
    set { s with space := s.space ++ m.ending :: s.hold, lacksEnd := s.holdLacksEnd }
    return none
  | .toHold =>
    set { s with hold := s.space, holdLacksEnd := s.lacksEnd }
    return none
  | .addToHold =>
    set { s with hold := s.hold ++ m.ending :: s.space, holdLacksEnd := s.lacksEnd }
    return none
  | .exchange =>
    set { s with space := s.hold, lacksEnd := s.holdLacksEnd, hold := s.space, holdLacksEnd := s.lacksEnd }
    return none
  | .list width? =>
    emitText m (listing (width?.getD m.width) s.space)
    return none
  | .next =>
    if ← isLast m then return some (.inl .done)
    else
      emitSpace m
      emitQueue m
      match ← takeLine? m with
      | some l =>
        modify fun s => { s with space := l, hasReplaced := s.hasReplaced }
        return none
      | none => return some (.inl .drop)
  | .addNext =>
    if ← isLast m then return some (.inl .done)
    else
      emitQueue m
      match ← takeLine? m with
      | some l =>
        modify fun s => { s with space := s.space ++ m.ending :: l }
        return none
      | none => return some (.inl .done)
  | .print =>
    emitLine m s.space s.lacksEnd
    return none
  | .printFirst =>
    match cut? m.ending s.space with
    | some (l, _) => emitLine m l false
    | none => emitLine m s.space s.lacksEnd
    return none
  | .quit status prints => return some (.inl (.quit status prints))
  | .readFile file => queue (.file file)
  | .readLine file =>
    match ← nextLineOf m file with
    | some l => do
      modify fun s => { s with queue := s.queue ++ [.line l] }
      return none
    | none => return none
  | .replace c =>
    let matcher ← matcherOrLast c.matcher?
    let t := s.space.toArray
    let (new, isDone) := replaced matcher c t (2 * t.size + 2) 0 0 none [] false
    if isDone then
      let new ←
        if c.runs then do
          let out ← outputOf start new
          pure (if out.getLast? = some m.ending then out.dropLast else out)
        else pure new
      modify fun s => { s with space := new, hasReplaced := true }
      if c.prints then emitLine m new s.lacksEnd
      if let some file := c.file? then writeLine m file new s.lacksEnd
    return none
  | .write file =>
    writeLine m file s.space s.lacksEnd
    return none
  | .writeFirst file =>
    match cut? m.ending s.space with
    | some (l, _) => writeLine m file l false
    | none => writeLine m file s.space s.lacksEnd
    return none
  | .convert pairs =>
    set { s with space := s.space.map fun c => (pairs.lookup c).getD c }
    return none
  | .clear =>
    set { s with space := [] }
    return none

/-- Goes on with the script from a command. -/
def runFrom (start : Starter) : Nat → Nat → Editing Flow
  | 0, _ => liftM (throw (.killed (UInt8.ofNat Signal.kill)) : Work Flow)
  | n + 1, index => do
    match m.script[index]? with
    | none => return .done
    | some c =>
      if ← isMeant m index c.range then
        match ← perform m start index c.range c.deed with
        | none => runFrom start n (index + 1)
        | some (.inl flow) => return flow
        | some (.inr target) => runFrom start n target
      else
        match c.deed with
        | .block close => runFrom start n (close + 1)
        | _ => runFrom start n (index + 1)

/-- How many commands are run for one line at most. -/
def maxCommands : Nat := 1000000

/-- Edits line by line, as many times as the bound allows. -/
def runAll (start : Starter) : Nat → Bool → Editing Unit
  | 0, _ => pure ()
  | n + 1, keepsSpace => do
    let line? ← if keepsSpace then pure (some (← get).space) else takeLine? m
    match line? with
    | none => finishFile m
    | some l =>
      modify fun s => { s with space := l, hasReplaced := keepsSpace && s.hasReplaced }
      match ← runFrom m start maxCommands 0 with
      | .done =>
        emitSpace m
        emitQueue m
        runAll start n false
      | .drop =>
        emitQueue m
        runAll start n false
      | .again =>
        emitQueue m
        runAll start n true
      | .quit status prints =>
        if prints then
          emitSpace m
          emitQueue m
        finishFile m
        modify fun s => { s with status := status }

/-- The files to which a script writes. -/
def filesOf (s : Script) : List Text :=
  (s.toList.filterMap fun c =>
    match c.deed with
    | .write file | .writeFirst file => some file
    | .replace c => c.file?
    | _ => none).eraseDups

/-- Opens the files to which a script writes. -/
def openOutputs (s : Script) : Work (List Output) := do
  let p ← process
  let mut outputs : List Output := []
  for file in filesOf s do
    if file = "/dev/stdout".toList then pure ()
    else if file = "/dev/stderr".toList then outputs := ⟨file, (p.stream? 2).getD Machine.errorStream, false⟩ :: outputs
    else
      match ← act (p.openFile file .toWrite) with
      | .ok n => outputs := ⟨file, n, false⟩ :: outputs
      | .error e => fail 4 ("couldn't open file ".toList ++ file ++ ": ".toList ++ describe e)
  return outputs

/-- What is said to whoever calls the tool wrongly. -/
def advice : String := "Usage: sed [OPTION]... \x7bscript-only-if-no-other-script\x7d [input-file]..."

end Edit

open Edit in
def sed (start : Starter) : Body := fun args => advising advice.toList do
  let p ← parse ⟨"bsnrzuEe:f:l:i::V:", [("binary", "b", .nothing), ("regexp-extended", "r", .nothing),
    ("debug", "debug", .nothing), ("in-place", "i", .maybe), ("expression", "e", .value), ("file", "f", .value),
    ("line-length", "l", .value), ("null-data", "z", .nothing), ("zero-terminated", "z", .nothing),
    ("quiet", "n", .nothing), ("posix", "p", .nothing), ("silent", "n", .nothing), ("sandbox", "sandbox", .nothing),
    ("separate", "s", .nothing), ("unbuffered", "u", .nothing), ("follow-symlinks", "F", .nothing)], 1, false⟩ args
  -- The script comes from options, or from the first operand.
  let mut given : List (Source × Text) := []
  let mut count := 0
  for o in p.options do
    match o with
    | ("e", some t) =>
      count := count + 1
      given := given ++ [(.argument count, t)]
    | ("f", some file) =>
      match ← contentOf file with
      | .ok t => given := given ++ [(.file file, if t.getLast? = some '\n' then t.dropLast else t)]
      | .error e => fail 4 ("couldn't open file ".toList ++ file ++ ": ".toList ++ describe e)
    | _ => pure ()
  let (pieces, files) ←
    match given, p.operands with
    | [], t :: files => pure ([((.argument 1 : Source), t)], files)
    | [], [] => suggestHelp 1
    | ps, files => pure (ps, files)
  let isExtended := p.has "r" || p.has "E"
  match scriptOf isExtended pieces with
  | .error message => fail 1 message
  | .ok script =>
    for l in targets script do
      if (place? script l).isNone then fail 4 ("can't find label for jump to \x60".toList ++ l ++ ['\''])
    let isQuietScript : Bool :=
      match pieces with
      | (_, t) :: _ => t.take 2 = "#n".toList
      | [] => false
    let outputs ← openOutputs script
    let inPlace? := if p.has "i" then some (p.value? "i") else none
    let width ←
      match p.value? "l" with
      | some t =>
        if t ≠ [] ∧ t.all Char.isDigit then pure (Nat.ofDigitChars 10 t 0)
        else fail 1 ("invalid line length: ".toList ++ t)
      | none => pure 70
    let m : Manner :=
      { script := script
        ending := if p.has "z" then '\x00' else '\n'
        isQuiet := p.has "n" || isQuietScript
        isSeparate := p.has "s" || inPlace?.isSome
        inPlace? := inPlace?
        width := if width = 1 then 0 else width }
    let s : State :=
      { space := [], hold := [], number := 0, lacksEnd := false, holdLacksEnd := false, lines := [], name := ['-'], lastLacksEnd := false
        files := if files = [] then [['-']] else files
        queue := []
        ranges := script.map fun (c : Command) => if c.range.isOpen then .open_ none else .closed
        hasReplaced := false, last? := none, outputs := outputs, mainLacksEnd := false, edited := [], isEditing := false
        readers := [], status := 0 }
    let (_, s) ← (runAll m start maxCommands false).run s
    -- What was not used of standard input is left for others.
    if s.name = ['-'] ∧ s.lines ≠ [] then
      let self ← process
      match (self.stream? 0).bind (← act get).stream? with
      | some (.file _ _ _) =>
        let rest := (s.lines.map fun l => l ++ [m.ending]).flatten
        let rest := if s.lastLacksEnd then rest.dropLast else rest
        act (Machine.unread ((self.stream? 0).getD Machine.inputStream) (Octets.toBytes rest))
      | _ => pure ()
    endWith s.status

end JavacLauncher.Tool
