import JavacLauncher.Shell.Builtin.Table
import JavacLauncher.Shell.Condition
import JavacLauncher.Shell.Menu
import JavacLauncher.Shell.Redirect
import JavacLauncher.Shell.Start

/-!
# Running commands

A command leaves a status. Where nobody looks at the status of a command that failed, the shell ends if it
was told to. A simple command is run in this order: its words are replaced, its redirections made, its
assignments done, and then what its first field names is run: a function, a command of the shell, or a
program. What a redirection and an assignment change is put back behind it, unless there is no command to
run, or one that is special.

Each function here is given how the commands within are run; `evaluate` gives each level the next one, as
deep as a bound allows.
-/

namespace JavacLauncher.Shell

/-- Which way a command is found. -/
inductive Target where
  /-- There are no words; all is done by the assignments. -/
  | nothing
  | function (f : Function)
  /-- A command of the shell itself. -/
  | own
  | program
  deriving Inhabited

/-- The front of a simple command, as far as its words have been replaced. -/
structure Head where
  /-- The fields so far, and which of them is the name of what is run. -/
  fields : List Text
  start : Nat
  /-- The words that are still to be replaced. -/
  rest : List Word
  target : Target
  skipsFunctions : Bool
  /-- The program is looked for where the system's programs are. -/
  isStandard : Bool
  /-- Whether it is a command of the shell that is special. -/
  isSpecial : Option Bool
  deriving Inhabited

section

variable (starter : Starter) (self : Evaluator)

/-! ## The front of a command -/

/-- Replaces words until there is a field. -/
def takeFields : List Word → Run (List Text × List Word)
  | [] => return ([], [])
  | w :: ws => do
    match ← expandFields self w with
    | [] => takeFields ws
    | fs => return (fs, ws)

/-- Replaces words until there is a field with a number. -/
def Head.reach (h : Head) (i : Nat) : Run Head := do
  if i < h.fields.length then return h
  else
    let (fs, rest) ← takeFields self h.rest
    return { h with fields := h.fields ++ fs, rest := rest }

/-- The field behind the options of `command`; nothing if it is not to run anything. -/
def Head.skipOptions : Nat → Head → Nat → Run (Head × Option Nat)
  | 0, h, _ => return (h, none)
  | n + 1, h, i => do
    let h ← h.reach self i
    match h.fields[i]? with
    | none => return (h, none)
    | some ['-', '-'] =>
      let h ← h.reach self (i + 1)
      return (h, if i + 1 < h.fields.length then some (i + 1) else none)
    | some ('-' :: c :: t) =>
      if (c :: t).all (· = 'p') then Head.skipOptions n { h with isStandard := true } (i + 1)
      else return (h, none)
    | some _ => return (h, some i)

/-- Finds what the front of a command names. -/
def Head.find : Nat → Head → Run Head
  | 0, h => return h
  | n + 1, h => do
    let s ← get
    match h.fields[h.start]? with
    | none => return { h with target := .nothing }
    | some name =>
      match if h.skipsFunctions then none else s.functions.lookup name with
      | some f => return { h with target := .function f }
      | none =>
        if Builtin.isOwn s.isExtended name then
          let isSpecial := h.isSpecial.or (some (name ∈ specialCommands && !s.isExtended))
          let h := { h with target := .own, isSpecial := isSpecial }
          if name = "command".toList ∨ (s.isExtended ∧ name = "builtin".toList) then
            let (h', i?) ← h.skipOptions self 100 (h.start + 1)
            match i? with
            | some i => Head.find n { h' with start := i, skipsFunctions := true }
            | none => return { h' with isStandard := h.isStandard }
          else return h
        else return { h with target := .program }

/-- Replaces the words of a command. Those that look like assignments are not split where a command takes
assignments. -/
def headOf (words : List Word) : Run Head := do
  let (fields, rest) ← takeFields self words
  let h ← Head.find self 100 ⟨fields, 0, rest, .nothing, false, false, none⟩
  let s ← get
  let assigns : Bool :=
    match h.target, h.fields[h.start]? with
    | .own, some name => Builtin.takesAssignments s.isExtended name
    | _, _ => false
  let more ← h.rest.mapM fun w => do
    if assigns ∧ (w.assignment? s.isExtended).isSome then return [← expandText self .value w]
    else expandFields self w
  return { h with fields := h.fields ++ more.flatten, rest := [] }

/-! ## Assignments -/

/-- The elements of an array from those that are written down, from a number on. -/
def listElements (old : Content) : List (Option Word × Word) → Run Content
  | [] => return old
  | (none, w) :: es => do
    let fields ← expandFields self w
    let next (c : Content) : Nat :=
      match c with
      | .list es => (es.getLast?.map fun (e : Nat × Text) => e.1 + 1).getD 0
      | _ => 0
    let c := fields.foldl (fun c t =>
      match c with
      | .list es => .list (Content.insertAt (next c) t es)
      | .table es => .table (Content.insertUnder t [] es)
      | .text _ => c) old
    listElements c es
  | (some k, w) :: es => do
    let t ← expandText self .value w
    match old with
    | .table table =>
      let k ← expandText self .bare k
      listElements (.table (Content.insertUnder k t table)) es
    | .list list =>
      let n ← calculate (← expandText self .bare k)
      listElements (.list (Content.insertAt n.toNat t list)) es
    | .text _ => listElements old es

/-- Does an assignment; what it comes to is shown. -/
def applyAssignment : Assignment → Run Text
  | .assign name subscript isAppended (.word w) => do
    let t ← expandText self .value w
    let s ← get
    let shown := name ++ (if isAppended then ['+', '='] else ['=']) ++ t
    match subscript with
    | none =>
      if isAppended then
        let old := (s.valueOf? name).getD []
        if (s.variableOf name).traits.isInteger then assign name (old ++ '+' :: (if t = [] then ['0'] else t))
        else assign name (old ++ t)
      else assign name t
    | some k =>
      let k ← subscriptOf (wordSegments self wordDepth) name k
      let old :=
        match (← get).content? name with
        | some (.table es) => (es.lookup k).getD []
        | some c => (((numeral? k).bind c.at?)).getD []
        | none => []
      assignCell name (some k) (if isAppended then old ++ t else t)
    return shown
  | .assign name _ isAppended (.list es) => do
    let s ← get
    let old := s.content? name
    let start : Content :=
      match old, isAppended with
      | some (.table es), true => .table es
      | some (.table _), false => .table []
      | some (.list es), true => .list es
      | some (.text t), true => .list [(0, t)]
      | _, _ => .list []
    let c ← listElements self start es
    assignContent name c
    return name ++ "=()".toList

/-- The name of the variable of an assignment. -/
def Assignment.name : Assignment → Text
  | .assign name _ _ _ => name

def Assignment.isList : Assignment → Bool
  | .assign _ _ _ (.list _) => true
  | _ => false

/-! ## Showing commands -/

/-- The text in front of commands that are shown. -/
def promptText (t : Text) : Run Text := do
  if !t.any fun c => c = '$' || c = '`' || c = '\\' then return t
  else
    let s ← get
    match (promptWord t).run (.ofText s.isExtended s.documents []) with
    | .error _ => return t
    | .ok (w, _) =>
      set { s with showsCommands := false }
      ensuring (expandText self .quoted w) (modify fun s => { s with showsCommands := true })

/-- Shows a command on a stream, if commands are shown. -/
def showCommand (stream? : Option Nat) (lines : List Text) : Run Unit := do
  let s ← get
  if s.has 'x' ∧ s.showsCommands ∧ lines ≠ [] then
    match stream? with
    | some n =>
      for line in lines do
        let front ← promptText self ((s.valueOf? "PS4".toList).getD [])
        let _ ← act (Machine.write n (Octets.toBytes (front ++ line ++ ['\n'])))
    | none => pure ()

/-- A field as the extended dialect shows it. -/
def shownField (t : Text) : Text := if t ≠ [] ∧ isSafe t then t else inSingleQuotes t

/-- A command as it is shown, line by line. -/
def shownLines (isExtended : Bool) (assigned fields : List Text) : List Text :=
  if isExtended then
    let words := if fields = [] then [] else [[' '].intercalate (fields.map shownField)]
    (assigned.map fun a =>
      match cut? '=' a with
      | some (name, value) => name ++ '=' :: (if value = [] ∨ isSafe value then value else inSingleQuotes value)
      | none => a) ++ words
  else if assigned = [] ∧ fields = [] then []
  else [[' '].intercalate (assigned ++ fields)]

/-- Shows a command that is no simple one, in the extended dialect. -/
def showLong (t : Text) : Run Unit := do
  let s ← get
  if s.isExtended then showCommand self (s.process.stream? 2) [t]

/-! ## Commands of the shell that run others -/

/-- Runs a file in this shell. -/
def runSource (args : List Text) : Run Unit := do
  let s ← get
  match args with
  | [] => if s.isExtended then failWith 2 "filename argument required".toList else setStatus 0
  | file :: rest =>
    let isReadable (path : Text) : Bool :=
      match s.machine.tree.look s.process.standpoint (Process.pathOf path) with
      | .ok n => (n.kind matches .file _)
      | .error _ => false
    let found? := if '/' ∈ file then some file else (Builtin.candidates s file).find? isReadable
    let found? := if s.isExtended then found?.or (some file) else found?
    match found? with
    | none => abort (file ++ ": not found".toList)
    | some path =>
      match ← act (s.process.readFile path) with
      | .error e =>
        if s.isExtended then
          modify fun s => { s with command? := if e = .isDirectory then s.command? else none }
          failWith 1 (file ++ ": ".toList ++ (match e with
            | .isDirectory => "is a directory".toList
            | .code n => SystemError.describe n
            | e => e.message))
        else if e = .isDirectory then setStatus 0
        else abort ("cannot open ".toList ++ path ++ ": ".toList ++ openMessage false e)
      | .ok script =>
        let positional := s.positional
        set { s with
          command? := if s.isExtended then none else some path
          name := if s.isExtended then path else s.name
          sources := path :: s.sources
          positional := if s.isExtended ∧ rest ≠ [] then rest else positional }
        ensuring (tryCatch (runText self .plain script) fun j =>
            match j with
            | .leaveFunction => pure ()
            | j => throw j)
          (modify fun t => { t with
            command? := s.command?, name := s.name, sources := s.sources, line := s.line
            positional := if s.isExtended ∧ rest ≠ [] then positional else t.positional })

/-- Leaves loops, or goes on with their next rounds. -/
def leaveLoops (jump : Nat → Jump) (args : List Text) : Run Unit := do
  let s ← get
  if s.isExtended ∧ s.loops = 0 then
    warn "only meaningful in a \x60for', \x60while', or \x60until' loop".toList
    setStatus 0
  else
    let n ←
      match args with
      | [] => pure 1
      | t :: _ => Builtin.number t
    if n = 0 then
      if s.isExtended then failWith 1 (['0'] ++ ": loop count out of range".toList)
      else abort "Illegal number: 0".toList
    setStatus 0
    if s.loops > 0 then throw (jump (min n s.loops))

/-- Ends the shell. -/
def exitShell (args : List Text) : Run Unit := do
  let s ← get
  match args with
  | [] =>
    match s.earlierStatus? with
    | some n => setStatus n
    | none => pure ()
  | t :: rest =>
    if s.isExtended then
      let digits := match t with
        | '-' :: ds => ds
        | ds => ds
      match numeral? digits with
      | none =>
        warn (t ++ ": numeric argument required".toList)
        setStatus 2
      | some n =>
        if rest ≠ [] then
          warn "too many arguments".toList
          setStatus 1
          throw .abandon
        setStatus (if t.head? = some '-' then (256 - n % 256) % 256 else n % 256)
    else setStatus (← Builtin.number t)
  throw .exit

/-- Leaves a function, or a file that is being run. -/
def leaveFunction (args : List Text) : Run Unit := do
  let s ← get
  if s.isExtended ∧ s.callers = [] ∧ s.sources.length ≤ 1 then
    failWith 2 "can only \x60return' from a function or sourced script".toList
  else
    match args with
    | [] => pure ()
    | t :: _ =>
      if s.isExtended then
        match numeral? t with
        | some n => setStatus (n % 256)
        | none => failWith 2 (t ++ ": numeric argument required".toList)
      else setStatus (← Builtin.number t)
    throw .leaveFunction

/-- What `command` does when it is not to run anything. -/
def describeCommands (args : List Text) : Run Unit := do
  let s ← get
  let o ← Builtin.options "pvV" "[-pVv] command [arg ...]" args
  let names := Builtin.names s.isExtended
  setStatus 0
  match o.last? "vV".toList, o.rest with
  | some c, rest =>
    let rest := if s.isExtended then rest else rest.take 1
    let mut worst := if s.isExtended then 1 else 0
    for name in rest do
      setStatus 0
      Builtin.describe names (c = 'V') name
      let status := (← get).status
      worst := if s.isExtended then min worst status else status
    setStatus (if rest = [] then 0 else worst)
  | none, _ => pure ()

/-- Runs a command of the shell. -/
def runOwn (flags : Flags) (name : Text) (args : List Text) : Run Unit := do
  match String.ofList name with
  | "eval" =>
    match args with
    | [] => setStatus 0
    | args => runText self { flags with isLast := false } ([' '].intercalate args)
  | "." | "source" => runSource self args
  | "break" => leaveLoops .leave args
  | "continue" => leaveLoops .next args
  | "return" => leaveFunction args
  | "exit" => exitShell args
  | "command" | "builtin" => describeCommands args
  | "exec" =>
    match args with
    | [] => setStatus 0
    | ['-', 'a'] :: _ :: program :: args =>
      if (← get).isExtended then replaceShell starter program args else replaceShell starter ['-', 'a'] (program :: args)
    | program :: args => replaceShell starter program args
  | "caller" => setStatus 1
  | _ =>
    match Builtin.body? (← get).isExtended name with
    | some body => body args
    | none => setStatus 127

/-- Runs a command of the shell under its name, and sees to what goes wrong in it. -/
def runOwnNamed (flags : Flags) (isSpecial : Bool) (name : Text) (args : List Text) : Run Unit := do
  let s ← get
  set { s with command? := some name, isWriteFailed := false }
  let body : Run Unit := do
    runOwn starter self flags name args
    let t ← get
    if t.isWriteFailed then
      warn (if t.isExtended then "write error: No space left on device".toList else name ++ ": I/O error".toList)
      setStatus (if t.isExtended then 1 else t.status ||| 1)
  ensuring
    (tryCatch body fun j =>
      match j with
      | .failure => if !isSpecial ∧ !(s.isExtended ∧ name = "eval".toList) then pure () else throw j
      | .abandon => if name = "eval".toList ∨ name = "exit".toList ∨ name = ['.'] then throw j else pure ()
      | j => throw j)
    (modify fun t => { t with command? := s.command?, isWriteFailed := s.isWriteFailed })

/-! ## Functions and simple commands -/

/-- Calls a function. -/
def callFunction (flags : Flags) (name : Text) (f : Function) (args : List Text) : Run Unit := do
  let s ← get
  if !s.isExtended ∧ s.callers.length ≥ maxCalls then
    abort ("Maximum function recursion depth (".toList ++ Text.ofNat maxCalls ++ ") reached".toList)
  set { s with positional := args, loops := 0, callers := name :: s.callers, optionIndex := 1, optionOffset := 0 }
  ensuring
    (tryCatch (self { isTested := flags.isTested, isLast := false } f.body) fun j =>
      match j with
      | .leaveFunction => pure ()
      | j => throw j)
    (modify fun t => { t with
      positional := s.positional, loops := s.loops, callers := s.callers
      line := if s.isExtended then s.line else t.line
      optionIndex := s.optionIndex, optionOffset := s.optionOffset })

/-- Runs the jobs in the background while a program only lets time pass. -/
def letTimePass (name : Text) : Run Unit := do
  if name = "sleep".toList ∨ name = "/bin/sleep".toList ∨ name = "/usr/bin/sleep".toList then
    if (← get).jobs ≠ [] then runJobs

/-- Does the assignments in front of a command, which keep their values only while it runs if they are
local to it. What they come to is shown. -/
def applyAll (isLocal isShared : Bool) (assignments : List Assignment) : Run (List Text) :=
  assignments.mapM fun a => do
    if isLocal then
      keepVariable a.name
    let shown ← applyAssignment self a
    if isLocal ∨ isShared then modify fun s => s.share a.name
    return shown

/-- Does something while variables may be noted that get their old values back behind it. -/
def keepingVariables (isNeeded : Bool) (body : Run Unit) : Run Unit := do
  if isNeeded then
    modify fun s => { s with saved := [] :: s.saved }
    ensuring body restoreKept
  else body

/-- Runs what the front of a command names. -/
def runTarget (flags : Flags) (h : Head) (isSpecial : Bool) (name : Text) (args : List Text) : Run Unit := do
  match h.target with
  | .nothing => modify fun s => { s with status := s.substituted }
  | .function f => callFunction self flags name f args
  | .own => runOwnNamed starter self flags isSpecial name args
  | .program =>
    letTimePass name
    if h.isStandard then
      let old := (← get).find? "PATH".toList
      modify fun s => s.putText "PATH".toList standardDirectories
      ensuring (runProgram starter flags.isLast name args) (modify fun s =>
        s.restore (.variable "PATH".toList old))
    else runProgram starter flags.isLast name args

/-- Runs a simple command. -/
def runSimple (flags : Flags) (assignments : List Assignment) (words : List Word) (redirects : List Redirect) :
    Run Unit := do
  let before ← get
  set { before with substituted := 0, command? := if before.isExtended then none else before.command? }
  let h ← headOf self words
  let isExtended := before.isExtended
  let command := h.fields.drop h.start
  let name := command.headD []
  let args := command.tail
  let isOwn := h.target matches .own
  let isSpecial := h.isSpecial.getD false
  let isDeclaration := isExtended && isOwn && name ∈ declarations
  let isLocal := !(h.target matches .nothing) && !isSpecial && !isDeclaration
  let isExec := isOwn && name = "exec".toList
  let messages? := before.process.stream? 2
  let body : Run Unit := do
    let opened ← expandRedirects self redirects
    if ← openTargets self opened then
      let early := isDeclaration && (name = "readonly".toList || args.any fun a => a.head? = some '-' && a.contains 'r')
      let (first, late) :=
        if isDeclaration then assignments.partition fun a => early || !a.isList else (assignments, [])
      let assigned ← applyAll self isLocal (isExec && args ≠ []) first
      showCommand self messages? (shownLines isExtended assigned h.fields)
      runTarget starter self flags h isSpecial name args
      let _ ← applyAll self false false late
    else if isSpecial then throw .failure
  keepingVariables isLocal (if isExec && (args = [] || !isExtended) then body else keepingDescriptors body)
  if isExtended then
    modify fun s => ({ s with command? := before.command? }).dropVariable "PIPESTATUS".toList

/-! ## Loops and choices -/

/-- Runs a round of a loop; false if the loop is left. -/
def runRound (body : Run Unit) : Run Bool := do
  if !(← act Machine.step) then throw (.killed Signal.kill)
  let loops := (← get).loops
  modify fun s => { s with loops := loops + 1 }
  let result ← tryCatch (do body; return none) fun j => return some j
  modify fun s => { s with loops := loops }
  match result with
  | none => return true
  | some (.leave k) =>
    if k ≤ 1 then return false else throw (.leave (k - 1))
  | some (.next k) =>
    if k ≤ 1 then return true else throw (.next (k - 1))
  | some j => throw j

/-- Runs a command that may be missing; nothing is a success. -/
def runBody (flags : Flags) : Option Command → Run Unit
  | some c => self flags c
  | none => setStatus 0

/-- Runs rounds of a loop; `status` is that of the body so far. -/
def runLoop (flags : Flags) (isUntil : Bool) (condition body : Option Command) : Nat → Nat → Run Unit
  | 0, _ => throw (.killed Signal.kill)
  | n + 1, status => do
    let goesOn ← runRound do
      runBody self .tested condition
      if ((← get).status = 0) = isUntil then
        setStatus status
        throw (.leave 1)
      runBody self flags body
    if goesOn then
      let status := (← get).status
      runLoop flags isUntil condition body n status

/-- Runs the body of a loop for each value. -/
def runEach (flags : Flags) (name : Text) (body : Option Command) (shown : Text) : List Text → Run Unit
  | [] => return ()
  | v :: vs => do
    if shown ≠ [] then showLong self shown
    assign name v
    if ← runRound (runBody self flags body) then runEach flags name body shown vs

/-- Runs rounds of a loop that counts. -/
def runCount (flags : Flags) (condition next : Word) (body : Option Command) : Nat → Run Unit
  | 0 => throw (.killed Signal.kill)
  | n + 1 => do
    let value (w : Word) : Run Int := do
      let t ← expandText self .quoted w
      if t.all CharKind.isSpace then return 1 else calculate t
    if (← value condition) ≠ 0 then
      let goesOn ← runRound (runBody self flags body)
      if goesOn then
        let _ ← value next
        runCount flags condition next body n

/-- Shows the choices that there are, if they are to be shown, and reads an answer; nothing at the end of the input.
An answer without anything in it lets the choices be shown again. -/
def askForChoice (values : List Text) : Bool → Nat → Run (Option Text)
  | _, 0 => return none
  | isShown, n + 1 => do
    let s ← get
    let prompt := (s.valueOf? "PS3".toList).getD "#? ".toList
    let _ ← act (s.process.write 2 ((if isShown then Menu.text values else []) ++ prompt))
    Builtin.read []
    if (← get).status ≠ 0 then
      Builtin.say ['\n']
      return none
    else
      match (← get).valueOf? "REPLY".toList with
      | some [] => askForChoice values true n
      | answer? => return answer?

/-- Runs the body of a loop for each answer that is given. -/
def runPicks (flags : Flags) (name : Text) (values : List Text) (body : Option Command) : Bool → Nat → Run Unit
  | _, 0 => throw (.killed Signal.kill)
  | isShown, n + 1 => do
    match ← askForChoice values isShown Parse.rounds with
    | none => setStatus 1
    | some answer =>
      assign name (((numeral? answer).bind fun i => if i = 0 then none else values[i - 1]?).getD [])
      if ← runRound (runBody self flags body) then
        runPicks flags name values body (((← get).valueOf? "REPLY".toList) = some []) n

/-- How the search for an arm stands. -/
inductive ArmSearch where
  /-- No arm has been run. -/
  | fresh
  /-- An arm has been run, and another one may be. -/
  | resumed
  /-- The next arm is run, whatever its patterns. -/
  | decided
  deriving DecidableEq, Repr, Inhabited

/-- Runs the first arm with a pattern that matches, and the arms that its ending asks for. -/
def runArms (flags : Flags) (subject : Text) : ArmSearch → List (List Word × Option Command × Char) → Run Unit
  | search, [] => if search = .fresh then setStatus 0 else return ()
  | search, (patterns, body, ending) :: arms => do
    let isFit ← if search = .decided then pure true else fits patterns
    if isFit then
      match body with
      | some c => self (if ending = ';' then flags else flags.notLast) c
      | none => setStatus 0
      if ending = '&' then runArms flags subject .decided arms
      else if ending = '?' then runArms flags subject .resumed arms
    else runArms flags subject search arms
where
  /-- Whether one of the patterns matches. -/
  fits : List Word → Run Bool
    | [] => return false
    | w :: ws => do
      let s ← get
      let p ← expandPattern self w
      if isMatch p (folded s subject) then return true else fits ws

/-! ## Shells within shells -/

/-- Looks for the programs that the stages of a pipeline name, in the plain dialect, before it begins. -/
def locateStages (stages : List Command) : Run Unit := do
  for c in stages do
    let s ← get
    match c with
    | .simple _ _ (w :: _) _ =>
      match (bareText? w).filter isName with
      | some name =>
        if !s.isExtended ∧ name ∉ s.located ∧ !Builtin.isOwn false name ∧ (s.functions.lookup name).isNone ∧
            (Builtin.programOf? s name).isSome then
          set { s with located := s.located ++ [name] }
      | none => pure ()
    | _ => pure ()

/-- Runs the stages of a pipeline, each in a shell of its own, on what the one before has written. The
outcomes are given back. -/
def runStages (flags : Flags) (input? : Option Nat) : List Command → Run (List Nat)
  | [] => return []
  | c :: cs => do
    let withInput (p : Process) : Process :=
      match input? with
      | some n => p.bind 0 n
      | none => p
    let flags := { flags with isLast := true }
    match cs with
    | [] =>
      let o ← inSubshell self withInput (self flags c)
      tellOfSignal o
      return [codeOf o]
    | cs =>
      let out ← act (Machine.openStream Machine.newPipe)
      let o ← inSubshell self (fun p => (withInput p).bind 1 out) (self flags c)
      tellOfSignal o
      let bs ← act (Machine.takeStream out)
      let next ← act (Machine.openStream (.source bs))
      let codes ← runStages flags (some next) cs
      return codeOf o :: codes

/-- Takes over the codes of a pipeline's stages. -/
def takeCodes (codes : List Nat) : Run Unit := do
  let s ← get
  let last := codes.getLastD 0
  let failing? := codes.reverse.find? (· ≠ 0)
  setStatus (if s.has pipefail then failing?.getD 0 else last)
  if s.isExtended then
    modify fun s => s.put "PIPESTATUS".toList (.list (codes.zipIdx.map fun e => (e.2, Text.ofNat e.1)))

/-- Runs a command in a shell of its own. -/
def runSubshell (flags : Flags) (redirects : List Redirect) (body : Option Command) : Run Unit := do
  let opened ← expandRedirects self redirects
  let s ← get
  let run : Run Unit := do
    if ← openTargets self opened then runBody self { flags with isLast := true } body
  if flags.isLast ∧ s.traps.all (fun e => e.2 = []) then
    set { s with isSubshell := true, jobs := [], arrived := [] }
    run
    throw .exit
  else
    let o ← inSubshell self id run
    setStatus (codeOf o)
    tellOfSignal o

/-- Puts a command in the background, to be run when somebody waits for it. -/
def startJob (body : Command) : Run Unit := do
  let id ← act Machine.newProcess
  let input ← act (Machine.openStream (.device .null))
  let s ← get
  let change (p : Process) : Process := { p.bind 0 input with ignored := [2, 3] ++ p.ignored }
  let session := s.forked id change
  let later : Action Outcome := do
    runToEnd self { session with machine := ← get } (self .last body)
  modify fun s => { s with jobs := s.jobs ++ [⟨session.process, some later, none⟩], lastJob? := some id, status := 0 }

/-! ## All commands -/

/-- Runs the script for something that is no signal, unless a script is being run or a function that does not take
the script over. -/
def runScriptFor (event : Nat) (isTakenOver : Bool) : Run Unit := do
  let s ← get
  match s.traps.lookup event with
  | some script =>
    if !s.isInTrap ∧ (s.callers = [] ∨ isTakenOver) then
      set { s with isInTrap := true }
      ensuring (runTextFrom self s.line .plain script) (modify fun t => { t with isInTrap := false, line := s.line })
      setStatus s.status
  | none => pure ()

/-- Sees to a command that has failed and at which nobody looks: there may be a script for that, and the shell may
end. -/
def insistOnSuccess (flags : Flags) : Run Unit := do
  let s ← get
  if s.status ≠ 0 ∧ !flags.isTested then
    runScriptFor self Builtin.failureEvent (s.has 'E')
    if s.has 'e' then throw .exit

/-- Tells how long a command has taken. No time passes while commands run. -/
def tellTimes (isBrief : Bool) : Run Unit := do
  let line (name time : String) : Text := name.toList ++ (if isBrief then ' ' else '\t') :: time.toList ++ ['\n']
  let time := if isBrief then "0.00" else "0m0.000s"
  let t := line "real" time ++ line "user" time ++ line "sys" time
  let _ ← act ((← get).process.write 2 (if isBrief then t else '\n' :: t))

/-- Notes the line of the command that is run next. -/
def atLine (line : Nat) : Run Unit := modify fun s => { s with line := line }

/-- Something of the extended dialect that is evaluated; what goes wrong in it is a failure. -/
def evaluating (name : String) (body : Run Unit) : Run Unit := do
  let s ← get
  set { s with command? := some name.toList }
  ensuring (tryCatch body fun j =>
      match j with
      | .abandon => setStatus 1
      | j => throw j)
    (modify fun t => { t with command? := s.command? })

/-- Runs a command whose parts are run by `self`. -/
def evaluateOne (flags : Flags) (c : Command) : Run Unit := do
  match c with
  | .simple line assignments words redirects =>
    if !(← act Machine.step) then throw (.killed Signal.kill)
    atLine line
    runScriptFor self Builtin.commandEvent ((← get).has 'T')
    runSimple starter self flags assignments words redirects
    insistOnSuccess self flags
  | .pipe stages =>
    locateStages stages
    let codes ← runStages self flags none stages
    takeCodes codes
    insistOnSuccess self flags
  | .negated c =>
    self .tested c
    modify fun s => { s with status := if s.status = 0 then 1 else 0 }
  | .timed isBrief c? =>
    ensuring (runBody self flags.notLast c?) (tellTimes isBrief)
  | .both a b =>
    self .tested a
    if (← get).status = 0 then self flags b
  | .either a b =>
    self .tested a
    if (← get).status ≠ 0 then self flags b
  | .sequence cs => runAll cs
  | .background line c =>
    atLine line
    startJob self c
  | .subshell line body redirects =>
    atLine line
    runSubshell self flags redirects body
    insistOnSuccess self flags
  | .redirected line body redirects =>
    if line ≠ 0 then atLine line
    let opened ← expandRedirects self redirects
    keepingDescriptors do
      if ← openTargets self opened then runBody self { flags with isLast := false } body
    if (← get).isExtended then insistOnSuccess self flags
  | .group body => runBody self flags body
  | .branch condition body otherwise =>
    runBody self .tested condition
    if (← get).status = 0 then runBody self flags body else runBody self flags otherwise
  | .loop isUntil condition body => runLoop self flags.notLast isUntil condition body Parse.rounds 0
  | .each line name words body =>
    atLine line
    let values ←
      match words with
      | some ws => expandAll self ws
      | none => do pure (← get).positional
    if values = [] then setStatus 0
    let s ← get
    let shown := if s.isExtended ∧ s.has 'x' then
        "for ".toList ++ name ++ " in ".toList ++ [' '].intercalate (values.map shownField) else []
    runEach self flags.notLast name body shown values
  | .pick line name words body =>
    atLine line
    let values ←
      match words with
      | some ws => expandAll self ws
      | none => do pure (← get).positional
    setStatus 0
    if values ≠ [] then runPicks self flags.notLast name values body true Parse.rounds
  | .choose line subject arms =>
    atLine line
    let t ← expandText self .text subject
    runArms self flags t .fresh arms
  | .define line name body =>
    modify fun s => { s with functions := (name, ⟨line, body⟩) :: s.functions.filter (fun e => e.1 ≠ name), status := 0 }
  | .test line condition =>
    atLine line
    evaluating "[[" do setStatus (← conditionStatus self 100 condition)
    insistOnSuccess self flags
  | .evaluate line w =>
    atLine line
    evaluating "((" do
      let t ← expandText self .quoted w
      let n ← if t.all CharKind.isSpace then pure 0 else calculate t
      setStatus (if n = 0 then 1 else 0)
    insistOnSuccess self flags
  | .count line first condition next body =>
    atLine line
    evaluating "((" do
      let t ← expandText self .quoted first
      if !t.all CharKind.isSpace then
        let _ ← calculate t
      setStatus 0
      runCount self flags.notLast condition next body Parse.rounds
where
  /-- Runs commands one after another. -/
  runAll : List Command → Run Unit
    | [] => return ()
    | [c] => self flags c
    | c :: cs => do
      self flags.notLast c
      runAll cs

end

/-- Runs a command, with commands in it as deep as the bound allows. A command that goes deeper has used up
the memory of its process. -/
def evaluate (starter : Starter) : Nat → Evaluator
  | 0, _, _ => throw (.killed 11)
  | n + 1, flags, c => do
    let self := evaluate starter n
    if (← get).has 'n' then return
    runTraps self
    evaluateOne starter self flags c
    runTraps self

end JavacLauncher.Shell
