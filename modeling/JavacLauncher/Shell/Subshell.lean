import JavacLauncher.Shell.Session

/-!
# Texts to run, and shells within shells

A text is read line by line, and each line is run before the next one is read. A subshell is a process of
its own: of what it does only what it does to the machine is left, and how it ended. When a shell ends, what
was to be done at its end is done.

Commands in the background are run when somebody waits for them, or when time passes. Those that nobody
has waited for are run at the end of the shell only if somebody still reads what they write.
-/

namespace JavacLauncher.Shell

/-- How a command is run. -/
abbrev Evaluator := Flags → Command → Run Unit

variable (evaluate : Evaluator)

/-- How a token is spelled in the extended dialect's messages. -/
def spelledToken (name spelling : Text) : Text :=
  if name = "newline".toList then "newline".toList else spelling

/-- The line of a text with a number. -/
def lineOf (t : Text) (n : Nat) : Text := ((t.splitOn '\n')[n - 1]?).getD []

/-- Says what is wrong with a text, and ends what is being run. -/
def complainOfMistake {α : Type} (t : Text) (e : SyntaxError) : Run α := do
  modify fun s => { s with line := e.line }
  let s ← get
  if s.isExtended then
    let fromText := s.sources.isEmpty && s.command?.isNone
    let name := s.name ++ (if fromText then ": -c".toList else []) ++ (match s.command? with
      | some c => ": ".toList ++ c
      | none => [])
    let front (n : Nat) : Text := name ++ ": line ".toList ++ Text.ofNat n ++ ": ".toList
    let say (n : Nat) (m : Text) : Run Unit := act (s.process.complain (front n ++ m))
    match e.mistake with
    | .unexpected name spelling _ =>
      if name = Token.endOfText.name then say (e.line + (if t.getLast? = some '\n' then 0 else 1)) "syntax error: unexpected end of file".toList
      else
        let n := if name = "newline".toList then e.line - 1 else e.line
        say n ("syntax error near unexpected token \x60".toList ++ spelledToken name spelling ++ ['\''])
        say n ('\x60' :: lineOf t n ++ ['\''])
    | .unclosed c =>
      say e.line ("unexpected EOF while looking for matching \x60".toList ++ [c, '\''])
    | .other m => say e.line m
    setStatus 2
    throw .failure
  else
    let message :=
      match e.mistake with
      | .unexpected name _ none => name ++ " unexpected".toList
      | .unexpected name _ (some expected) => name ++ " unexpected (expecting ".toList ++ expected ++ [')']
      | .unclosed c =>
        if c = '`' then "EOF in backquote substitution".toList
        else if c = '}' then "Missing '\x7d'".toList
        else if c = ')' then "Missing '))'".toList
        else "Unterminated quoted string".toList
      | .other m => m
    abort ("Syntax error: ".toList ++ message)

/-- Reads and runs lines as long as there are lines. -/
def runLines (flags : Flags) (t : Text) : Nat → Reader → Bool → Run Unit
  | 0, _, _ => throw (.killed Signal.kill)
  | n + 1, r, hasRun => do
    let s ← get
    let aliases := if s.isExtended ∧ !s.hasExtra "expand_aliases" then [] else s.aliases
    match ({ r with documents := s.documents, aliases := aliases }).readLine with
    | .error e => complainOfMistake t e
    | .ok (none, _) => if !hasRun then setStatus 0
    | .ok (some c?, r) =>
      modify fun s => { s with documents := r.documents }
      let isEnd := r.isPushedBack && r.token = .endOfText
      match c? with
      | some c =>
        let body := evaluate { flags with isLast := flags.isLast && isEnd } c
        if (← get).isExtended then
          tryCatch body fun j =>
            match j with
            | .abandon => if isEnd then throw j else pure ()
            | j => throw j
        else body
      | none => pure ()
      runLines flags t n r (hasRun || c?.isSome)

/-- Runs a text whose first line has a number. -/
def runTextFrom (line : Nat) (flags : Flags) (t : Text) : Run Unit := do
  let s ← get
  let reader := Reader.ofText s.isExtended s.documents (t.filter (· ≠ '\x00'))
  runLines evaluate flags t Parse.rounds { reader with line := line } false

/-- Runs a text. A text without commands gives success. -/
def runText (flags : Flags) (t : Text) : Run Unit := runTextFrom evaluate 1 flags t

/-- Runs the scripts of the signals that have come. -/
def runTraps : Run Unit := do
  takeSignals
  let s ← get
  if s.arrived ≠ [] ∧ !s.isInTrap then
    let status := s.status
    set { s with arrived := [], isInTrap := true, earlierStatus? := some status }
    for n in s.arrived do
      match (← get).traps.lookup n with
      | some script =>
        if script ≠ [] then
          ensuring (runText evaluate .plain script) (modify fun s => { s with isInTrap := false })
          setStatus status
      | none => pure ()
    modify fun s => { s with isInTrap := false, earlierStatus? := none }

/-- Runs a shell to its end: what it is to run, and then what is to be done at its end. -/
def finish (body : Run Unit) : Run Outcome := do
  let result ← tryCatch (do body; return none) fun j => return some j
  match result with
  | some (.killed n) => return .killed (UInt8.ofNat n)
  | _ =>
    let status := (← get).status
    let final ←
      match (← get).traps.lookup 0 with
      | some script =>
        modify fun s => { s with traps := s.traps.filter fun e => e.1 ≠ 0, earlierStatus? := some status }
        if script = [] then pure (Except.ok status)
        else
          tryCatch (do
            runText evaluate .plain script
            return Except.ok status) fun j => do
            match j with
            | .killed n => return Except.error n
            | .exit | .failure => return Except.ok (← get).status
            | _ => return Except.ok status
      | none => pure (Except.ok status)
    match final with
    | .ok code => return .exited (UInt8.ofNat (code % 256))
    | .error n => return .killed (UInt8.ofNat n)

/-- Runs the command of a job, unless that has been done. -/
def runJob (id : Nat) : Run Unit := do
  let s ← get
  match s.jobs.find? fun j => j.process.id = id with
  | some ⟨p, some body, none⟩ =>
    let o ← act (Machine.whileRunning id body)
    modify fun s => { s with jobs := s.jobs.map fun j =>
      if j.process.id = id then ⟨p, none, some (j.outcome?.getD o)⟩ else j }
  | _ => pure ()

/-- Runs the commands of all jobs. -/
def runJobs : Run Unit := do
  for j in (← get).jobs do
    runJob j.process.id

/-- Whether somebody reads what a process writes. -/
def isReadBySomebody (p : Process) : Bool :=
  [1, 2].any fun d => (p.stream? d).any fun n => n > Machine.errorStream

/-- Runs those jobs at the end of a shell whose output is awaited. -/
def runAwaitedJobs : Run Unit := do
  for j in (← get).jobs do
    if isReadBySomebody j.process then runJob j.process.id

/-- Runs a shell to its end, and then the jobs that are awaited; only the machine is left of it. -/
def runToEnd (session : Session) (body : Run Unit) : Action Outcome := do
  let run : Run Outcome := do
    let o ← finish evaluate (do body; takeSignals)
    runAwaitedJobs
    return o
  let (result, session) := (run.run session : Except Jump Outcome × Session)
  set session.machine
  match result with
  | .ok o => return o
  | .error _ => return .killed (UInt8.ofNat Signal.kill)

/-- The number that an outcome is for the shell. -/
def codeOf (o : Outcome) : Nat := o.code

/-- A session as a subshell begins with it. -/
def Session.forked (s : Session) (id : Nat) (change : Process → Process) : Session :=
  { s with
    process := change { s.process with id := id, parent := s.process.id }
    isSubshell := true
    traps := s.traps.filter fun e => e.2 = [] || (e.1 > Signal.last && s.has 'E')
    arrived := []
    jobs := []
    isInTrap := false
    earlierStatus? := none }

/-- Runs something in a shell of its own: only the machine is left of it. -/
def inSubshell (change : Process → Process) (body : Run Unit) : Run Outcome := do
  let outer ← get
  let id ← act Machine.newProcess
  modify fun s => s.forked id change
  modify fun s => { s with machine := { s.machine with processes := id :: s.machine.processes } }
  let o ← finish evaluate (do body; takeSignals)
  runAwaitedJobs
  modify fun s => { outer with
    machine := { s.machine with processes := s.machine.processes.erase id }
    random := s.random }
  return o

/-- Tells of a process that a signal has ended. -/
def tellOfSignal (o : Outcome) : Run Unit := do
  match o with
  | .killed n =>
    if n.toNat ∉ Signal.silent then act ((← get).process.complain (Signal.describe n.toNat))
  | .exited _ => pure ()

end JavacLauncher.Shell
