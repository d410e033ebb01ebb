import JavacLauncher.Machine.Lookup
import JavacLauncher.Machine.Signal
import JavacLauncher.Tool.Names

/-!
# Tools that start programs

A tool changes what a program has around it and lets the program take its place, or it starts programs of its
own and waits for them. The status says whether a program was found and could be started.
-/

namespace JavacLauncher.Tool

/-- The status for a program that could not be started. -/
def startStatus (e : SystemError) : Nat := if e = .noEntry then 127 else 126

/-- Lets a program take the tool's place; the tool goes on only if the program cannot be started. -/
def become (start : Starter) (p : Process) (argv : List Text) : Work SystemError := do
  flush
  match ← act (Exec.namedOrRead start p argv) with
  | .ok o => throw o
  | .error e => return e

/-- Starts a program and waits for it. -/
def runChild (start : Starter) (change : Process → Process) (argv : List Text) : Work (Except SystemError Outcome) := do
  flush
  let self ← process
  let id ← act Machine.newProcess
  act (Exec.namedOrRead start (change { self with id := id, parent := self.id }) argv)

/-! ## Changing the environment -/

/-- The environment with a variable set where it stood, or at the end. -/
def setIn (environment : List (Text × Text)) (name value : Text) : List (Text × Text) :=
  if environment.any fun e => e.1 = name then environment.map fun e => if e.1 = name then (name, value) else e
  else environment ++ [(name, value)]

/-- How far the splitting of a text into arguments has come. -/
structure Splitting where
  /-- The arguments so far and the current one, the last first; none if an argument has yet to begin. -/
  done : List Text
  current? : Option Text
  isSingle : Bool
  isDouble : Bool
  deriving Inhabited

namespace Splitting

def put (s : Splitting) (t : Text) : Splitting := { s with current? := some (t.reverse ++ s.current?.getD []) }

def close (s : Splitting) : Splitting :=
  match s.current? with
  | some t => { s with done := t.reverse :: s.done, current? := none }
  | none => s

def result (s : Splitting) : List Text := s.close.done.reverse

end Splitting

/-- The name in a variable's braces and what follows them. -/
def bracedName? (t : Text) : Option (Text × Text) :=
  match t with
  | '\x7b' :: t =>
    match cut? '\x7d' t with
    | some (c :: name, rest) =>
      if (c.isAlpha || c = '_') && name.all fun d => d.isAlphanum || d = '_' then some (c :: name, rest) else none
    | _ => none
  | _ => none

/-- Splits a text into arguments as it is done for the first lines of scripts. -/
def splitText (environment : List (Text × Text)) : Nat → Text → Splitting → Except Text (List Text)
  | 0, _, s => .ok s.result
  | _ + 1, [], s => if s.isSingle || s.isDouble then .error "no terminating quote in -S string".toList else .ok s.result
  | n + 1, c :: t, s =>
    let go := splitText environment n
    let plain (c : Char) (t : Text) : Except Text (List Text) := go t (s.put [c])
    if c = '\'' ∧ !s.isDouble then go t { s.put [] with isSingle := !s.isSingle }
    else if c = '"' ∧ !s.isSingle then go t { s.put [] with isDouble := !s.isDouble }
    else if " \t\n\x0b\x0c\r".toList.contains c ∧ !s.isSingle ∧ !s.isDouble then go t s.close
    else if c = '#' ∧ s.current?.isNone then .ok s.result
    else if c = '$' ∧ !s.isSingle then
      match bracedName? t with
      | some (name, rest) =>
        match environment.lookup name with
        | some v => go rest (s.put v)
        | none => go rest s
      | none => .error ("only $\x7bVARNAME\x7d expansion is supported, error at: ".toList ++ c :: t)
    else if c = '\\' then
      match t with
      | [] => .error "invalid backslash at end of string in -S".toList
      | d :: t' =>
        if s.isSingle ∧ d ≠ '\\' ∧ d ≠ '\'' then plain c t
        else
          match d with
          | '"' | '#' | '$' | '\'' | '\\' => plain d t'
          | '_' => if s.isDouble then plain ' ' t' else go t' s.close
          | 'c' =>
            if s.isDouble then .error "'\\c' must not appear in double-quoted -S string".toList else .ok s.result
          | 'f' => plain '\x0c' t'
          | 'n' => plain '\n' t'
          | 'r' => plain '\r' t'
          | 't' => plain '\t' t'
          | 'v' => plain '\x0b' t'
          | d => .error ("invalid sequence '\\".toList ++ d :: "' in -S".toList)
    else plain c t

/-- A hint that the first line of a script gives only one argument. -/
def firstLineHint : Text := "use -[v]S to pass options in shebang lines".toList

/-- The arguments with those to be split taken apart. -/
def splitArguments : Nat → List Text → Work (List Text)
  | n + 1, ('-' :: c :: letters) :: args => do
    let self ← process
    let split (t : Text) (rest : List Text) : Work (List Text) := do
      match splitText self.environment (t.length + 1) t ⟨[], none, false, false⟩ with
      | .ok found => splitArguments n (found ++ rest)
      | .error message => fail 125 message
    let long := "-split-string=".toList
    if c = '-' then
      if letters = [] then return ('-' :: c :: letters) :: args
      else
        match after? long (c :: letters) with
        | some t => split t args
        | none => return ('-' :: c :: letters) :: (← splitArguments n args)
    else
      let flags := (c :: letters).takeWhile fun c => "i0v".toList.contains c
      match (c :: letters).drop flags.length with
      | 'S' :: t =>
        let kept := if flags = [] then [] else [('-' :: flags)]
        match t, args with
        | [], a :: args => return kept ++ (← split a args)
        | [], [] => misuse 125 "option requires an argument -- 'S'".toList
        | t, args => return kept ++ (← split t args)
      | [d] =>
        if d = 'u' ∨ d = 'C' then return ('-' :: c :: letters) :: args.take 1 ++ (← splitArguments n (args.drop 1))
        else return ('-' :: c :: letters) :: args
      | d :: _ =>
        if " \t\n".toList.contains d then
          complain ("invalid option -- '".toList ++ [d, '\''])
          complain firstLineHint
          suggestHelp 125
        else return ('-' :: c :: letters) :: (← splitArguments n args)
      | [] => return ('-' :: c :: letters) :: (← splitArguments n args)
  | _, args => return args

def env (start : Starter) : Body := fun args => do
  let p ← parse ⟨"C:iu:0v", [("ignore-environment", "i", .nothing), ("null", "0", .nothing), ("unset", "u", .value),
    ("chdir", "C", .value), ("debug", "v", .nothing)], 125, true⟩ (← splitArguments (args.length + 100) args)
  let self ← process
  let (isEmpty, operands) :=
    match p.operands with
    | ['-'] :: ops => (true, ops)
    | ops => (p.has "i", ops)
  let mut environment := if isEmpty then [] else self.environment
  for name in p.values "u" do
    if name = [] ∨ '=' ∈ name then fail 125 ("cannot unset ".toList ++ quoteArgument name ++ ": Invalid argument".toList)
    environment := environment.filter fun e => e.1 ≠ name
  let assignments := operands.takeWhile fun o => '=' ∈ o
  let argv := operands.drop assignments.length
  for a in assignments do
    let name := a.takeWhile (· ≠ '=')
    environment := setIn environment name (a.drop (name.length + 1))
  if argv = [] then
    if p.has "C" then misuse 125 "must specify command with --chdir (-C)".toList
    for (name, value) in environment do
      say (name ++ '=' :: value ++ [if p.has "0" then '\x00' else '\n'])
  else
    if p.has "0" then misuse 125 "cannot specify --null (-0) with command".toList
    let standpoint ←
      match p.value? "C" with
      | none => pure self.standpoint
      | some dir =>
        match (← act get).tree.directory self.standpoint (Process.pathOf dir) with
        | .ok at_ => pure at_
        | .error e => fail 125 ("cannot change directory to ".toList ++ quoteArgument dir ++ ": ".toList ++ describe e)
    let e ← become start { self with environment := environment, standpoint := standpoint } argv
    complain (quoteArgument (argv.headD []) ++ ": ".toList ++ describe e)
    if e = .noEntry ∧ ' ' ∈ argv.headD [] then complain firstLineHint
    stop (startStatus e)

/-! ## Changing other things -/

/-- Lets a program take the tool's place, or says why it cannot. -/
def becomeOrFail (start : Starter) (p : Process) (argv : List Text) : Work Unit := do
  let e ← become start p argv
  fail (startStatus e) ("failed to run command ".toList ++ quoteArgument (argv.headD []) ++ ": ".toList ++ describe e)

/-- Runs a program that does not notice that a session ends. -/
def nohup (start : Starter) : Body := fun args => do
  let p ← parse ⟨"", [], 125, true⟩ args
  if p.operands = [] then misuse 125 "missing operand".toList
  let self ← process
  becomeOrFail start { self with ignored := 1 :: self.ignored } p.operands

/-- Runs a program in a session of its own. -/
def setsid (start : Starter) : Body := fun args => do
  let p ← parse ⟨"cfw", [("ctty", "c", .nothing), ("fork", "f", .nothing), ("wait", "w", .nothing)], 1, true⟩ args
  if p.operands = [] then misuse 1 "no command specified".toList
  let e ← become start (← process) p.operands
  fail (startStatus e) ("failed to execute ".toList ++ p.operands.headD [] ++ ": ".toList ++ describe e)

/-- Runs a program that writes at once what it has to write. -/
def stdbuf (start : Starter) : Body := fun args => do
  let p ← parse ⟨"i:o:e:", [("input", "i", .value), ("output", "o", .value), ("error", "e", .value)], 125, true⟩ args
  for (_, mode?) in p.options do
    let mode := mode?.getD []
    if mode ≠ ['L'] ∧ (sized? mode).isNone then fail 125 ("invalid mode ".toList ++ quoteArgument mode)
  if p.operands = [] then misuse 125 "missing operand".toList
  if p.options = [] then misuse 125 "you must specify a buffering mode option".toList
  becomeOrFail start (← process) p.operands

/-- Runs a program that others go before. Nothing here goes before anything else, so only the number is kept. -/
def nice (start : Starter) : Body := fun args => do
  let args := match args with
    | ('-' :: c :: t) :: rest => if (c.isDigit || ((c = '-' || c = '+') && t ≠ [])) && t.all Char.isDigit then ['-', 'n'] :: (c :: t) :: rest
      else args
    | args => args
  let p ← parse ⟨"n:", [("adjustment", "n", .value)], 125, true⟩ args
  let self ← process
  let by_ ←
    match p.value? "n" with
    | none => pure 10
    | some t =>
      match (String.ofList (if t.head? = some '+' then t.tail else t)).toInt? with
      | some n => pure n
      | none => fail 125 ("invalid adjustment ".toList ++ quoteArgument t)
  if p.operands = [] then
    if p.has "n" then misuse 125 "a command must be given with an adjustment".toList
    sayLine (toString self.niceness).toList
  else
    let niceness := max (-20) (min 19 (self.niceness + by_))
    let argv := p.operands
    let e ← become start { self with niceness := niceness } argv
    fail (startStatus e) (quoteArgument (argv.headD []) ++ ": ".toList ++ describe e)

/-! ## Limits of time -/

/-- The number of a signal that is given by name, with or without `SIG`, or by number. -/
def signal? (t : Text) : Option Nat :=
  let t := t.map Char.toUpper
  (Signal.ofText? ((after? "SIG".toList t).getD t)).filter (· ≤ 64)

/-- How many steps are left when a program has taken too many. -/
def remainingSteps : Nat := 100000

/-- Runs a program that gets a signal if it takes too long. One that takes more steps than there are to take
is held to take too long. -/
def timeout (start : Starter) : Body := fun args => do
  let p ← parse ⟨"k:s:v", [("foreground", "foreground", .nothing), ("kill-after", "k", .value),
    ("preserve-status", "preserve", .nothing), ("signal", "s", .value), ("verbose", "v", .nothing)], 125, true⟩ args
  let lengthOf (t : Text) : Work Nat := do
    match duration? t with
    | some n => return n
    | none => misuse 125 ("invalid time interval ".toList ++ quoteArgument t)
  let more? ←
    match p.value? "k" with
    | some t => do pure (some (← lengthOf t))
    | none => pure none
  let signal ←
    match p.value? "s" with
    | some t =>
      match signal? t with
      | some n => pure n
      | none => misuse 125 (quoteArgument t ++ ": invalid signal".toList)
    | none => pure Signal.terminate
  match p.operands with
  | t :: c :: cs =>
    let limit ← lengthOf t
    let self ← process
    let now := (← act get).slept
    let first : Deadline := ⟨now + limit, self.id, signal⟩
    let deadlines := if limit = 0 then []
      else first :: (more?.map fun k => (⟨now + limit + k, self.id, Signal.kill⟩ : Deadline)).toList
    act (modify fun m => { m with deadlines := m.deadlines ++ deadlines })
    let result ← runChild start id (c :: cs)
    let m ← act get
    let isEndless := m.budget = 0
    let isLate : Bool := limit > 0 && (isEndless || !m.deadlines.contains first)
    act (set { m with
      budget := if isEndless ∧ limit > 0 then remainingSteps else m.budget
      deadlines := m.deadlines.filter fun d => d.owner ≠ self.id
      signals := m.signals.filter fun e => m.processes.contains e.1 })
    match result with
    | .error e =>
      fail (startStatus e) ("failed to run command ".toList ++ quoteArgument c ++ ": ".toList ++ describe e)
    | .ok o =>
      let o := if isEndless then .killed (UInt8.ofNat signal) else o
      if !isLate then throw o
      else
        if p.has "v" then
          let name := ((Signal.names[signal - 1]?).getD (Text.ofNat signal))
          complain ("sending signal ".toList ++ name ++ " to command ".toList ++ quoteArgument c)
        match o with
        | .killed n =>
          if n.toNat = Signal.kill then throw o
          else stop (if p.has "preserve" then 128 + n.toNat else 124)
        | .exited n => stop (if p.has "preserve" then n.toNat else 124)
  | _ => suggestHelp 125

end JavacLauncher.Tool
