import JavacLauncher.Shell.Builtin.Basic
import JavacLauncher.Shell.Expand

/-!
# Commands about processes and signals
-/

namespace JavacLauncher.Shell.Builtin

/-- The number of a signal by its name or number, with the long form of names where that is known. -/
def signalOf? (isExtended : Bool) (t : Text) : Option Nat :=
  let t := if isExtended then (after? "SIG".toList (t.map Char.toUpper)).getD t else t
  if t.map Char.toUpper = "EXIT".toList then some 0
  else (Signal.ofText? t).filter (· < 65)

/-- The name of a signal. -/
def signalName? (n : Nat) : Option Text := if n = 0 then some "EXIT".toList else Signal.names[n - 1]?

/-- What scripts can be run for beside signals, in the extended dialect: that a simple command is about to be run,
that a command has failed, and that a function ends. They are numbered behind the signals. -/
def commandEvent : Nat := 65
def failureEvent : Nat := 66
def returnEvent : Nat := 67

def eventNames : List (Text × Nat) :=
  [("DEBUG".toList, commandEvent), ("ERR".toList, failureEvent), ("RETURN".toList, returnEvent)]

/-- The number of a signal or of something else that a script can be run for. -/
def eventOf? (isExtended : Bool) (t : Text) : Option Nat :=
  (if isExtended then eventNames.lookup (t.map Char.toUpper) else none).or (signalOf? isExtended t)

/-! ## Signals -/

/-- What `kill` is asked to do. -/
inductive KillRequest where
  | send (signal : Nat) (processes : List Text)
  | show (codes : List Text)
  | wrong (message : Text)
  deriving Repr, Inhabited

/-- How `kill` is used. -/
def killUsage : Text :=
  "Usage: kill [-s sigspec | -signum | -sigspec] [pid | job]... or\nkill -l [exitstatus]".toList

/-- What the arguments of `kill` ask for. -/
def killRequest (isExtended : Bool) (args : List Text) : KillRequest :=
  let sending (name : Text) (pids : List Text) (otherwise : Text) : KillRequest :=
    match signalOf? isExtended name with
    | some n =>
      let pids := if pids.head? = some ['-', '-'] then pids.tail else pids
      if pids = [] then .wrong killUsage else .send n pids
    | none => .wrong otherwise
  match args with
  | [] => .wrong killUsage
  | ['-', 's'] :: name :: pids =>
    sending name pids (if isExtended then name ++ ": invalid signal specification".toList
      else "invalid signal number or name: ".toList ++ name)
  | ['-', 'l'] :: codes => .show codes
  | ['-', '-'] :: pids => if pids = [] then .wrong killUsage else .send Signal.terminate pids
  | ('-' :: c :: name) :: pids =>
    sending (c :: name) pids (if isExtended then c :: name ++ ": invalid signal specification".toList
      else "Illegal option -".toList ++ [c])
  | pids => .send Signal.terminate pids

/-- Sends a signal to a command in the background; false if there is none of that number. -/
def signalJob (id signal : Nat) : Run Bool := do
  let s ← get
  if s.jobs.any fun (j : Job) => j.process.id = id then
    if signal ≠ 0 ∧ signal ∉ Signal.ignored then
      set { s with jobs := s.jobs.map fun (j : Job) =>
        if j.process.id = id ∧ j.outcome?.isNone ∧ !j.process.ignored.contains signal then
          ⟨j.process, none, some (.killed (UInt8.ofNat signal))⟩
        else j }
    return true
  else return false

def kill : Body := fun args => do
  let s ← get
  match killRequest s.isExtended args with
  | .wrong message =>
    if s.isExtended ∧ message = killUsage then
      usage "kill" "[-s sigspec | -n signum | -sigspec] pid | jobspec ... or kill -l [sigspec]"
      setStatus 2
    else if s.isExtended then failWith 1 message
    else abort message
  | .show [] =>
    setStatus 0
    for (name, i) in Signal.names.zipIdx do
      if s.isExtended then
        let n := Text.ofNat (i + 1)
        say (List.replicate (2 - n.length) ' ' ++ n ++ ") SIG".toList ++ name ++ (if (i + 1) % 5 = 0 then ['\n'] else ['\t']))
      else sayLine name
    if s.isExtended then say ['\n']
  | .show codes =>
    setStatus 0
    for t in codes do
      match numeral? t with
      | some n =>
        match signalName? (if n > 128 then n - 128 else n) with
        | some name => sayLine name
        | none =>
          if s.isExtended then failWith 1 (t ++ ": invalid signal specification".toList)
          else abort ("invalid signal number or exit status: ".toList ++ t)
      | none =>
        match signalOf? s.isExtended t with
        | some n => if s.isExtended then sayLine (Text.ofNat n) else abort ("Illegal number: ".toList ++ t)
        | none =>
          if s.isExtended then failWith 1 (t ++ ": invalid signal specification".toList)
          else abort ("Illegal number: ".toList ++ t)
  | .send signal pids =>
    setStatus 0
    for t in pids do
      let s ← get
      let id? : Option Nat :=
        match t with
        | '%' :: '%' :: _ | ['%'] | '%' :: '+' :: _ => s.lastJob?
        | '%' :: n => (numeral? n).bind fun n => (s.jobs[n - 1]?).map fun j => j.process.id
        | t => numeral? t
      match id? with
      | none =>
        if s.isExtended then failWith 1 (t ++ ": arguments must be process or job IDs".toList)
        else if t.head? = some '%' then abort ("No such job: ".toList ++ t)
        else if (t.head? = some '-') ∧ (numeral? t.tail).isSome then failWith 1 "No such process\n".toList
        else abort ("Illegal number: ".toList ++ t)
      | some id =>
        if id = s.process.id ∨ id = 0 then
          if signal ≠ 0 then receive signal
        else if ← signalJob id signal then pure ()
        else if signal = 0 ∧ s.machine.processes.contains id then pure ()
        else if ← act (Machine.signal id signal) then pure ()
        else if s.isExtended then failWith 1 (['('] ++ t ++ ") - No such process".toList)
        else failWith 1 "No such process\n".toList

def trap : Body := fun args => do
  let s ← get
  let o ← options (if s.isExtended then "lp" else "") "[-lp] [[arg] signal_spec ...]" args
  let shown (n : Nat) : Text :=
    match eventNames.find? fun e => e.2 = n with
    | some (name, _) => name
    | none => (if s.isExtended ∧ n ≠ 0 then "SIG".toList else []) ++ (signalName? n).getD []
  let list (ns : List Nat) : Run Unit := do
    for n in ns do
      match s.traps.lookup n with
      | some t => sayLine ("trap -- ".toList ++ inSingleQuotes t ++ ' ' :: shown n)
      | none => pure ()
  let all := (s.traps.map (·.1)).mergeSort fun a b => a ≤ b
  setStatus 0
  match o.rest with
  | [] => list all
  | first :: rest =>
    if o.has 'p' then list (o.rest.filterMap (eventOf? s.isExtended))
    else
      let (action?, signals) :=
        if rest = [] ∨ ((numeral? first).isSome) then (none, o.rest)
        else (if first = ['-'] then none else some first, rest)
      for t in signals do
        match eventOf? s.isExtended t with
        | none =>
          if s.isExtended then failWith 1 (t ++ ": invalid signal specification".toList)
          else
            act (s.process.complain ("trap: ".toList ++ t ++ ": bad trap".toList))
            setStatus 1
            return
        | some n => modify fun s =>
          { s with
            traps := (action?.map fun a => (n, a)).toList ++ s.traps.filter fun e => e.1 ≠ n
            process := { s.process with
              ignored := (if action? = some [] then [n] else []) ++ s.process.ignored.filter (· ≠ n) } }

/-! ## Jobs -/

/-- The job that an argument names. -/
def jobOf? (s : Session) (t : Text) : Option Job :=
  match t with
  | '%' :: '%' :: _ | ['%'] | '%' :: '+' :: _ => s.jobs.getLast?
  | '%' :: n => (numeral? n).bind fun n => s.jobs[n - 1]?
  | t => (numeral? t).bind fun id => s.jobs.find? fun j => j.process.id = id

def wait : Body := fun args => do
  let s ← get
  let o ← options (if s.isExtended then "fnp:" else "") "[-fn] [-p var] [id ...]" args
  setStatus 0
  if o.rest = [] then
    runJobs
    if o.has 'n' then
      match (← get).jobs.head? with
      | some j =>
        setStatus ((j.outcome?.map codeOf).getD 127)
        modify fun s => { s with jobs := s.jobs.tail }
      | none => setStatus 127
    else modify fun s => { s with jobs := [] }
  for t in o.rest do
    match jobOf? (← get) t with
    | some j =>
      runJobs
      let s ← get
      match s.jobs.find? fun k => k.process.id = j.process.id with
      | some ⟨_, _, some outcome⟩ =>
        tellOfSignal outcome
        setStatus (codeOf outcome)
      | _ => setStatus 0
    | none =>
      let s ← get
      match numeral? t with
      | some _ =>
        if s.isExtended then warn ("pid ".toList ++ t ++ " is not a child of this shell".toList)
        setStatus 127
      | none =>
        if s.isExtended then failWith 1 ('\x60' :: t ++ "': not a pid or valid job spec".toList)
        else if t.head? = some '%' then abort ("No such job: ".toList ++ t)
        else abort ("Illegal number: ".toList ++ t)

def jobs : Body := fun args => do
  let o ← options "lp" "[-lnprs] [jobspec ...]" args
  for j in (← get).jobs do
    if o.has 'p' then sayLine (Text.ofNat j.process.id)
  setStatus 0

/-- What needs a terminal to change jobs. -/
def resume (isExtended : Bool) (name : String) : Body := fun _ => do
  if isExtended then failWith 1 "no job control".toList
  else
    let _ := name
    abort "No current job".toList

def times : Body := fun _ => do
  let t := if (← get).isExtended then "0m0.000s 0m0.000s".toList else "0m0.000000s 0m0.000000s".toList
  sayLine t
  sayLine t
  setStatus 0

/-- The bounds that the plain dialect knows, with what they are called. -/
def limitNames : List (Char × String) :=
  [('t', "time(seconds)"), ('f', "file(blocks)"), ('d', "data(kbytes)"), ('s', "stack(kbytes)"),
    ('c', "coredump(blocks)"), ('m', "memory(kbytes)"), ('l', "locked memory(kbytes)"), ('p', "process"),
    ('n', "nofiles"), ('v', "vmemory(kbytes)"), ('w', "locks"), ('r', "rtprio")]

/-- Those of the extended dialect, each with its unit and its letter. -/
def extendedLimitNames : List (Char × String) :=
  [('R', "real-time non-blocking time  (microseconds, -R)"), ('c', "core file size              (blocks, -c)"),
    ('d', "data seg size               (kbytes, -d)"), ('e', "scheduling priority                 (-e)"),
    ('f', "file size                   (blocks, -f)"), ('i', "pending signals                     (-i)"),
    ('l', "max locked memory           (kbytes, -l)"), ('m', "max memory size             (kbytes, -m)"),
    ('n', "open files                          (-n)"), ('p', "pipe size                (512 bytes, -p)"),
    ('q', "POSIX message queues         (bytes, -q)"), ('r', "real-time priority                  (-r)"),
    ('s', "stack size                  (kbytes, -s)"), ('t', "cpu time                   (seconds, -t)"),
    ('u', "max user processes                  (-u)"), ('v', "virtual memory              (kbytes, -v)"),
    ('x', "file locks                          (-x)")]

/-- A bound as it is shown. -/
def limitText : Option Nat → Text
  | some n => Text.ofNat n
  | none => "unlimited".toList

/-- Whether one bound is beyond another one. -/
def isBeyond (a b : Option Nat) : Bool :=
  match a, b with
  | _, none => false
  | none, some _ => true
  | some a, some b => b < a

/-- The bound that an argument gives. -/
def limitGiven (p : Process) (letter : Char) (isExtended : Bool) (t : Text) : Option (Option Nat) :=
  match isExtended, String.ofList t with
  | _, "unlimited" => some none
  | true, "hard" => some (p.limit letter true)
  | true, "soft" => some (p.limit letter false)
  | false, "" => some (some 0)
  | _, _ => (numeral? t).map some

/-- Sets a bound. -/
def setLimit (letter : Char) (isHard isSoft : Bool) (t : Text) : Run Unit := do
  let s ← get
  let refuse (error : Nat) : Run Unit :=
    let message := SystemError.describe error
    if s.isExtended then
      let name := (((extendedLimitNames.lookup letter).getD "").toList.takeWhile (· ≠ '(')).reverse.dropWhile (· = ' ')
      failWith 1 (name.reverse ++ ": cannot modify limit: ".toList ++ message)
    else abort ("error setting limit (".toList ++ message ++ [')'])
  match limitGiven s.process letter s.isExtended t with
  | none => if s.isExtended then failWith 1 (t ++ ": invalid number".toList) else abort "bad number".toList
  | some value? =>
    let hard := if isHard then value? else s.process.limit letter true
    let soft := if isSoft then value? else s.process.limit letter false
    if isBeyond hard (s.process.limit letter true) then refuse 1
    else if isBeyond soft hard then refuse 22
    else modify fun s => { s with process := (s.process.withLimit ⟨letter, true, hard⟩).withLimit ⟨letter, false, soft⟩ }

def ulimit : Body := fun args => do
  let isExtended := (← get).isExtended
  let o ← options (if isExtended then "HSabcdefiklmnpqrstuvwxPRT" else "HSatfdscmlpnvwr")
    "[-SHabcdefiklmnpqrstuvxPRT] [limit]" args
  let letters := (o.options.map (·.1)).filter fun c => c ≠ 'H' && c ≠ 'S' && c ≠ 'a'
  let hasChoice := o.has 'H' || o.has 'S'
  let showsHard := o.has 'H' && !o.has 'S'
  let letter := letters.getLast?.getD 'f'
  setStatus 0
  match o.rest with
  | [] =>
    let p := (← get).process
    if o.has 'a' then
      for (letter, name) in if isExtended then extendedLimitNames else limitNames do
        let width := if isExtended then 0 else 20
        sayLine (name.toList ++ List.replicate (width - name.length) ' ' ++ ' ' :: limitText (p.limit letter showsHard))
    else if isExtended ∧ letters.length > 1 then
      for letter in letters do
        sayLine (((extendedLimitNames.lookup letter).getD "").toList ++ ' ' :: limitText (p.limit letter showsHard))
    else sayLine (limitText (p.limit letter showsHard))
  | t :: more =>
    if more ≠ [] ∨ (o.has 'a' ∧ !isExtended) then
      if isExtended then setLimit letter (!hasChoice || o.has 'H') (!hasChoice || o.has 'S') t
      else abort "too many arguments".toList
    else setLimit letter (!hasChoice || o.has 'H') (!hasChoice || o.has 'S') t

/-! ## Where commands are -/

/-- Whether a path leads to something that can be run. -/
def isRunnable (s : Session) (path : Text) : Bool :=
  match s.machine.tree.look s.process.standpoint (Process.pathOf path) with
  | .ok n => (n.kind matches .file _ | .program _) && n.isExecutable
  | .error _ => false

/-- Whether a path leads to anything. -/
def isPresent (s : Session) (path : Text) : Bool :=
  (s.machine.tree.look s.process.standpoint (Process.pathOf path)).toOption.isSome

/-- The paths that a name may mean in the directories of `PATH`. -/
def candidates (s : Session) (name : Text) : List Text :=
  (((s.valueOf? "PATH".toList).getD []).splitOn ':').map fun dir => if dir = [] then name else dir ++ '/' :: name

/-- The program of a name. -/
def programOf? (s : Session) (name : Text) : Option Text :=
  if '/' ∈ name then if isPresent s name ∧ (!s.isExtended || isRunnable s name) then some name else none
  else (candidates s name).find? (isRunnable s)

/-- What a name means to the shell. -/
inductive Meaning where
  | keyword
  | alias (value : Text)
  | function
  | special
  | command
  | program (path : Text)
  | nothing
  deriving DecidableEq, Repr, Inhabited

/-- What a name means, given the names of the shell's own commands. -/
def meaningOf (names : List Text) (s : Session) (name : Text) : Meaning :=
  if name ∈ reservedWords ∨ (s.isExtended ∧ name ∈ extendedWords ++ ["]]".toList, "coproc".toList]) then .keyword
  else
    match s.aliases.lookup name with
    | some value => .alias value
    | none =>
      if (s.functions.lookup name).isSome then .function
      else if name ∈ specialCommands ∧ !s.isExtended then .special
      else if name ∈ names then .command
      else
        match programOf? s name with
        | some path => .program path
        | none => .nothing

/-- Says what a name means, in few words or in a sentence. The status is that of a name without meaning. -/
def describe (names : List Text) (isLong : Bool) (name : Text) : Run Unit := do
  let s ← get
  let say_ (long short : Text) : Run Unit := sayLine (if isLong then name ++ long else short)
  match meaningOf names s name with
  | .keyword => say_ " is a shell keyword".toList name
  | .alias value =>
    if s.isExtended then say_ (" is aliased to \x60".toList ++ value ++ ['\'']) ("alias ".toList ++ name ++ '=' :: inSingleQuotes value)
    else say_ (" is an alias for ".toList ++ value) ("alias ".toList ++ name ++ '=' :: inSingleQuotes value)
  | .function => say_ (if s.isExtended then " is a function".toList else " is a shell function".toList) name
  | .special => say_ " is a special shell builtin".toList name
  | .command => say_ " is a shell builtin".toList name
  | .program path =>
    let isTracked := '/' ∉ name && s.located.contains name
    if s.isExtended then say_ (" is ".toList ++ (if isTracked then "hashed (".toList ++ path ++ [')'] else path)) path
    else say_ (" is ".toList ++ (if isTracked then "a tracked alias for ".toList else []) ++ path) path
  | .nothing =>
    if s.isExtended then
      if isLong then warn (name ++ ": not found".toList)
      setStatus 1
    else
      if isLong then sayLine (name ++ ": not found".toList)
      setStatus 127

/-- Says what names mean. -/
def typeOf (names : List Text) : Body := fun args => do
  let s ← get
  setStatus 0
  if s.isExtended then
    let o ← options "afptP" "[-afptP] name [name ...]" args
    for name in o.rest do
      if o.has 't' then
        match meaningOf names s name with
        | .keyword => sayLine "keyword".toList
        | .alias _ => sayLine "alias".toList
        | .function => sayLine "function".toList
        | .special | .command => sayLine "builtin".toList
        | .program _ => sayLine "file".toList
        | .nothing => setStatus 1
      else if o.has 'p' ∨ o.has 'P' then
        match meaningOf names s name with
        | .program path => sayLine path
        | .nothing => setStatus 1
        | _ => if o.has 'P' then match programOf? s name with
            | some path => sayLine path
            | none => setStatus 1
      else describe names true name
  else
    for name in args do
      describe names true name

/-- The bucket that the plain dialect keeps a program in; it lists programs bucket by bucket. -/
def programBucket (name : Text) : Nat := name.foldl (fun n c => n + c.toNat) ((name.headD ' ').toNat * 16) % 31

/-- Remembers where programs are, or shows what is remembered. A name without a program is complained of. -/
def hash : Body := fun args => do
  let isExtended := (← get).isExtended
  let o ← options (if isExtended then "rdltp:" else "r") "[-lr] [-p pathname] [-dt] [name ...]" args
  setStatus 0
  if o.has 'r' then modify fun s => { s with located := [] }
  let s ← get
  if o.rest = [] ∧ !o.has 'r' then
    if isExtended then
      if s.located = [] then say "hash: hash table empty\n".toList else sayLine "hits\tcommand".toList
    let names := (s.located.map fun n => (programBucket n, n)).mergeSort fun a b => a.1 ≤ b.1
    for (_, name) in names do
      match programOf? s name with
      | some path => sayLine (if isExtended then "   1\t".toList ++ path else path)
      | none => pure ()
  for name in o.rest do
    if (programOf? s name).isNone ∧ (s.functions.lookup name).isNone then failWith 1 (name ++ ": not found".toList)
    else if (programOf? s name).isSome ∧ '/' ∉ name ∧ name ∉ s.located then
      modify fun s => { s with located := s.located ++ [name] }

end JavacLauncher.Shell.Builtin
