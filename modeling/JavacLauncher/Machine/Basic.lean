import JavacLauncher.Host
import JavacLauncher.Machine.FileTree
import JavacLauncher.Text.Octets

/-!
# A machine in memory

A machine has files, an environment, a current directory and streams. A stream is read or written
through a number; a process knows its streams by descriptors of its own, and hands them on to the
processes it starts. Processes run one after another: what one writes into a pipe is complete before the
other reads it. A pipe takes only so much; a process that goes on writing is told that nobody reads.
-/

namespace JavacLauncher

/-- What may be done through a stream. -/
structure Access where
  reads : Bool
  writes : Bool
  /-- Whatever is written goes to the end. -/
  appends : Bool
  deriving DecidableEq, Repr, Inhabited

/-- Something to read from or to write to. -/
inductive Stream where
  /-- What is left to read. -/
  | source (rest : Bytes)
  /-- What has been written, the last part first, how much that is, and how much is taken at most. -/
  | buffer (written : List Bytes) (size : Nat) (limit? : Option Nat)
  /-- A file, and where in it reading or writing goes on. -/
  | file (node offset : Nat) (access : Access)
  | device (d : Device)
  | directory
  deriving DecidableEq, Repr, Inhabited

/-- A time at which all processes that one process has started get a signal. -/
structure Deadline where
  time : Nat
  owner : Nat
  signal : Nat
  deriving DecidableEq, Repr, Inhabited

/-- A machine with all that processes may change. -/
structure Machine where
  tree : FileTree
  standpoint : Standpoint
  environment : List (Bytes × Bytes)
  /-- The launcher's own program. -/
  program : Path
  /-- The home directory kept for the user. -/
  accountHome? : Option Path
  streams : Std.TreeMap Nat Stream
  /-- The number for the next stream. -/
  nextStream : Nat
  /-- The number for the next process. -/
  nextProcess : Nat
  /-- The processes that are running; each one has started the one before it. -/
  processes : List Nat
  /-- Signals that running processes have not taken yet, each with its process. -/
  signals : List (Nat × Nat)
  /-- Goes on by one with every change of a file. -/
  clock : Nat
  /-- How long processes have slept, in billionths of a second. -/
  slept : Nat
  /-- When processes that others have started are to get a signal. -/
  deadlines : List Deadline
  /-- How many more steps processes may take. -/
  budget : Nat
  deriving Inhabited

/-- A bound on what a process may use. It is known by a letter; the hard bound is one for the soft one. -/
structure Limit where
  letter : Char
  isHard : Bool
  /-- There may be no bound. -/
  value? : Option Nat
  deriving DecidableEq, Repr, Inhabited

/-- What a running program has around it. Its texts are octets. -/
structure Process where
  standpoint : Standpoint
  environment : List (Text × Text)
  /-- Which stream each descriptor stands for. -/
  descriptors : List (Nat × Nat)
  id : Nat
  parent : Nat
  /-- The permissions that new files do not get. -/
  mask : Nat
  /-- The signals that do nothing to the process. -/
  ignored : List Nat
  /-- How far others go before it. -/
  niceness : Int
  /-- The bounds that are not what they were at first. -/
  limits : List Limit
  deriving Repr, Inhabited

/-- What a program does to the machine. -/
abbrev Action := StateM Machine

/-- A program at work, which may end at any point. -/
abbrev Task := ExceptT Outcome Action

/-- Starts a program from a file, with its arguments, the first of which is its name. -/
abbrev Starter := Process → Text → List Text → Action (Except SystemError Outcome)

/-- What comes of writing. -/
inductive WriteResult where
  | done
  | refused (e : SystemError)
  /-- Nobody reads any more. -/
  | broken
  deriving DecidableEq, Repr, Inhabited

/-- How a file is to be opened. -/
structure Opening where
  access : Access
  /-- Makes the file if it is missing. -/
  creates : Bool
  /-- Empties the file. -/
  truncates : Bool
  /-- Insists on making the file. -/
  isExclusive : Bool
  deriving DecidableEq, Repr, Inhabited

namespace Opening

def toRead : Opening := ⟨⟨true, false, false⟩, false, false, false⟩
def toWrite : Opening := ⟨⟨false, true, false⟩, true, true, false⟩
def toAppend : Opening := ⟨⟨false, true, true⟩, true, false, false⟩
def toUpdate : Opening := ⟨⟨true, true, false⟩, true, false, false⟩

end Opening

namespace Machine

/-- The stream that standard input is. -/
def inputStream : Nat := 0

/-- The stream that standard output is. -/
def outputStream : Nat := 1

/-- The stream that the error stream is. -/
def errorStream : Nat := 2

/-- A stream that takes all that is written. -/
def newBuffer : Stream := .buffer [] 0 none

/-- How much is written into a pipe at most before the reader would have to read. -/
def pipeLimit : Nat := 2097152

/-- The room that each writing takes beside what is written. -/
def writeCost : Nat := 16

/-- The end of a pipe into which is written. -/
def newPipe : Stream := .buffer [] 0 (some pipeLimit)

/-- The streams of a machine with something to read on standard input. -/
def standardStreams (input : Bytes) : Std.TreeMap Nat Stream :=
  .ofList [(inputStream, .source input), (outputStream, newBuffer), (errorStream, newBuffer)]

/-- The stream of a number. -/
def stream? (m : Machine) (n : Nat) : Option Stream := m.streams[n]?

/-- The machine with the stream `n` replaced. -/
def setStream (m : Machine) (n : Nat) (s : Stream) : Machine :=
  { m with streams := m.streams.insert n s }

/-- What has been written to the stream `n`. -/
def written (m : Machine) (n : Nat) : Bytes :=
  match m.stream? n with
  | some (.buffer parts _ _) => parts.reverse.flatten
  | _ => []

/-- Makes a new stream. -/
def openStream (s : Stream) : Action Nat := do
  let m ← get
  set { m.setStream m.nextStream s with nextStream := m.nextStream + 1 }
  return m.nextStream

/-- Takes what has been written to a stream, and the stream with it. -/
def takeStream (n : Nat) : Action Bytes := do
  let m ← get
  set { m with streams := m.streams.erase n }
  return m.written n

/-- Changes the files; the clock goes on. -/
def changeTree (f : Nat → FileTree → FileTree) : Action Unit := modify fun m =>
  { m with tree := f m.clock m.tree, clock := m.clock + 1 }

/-- What `old` becomes where `new` is written at an offset. -/
def overwrite (old : Bytes) (offset : Nat) (new : Bytes) : Bytes :=
  if offset = old.length then old ++ new
  else (old ++ List.replicate (offset - old.length) 0).take offset ++ new ++ old.drop (offset + new.length)

/-- Writes to a stream. -/
def write (n : Nat) (bs : Bytes) : Action WriteResult := do
  let m ← get
  match m.stream? n with
  | some (.buffer parts size limit?) =>
    if limit?.any fun limit => size > limit then return .broken
    else
      set (m.setStream n (.buffer (bs :: parts) (size + bs.length + writeCost) limit?))
      return .done
  | some (.file number offset access) =>
    match access.writes, m.tree.node? number with
    | true, some ⟨.file old, mode, _⟩ =>
      let offset := if access.appends then old.length else offset
      changeTree fun now t => t.setNode number ⟨.file (overwrite old offset bs), mode, now⟩
      modify fun m => m.setStream n (.file number (offset + bs.length) access)
      return .done
    | _, _ => return .refused .badDescriptor
  | some (.device .full) => return if bs = [] then .done else .refused .noSpace
  | some (.device .terminal) => return .refused (.code 5)
  | some (.device _) => return .done
  | _ => return .refused .badDescriptor

/-- How much is read of a device that never ends. -/
def endlessSize : Nat := 65536

/-- Reads from a stream: what is left, or as much of it as is asked for. -/
def read (n : Nat) (count? : Option Nat) : Action (Except SystemError Bytes) := do
  let m ← get
  let cut (rest : Bytes) : Bytes := (count?.map rest.take).getD rest
  match m.stream? n with
  | some (.source rest) =>
    let bs := cut rest
    set (m.setStream n (.source (rest.drop bs.length)))
    return .ok bs
  | some (.file number offset access) =>
    if !access.reads then return .error .badDescriptor
    else
      let content := ((m.tree.node? number).map FileTree.contentOf).getD (.ok [])
      match content with
      | .error e => return .error e
      | .ok content =>
        let bs := cut (content.drop offset)
        set (m.setStream n (.file number (offset + bs.length) access))
        return .ok bs
  | some (.device .null) => return .ok []
  | some (.device .terminal) => return .error (.code 5)
  | some (.device _) => return .ok (List.replicate (count?.getD endlessSize) 0)
  | some .directory => return .error .isDirectory
  | _ => return .error .badDescriptor

/-- Gives back what was read last and not needed; only files and sources take it back. -/
def unread (n : Nat) (bs : Bytes) : Action Unit := modify fun m =>
  match m.stream? n with
  | some (.source rest) => m.setStream n (.source (bs ++ rest))
  | some (.file number offset access) => m.setStream n (.file number (offset - bs.length) access)
  | _ => m

/-- Reads up to a byte that ends a record, and that byte; nothing at the end of the stream. -/
def readRecord (ending : UInt8) (n : Nat) : Action (Except SystemError Bytes) := do
  match ← read n none with
  | .error e => return .error e
  | .ok all =>
    match cut? ending all with
    | some (record, rest) =>
      unread n rest
      return .ok (record ++ [ending])
    | none => return .ok all

/-- Does something with the tree that may fail. -/
def withTree {α : Type} (f : FileTree → Except SystemError α) : Action (Except SystemError α) := do
  return f (← get).tree

/-- A number for a new process. -/
def newProcess : Action Nat := do
  let m ← get
  set { m with nextProcess := m.nextProcess + 1 }
  return m.nextProcess

/-- Sends a signal to a running process; false if there is none of that number. -/
def signal (id number : Nat) : Action Bool := do
  let m ← get
  if m.processes.contains id then
    set { m with signals := m.signals ++ [(id, number)] }
    return true
  else return false

/-- Takes the signals that have come for a process. -/
def takeSignals (id : Nat) : Action (List Nat) := do
  let m ← get
  if m.signals = [] then return []
  else
    let (mine, others) := m.signals.partition fun e => e.1 = id
    set { m with signals := others }
    return mine.map (·.2)

/-- Counts a process among the running ones while it runs. -/
def whileRunning {α : Type} (id : Nat) (body : Action α) : Action α := do
  modify fun m => { m with processes := id :: m.processes }
  let a ← body
  modify fun m => { m with processes := m.processes.erase id }
  return a

/--
Lets time pass while a process sleeps. A deadline that is reached sends its signal; the process goes on
sleeping if the signal does nothing to it. Gives the signal that ends the sleep.
-/
def sleep (ignored : List Nat) (duration : Nat) : Action (Option Nat) := do
  let m ← get
  let wake := m.slept + duration
  let due : List Deadline := (m.deadlines.filter fun d => d.time ≤ wake && m.processes.contains d.owner).mergeSort fun a b => a.time ≤ b.time
  let ending? := due.find? fun d => !ignored.contains d.signal
  let reached : List Deadline := match ending? with
    | some d => due.filter fun e => e.time ≤ d.time
    | none => due
  let sent := reached.flatMap fun d =>
    (m.processes.takeWhile (· ≠ d.owner)).map fun id => (id, d.signal)
  set { m with
    slept := match ending? with
      | some d => max m.slept d.time
      | none => wake
    deadlines := m.deadlines.filter fun d => !reached.contains d
    signals := m.signals ++ sent }
  return ending?.map (·.signal)

/-- Takes a step, unless too many have been taken. -/
def step : Action Bool := do
  let m ← get
  match m.budget with
  | 0 => return false
  | n + 1 =>
    set { m with budget := n }
    return true

end Machine

namespace Process

/-- The stream that a descriptor stands for. -/
def stream? (p : Process) (descriptor : Nat) : Option Nat := p.descriptors.lookup descriptor

/-- The process with a descriptor standing for another stream. -/
def bind (p : Process) (descriptor stream : Nat) : Process :=
  { p with descriptors := (descriptor, stream) :: p.descriptors.filter fun e => e.1 ≠ descriptor }

/-- The process without a descriptor. -/
def unbind (p : Process) (descriptor : Nat) : Process :=
  { p with descriptors := p.descriptors.filter fun e => e.1 ≠ descriptor }

/-- The bounds that processes have at first. -/
def initialLimit (letter : Char) (isHard : Bool) : Option Nat :=
  match letter with
  | 'n' => some 1048576
  | 's' => if isHard then none else some 8192
  | 'l' => some 8192
  | 'r' | 'e' => some 0
  | 'p' => some 8
  | _ => none

/-- A bound of a process. -/
def limit (p : Process) (letter : Char) (isHard : Bool) : Option Nat :=
  match p.limits.find? fun l => l.letter = letter && l.isHard = isHard with
  | some l => l.value?
  | none => initialLimit letter isHard

/-- The process with another bound. -/
def withLimit (p : Process) (l : Limit) : Process :=
  { p with limits := l :: p.limits.filter fun m => m.letter ≠ l.letter || m.isHard ≠ l.isHard }

/-- The value of a variable. -/
def valueOf? (p : Process) (name : Text) : Option Text := p.environment.lookup name

/-- Writes to a descriptor. -/
def write (p : Process) (descriptor : Nat) (t : Text) : Action WriteResult :=
  match p.stream? descriptor with
  | some n => Machine.write n (Octets.toBytes t)
  | none => return .refused .badDescriptor

/-- Writes a line to the error stream. -/
def complain (p : Process) (t : Text) : Action Unit := do
  let _ ← p.write 2 (t ++ ['\n'])

/-- Reads from a descriptor: what is left, or as much of it as is asked for. -/
def read (p : Process) (descriptor : Nat) (count? : Option Nat) : Action (Except SystemError Text) := do
  match p.stream? descriptor with
  | some n => return (← Machine.read n count?).map Octets.ofBytes
  | none => return .error .badDescriptor

/-- Reads all of standard input; what cannot be read is empty. -/
def readInput (p : Process) : Action Text := do
  return (← p.read 0 none).toOption.getD []

/-- The path that a text spells. -/
def pathOf (t : Text) : Path := ⟨Octets.toBytes t⟩

/-- What a path leads to. -/
def look (p : Process) (path : Text) : Action (Except SystemError Node) :=
  Machine.withTree fun t => t.look p.standpoint (pathOf path)

/-- What a path leads to; a link is what the last name leads to. -/
def lookAtLink (p : Process) (path : Text) : Action (Except SystemError Node) :=
  Machine.withTree fun t => do
    let (_, number) ← t.resolve false p.standpoint (pathOf path)
    return (t.node? number).getD default

/-- What may be done through a stream. -/
def accessOf : Option Stream → Access
  | some (.file _ _ access) => access
  | some (.source _) => ⟨true, false, false⟩
  | _ => ⟨true, true, false⟩

/-- Opens what a node is. -/
def openNode (p : Process) (number : Nat) (n : Node) (o : Opening) : Action (Except SystemError Nat) := do
  match n.kind with
  | .directory =>
    if o.access.writes then return .error .isDirectory
    else return .ok (← Machine.openStream .directory)
  | .device (.descriptor d) =>
    match p.stream? d with
    | some stream => return .ok stream
    | none => return .error .noEntry
  | .device .terminal => return .error (.code 6)
  | .device d => return .ok (← Machine.openStream (.device d))
  | .program _ =>
    if o.access.writes then return .error (.code 26)
    else return .ok (← Machine.openStream (.file number 0 o.access))
  | _ =>
    if o.truncates then Machine.changeTree fun now t => t.setNode number ⟨.file [], n.mode, now⟩
    return .ok (← Machine.openStream (.file number 0 o.access))

/-- The descriptor that a path stands for, if it stands for one. -/
def descriptorOf? (path : Text) : Option Nat :=
  match after? "/dev/fd/".toList path with
  | some digits => if digits ≠ [] ∧ digits.all Char.isDigit then some (Nat.ofDigitChars 10 digits 0) else none
  | none => none

/-- Opens a file. -/
def openFile (p : Process) (path : Text) (o : Opening) : Action (Except SystemError Nat) := do
  if let some d := descriptorOf? path then
    match p.stream? d with
    | some n => return .ok n
    | none => return .error .noEntry
  let t := (← get).tree
  let bare := (path.reverse.dropWhile (· = '/')).reverse
  if o.creates ∧ bare ≠ [] ∧ bare ≠ path then
    -- A file is not made where a directory is asked for, whatever is there.
    match t.locate false p.standpoint (pathOf bare) with
    | .error e => return .error e
    | .ok _ => return .error .isDirectory
  match t.locate (!o.isExclusive) p.standpoint (pathOf path) with
  | .error e => return .error e
  | .ok found =>
    match found.number?.bind fun n => (t.node? n).map fun node => (n, node) with
    | some (number, node) =>
      if o.isExclusive then return .error .fileExists
      else p.openNode number node o
    | none =>
      if !o.creates ∨ found.isLost then return .error .noEntry
      else
        let mode := FileTree.fileMode &&& (FileTree.directoryMode ^^^ p.mask)
        Machine.changeTree fun now t => t.insert found.place ⟨.file [], mode, now⟩
        match (← get).tree.numberAt? found.place with
        | some number => return .ok (← Machine.openStream (.file number 0 o.access))
        | none => return .error .noEntry

/-- What a file holds. -/
def readFile (p : Process) (path : Text) : Action (Except SystemError Text) := do
  match ← p.openFile path Opening.toRead with
  | .error e => return .error e
  | .ok n => return (← Machine.read n none).map Octets.ofBytes

end Process

end JavacLauncher
