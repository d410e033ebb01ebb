import JavacLauncher.Machine.Change
import JavacLauncher.Shell.Format
import JavacLauncher.Shell.Test
import JavacLauncher.Tool.Lines

/-!
# Tools about names, and small tools

Paths are taken apart by their text, or followed to where they lead.
-/

namespace JavacLauncher.Tool

/-- The last name of a path. -/
def lastName (t : Text) : Text :=
  let t := Process.withoutSlashes t
  if t = ['/'] then t else (t.reverse.takeWhile (· ≠ '/')).reverse

/-- A path without its last name. -/
def directoryName (t : Text) : Text :=
  let isSlash := fun c => decide (c = '/')
  let rest := ((t.reverse.dropWhile isSlash).dropWhile (· ≠ '/')).dropWhile isSlash
  if rest ≠ [] then rest.reverse else if t.head? = some '/' then ['/'] else ['.']

def basename : Body := fun args => do
  let p ← parse ⟨"as:z", [("multiple", "a", .nothing), ("suffix", "s", .value), ("zero", "z", .nothing)], 1, true⟩ args
  insistOperands p 1 "operand"
  let isMany := p.has "a" || p.has "s"
  if !isMany then refuseOperands p 2
  let ending := if isMany then (p.value? "s").getD [] else (p.operands[1]?).getD []
  let files := if isMany then p.operands else p.operands.take 1
  for t in files do
    let name := lastName t
    let name :=
      if ending ≠ [] ∧ name ≠ ending ∧ ending.reverse.isPrefixOf name.reverse then name.take (name.length - ending.length)
      else name
    say (name ++ [if p.has "z" then '\x00' else '\n'])

def dirname : Body := fun args => do
  let p ← parse ⟨"z", [("zero", "z", .nothing)], 1, true⟩ args
  insistOperands p 1 "operand"
  for t in p.operands do
    say (directoryName t ++ [if p.has "z" then '\x00' else '\n'])

/-! ## Where paths lead -/

/-- How much of a path must be there. -/
inductive Missing where
  /-- All must be there. -/
  | nothing
  /-- The last name may be missing. -/
  | last
  | anything
  deriving DecidableEq, Repr, Inhabited

/-- The path without links that a path leads to. -/
def canonical (missing : Missing) (path : Text) : Work (Except SystemError Text) := do
  let p ← process
  let m ← act get
  if path = [] then return .error .noEntry
  match m.tree.locate true p.standpoint (Process.pathOf (Process.withoutSlashes path)) with
  | .ok found =>
    if found.number?.isNone ∧ missing = .nothing then return .error .noEntry
    else
      let isDirectory := found.number?.bind m.tree.node? |>.any fun n => n.kind = .directory
      if path.getLast? = some '/' ∧ found.number?.isSome ∧ !isDirectory ∧ missing ≠ .anything then return .error .notDirectory
      return .ok (Process.placeText found.place)
  | .error e =>
    if missing ≠ .anything then return .error e
    else
      -- What is there is followed; the other names are taken as they are.
      let names := path.splitOn '/'
      let fronts := (List.range names.length).map fun i => names.length - i
      let start : Place := if path.head? = some '/' then [] else p.standpoint.place
      let found? := fronts.findSome? fun k =>
        let front := ['/'].intercalate (names.take k)
        match m.tree.resolve true p.standpoint (Process.pathOf front) with
        | .ok (place, _) => some (place, names.drop k)
        | .error _ => none
      let (place, rest) := found?.getD (start, names)
      let final := (rest.filter fun n => n ≠ [] && n ≠ ['.']).foldl (fun (pl : Place) n =>
        if n = ['.', '.'] then pl.dropLast else pl ++ [Octets.toBytes n]) place
      return .ok (Process.placeText final)

def readlink : Body := fun args => do
  let p ← parse ⟨"efmnqsvz", [("canonicalize", "f", .nothing), ("canonicalize-existing", "e", .nothing),
    ("canonicalize-missing", "m", .nothing), ("no-newline", "n", .nothing), ("quiet", "q", .nothing), ("silent", "s", .nothing),
    ("verbose", "v", .nothing), ("zero", "z", .nothing)], 1, false⟩ args
  insistOperands p 1 "operand"
  let ending := if p.has "z" then ['\x00'] else if p.has "n" ∧ p.operands.length = 1 then [] else ['\n']
  let mut status := 0
  for path in p.operands do
    let result ←
      match p.last? ["e", "f", "m"] with
      | some o => canonical (if o = "e" then .nothing else if o = "f" then .last else .anything) path
      | none => do
        match ← act ((← process).lookAtLink path) with
        | .ok ⟨.link target, _, _⟩ => pure (.ok (Octets.ofBytes target))
        | .ok _ => pure (.error (.code 22))
        | .error e => pure (.error e)
    match result with
    | .ok t => say (t ++ ending)
    | .error e =>
      if p.has "v" then complainOf path e
      status := 1
  endWith status

/-- A path as seen from a directory. -/
def relativePath (directory path : Text) : Text :=
  let names (t : Text) : List Text := (t.splitOn '/').filter (· ≠ [])
  let rec go : List Text → List Text → List Text
    | d :: ds, p :: ps => if d = p then go ds ps else (d :: ds).map (fun _ => ['.', '.']) ++ p :: ps
    | ds, ps => ds.map (fun _ => ['.', '.']) ++ ps
  match go (names directory) (names path) with
  | [] => ['.']
  | ns => ['/'].intercalate ns

def realpath : Body := fun args => do
  let p ← parse ⟨"eLmPqsz", [("canonicalize-existing", "e", .nothing), ("canonicalize-missing", "m", .nothing),
    ("strip", "s", .nothing), ("no-symlinks", "s", .nothing), ("quiet", "q", .nothing), ("zero", "z", .nothing),
    ("relative-to", "to", .value), ("relative-base", "base", .value), ("logical", "L", .nothing),
    ("physical", "P", .nothing)], 1, false⟩ args
  insistOperands p 1 "operand"
  let self ← process
  let mut status := 0
  for path in p.operands do
    let missing : Missing := if p.has "e" then .nothing else if p.has "m" then .anything else .last
    let result ←
      if p.has "s" then
        let absolute := if path.head? = some '/' then path else Process.placeText self.standpoint.place ++ '/' :: path
        let names := (absolute.splitOn '/').filter fun n => n ≠ [] && n ≠ ['.']
        let names := names.foldl (fun (ns : List Text) n => if n = ['.', '.'] then ns.dropLast else ns ++ [n]) []
        pure (Except.ok ('/' :: ['/'].intercalate names))
      else canonical missing path
    match result with
    | .ok t =>
      let shown ←
        match p.value? "to" with
        | some dir => do
          let d := (← canonical .anything dir).toOption.getD dir
          pure (relativePath d t)
        | none => pure t
      say (shown ++ [if p.has "z" then '\x00' else '\n'])
    | .error e =>
      if !p.has "q" then complainOf path e
      status := 1
  endWith status

def pwd : Body := fun args => do
  let p ← parse ⟨"LP", [("logical", "L", .nothing), ("physical", "P", .nothing)], 1, false⟩ args
  let self ← process
  let m ← act get
  if p.operands ≠ [] then complain "ignoring non-option arguments".toList
  let told? := (self.valueOf? "PWD".toList).filter fun t =>
    p.last? ["L", "P"] = some "L" && t.head? = some '/' &&
      (match m.tree.directory self.standpoint (Process.pathOf t) with
        | .ok at_ => at_.node = self.standpoint.node
        | .error _ => false)
  match told? with
  | some t => sayLine t
  | none =>
    if m.tree.isGone self.standpoint then
      fail 1 "couldn't find directory entry in '..' with matching i-node".toList
    else sayLine (Process.placeText self.standpoint.place)

/-! ## Variables -/

def printenv : Body := fun args => do
  let p ← parse ⟨"0", [("null", "0", .nothing)], 2, true⟩ args
  let self ← process
  let ending := if p.has "0" then '\x00' else '\n'
  match p.operands with
  | [] =>
    for (name, value) in self.environment do
      say (name ++ '=' :: value ++ [ending])
  | names =>
    let mut status := 0
    for name in names do
      match self.valueOf? name with
      | some v => say (v ++ [ending])
      | none => status := 1
    endWith status

/-! ## Texts and tests -/

def echo : Body := fun args => say (Shell.echoText .tool args)

def printf : Body := fun args => do
  let args := if args.head? = some ['-', '-'] then args.tail else args
  match args with
  | [] => misuse 1 "missing operand".toList
  | format :: rest =>
    let (w, leftover) := Shell.formatText .tool format rest
    for c in w.complaints do
      complain (c.message .tool)
    if let o :: _ := leftover then
      complain ("warning: ignoring excess arguments, starting with ".toList ++ quoteArgument o)
    say w.text
    endWith (w.status .tool)

def test (isBracket : Bool) : Body := fun args => do
  let m ← act get
  match Shell.testAnswer .tool (Shell.fileView m.tree (← process)) isBracket args with
  | .ok answer => endWith (if answer then 0 else 1)
  | .error message => fail 2 message

def succeed : Body := fun _ => pure ()

def failAlways : Body := fun _ => stop 1

/-- How long a time is, in billionths of a second; nothing if it is no time. -/
def duration? (t : Text) : Option Nat :=
  let digits := t.takeWhile fun c => c.isDigit || c = '.'
  let unit? : Option Nat := match t.drop digits.length with
    | [] | ['s'] => some 1
    | ['m'] => some 60
    | ['h'] => some 3600
    | ['d'] => some 86400
    | _ => none
  let whole := digits.takeWhile Char.isDigit
  let fraction := (digits.drop (whole.length + 1)).take 9
  if t = "infinity".toList ∨ t = "inf".toList then some (Nat.pow 10 18)
  else if digits.count '.' > 1 ∨ (whole = [] ∧ fraction = []) then none
  else
    unit?.map fun u =>
      (Nat.ofDigitChars 10 whole 0 * Nat.pow 10 9 +
        Nat.ofDigitChars 10 fraction 0 * Nat.pow 10 (9 - fraction.length)) * u

def sleep : Body := fun args => do
  let p ← parse ⟨"", [], 1, false⟩ args
  insistOperands p 1 "operand"
  let wrong := p.operands.filter fun o => (duration? o).isNone
  for o in wrong do
    complain ("invalid time interval ".toList ++ quoteArgument o)
  if wrong ≠ [] then suggestHelp 1
  flush
  let total := (p.operands.filterMap duration?).foldl (· + ·) 0
  match ← act (Machine.sleep (← process).ignored total) with
  | some signal => throw (.killed (UInt8.ofNat signal))
  | none => pure ()

/-! ## What the system is -/

def uname : Body := fun args => do
  let p ← parse ⟨"asnrvmpio", [("all", "a", .nothing), ("kernel-name", "s", .nothing), ("nodename", "n", .nothing),
    ("kernel-release", "r", .nothing), ("kernel-version", "v", .nothing), ("machine", "m", .nothing),
    ("processor", "p", .nothing), ("hardware-platform", "i", .nothing), ("operating-system", "o", .nothing)], 1, false⟩ args
  refuseOperands p 0
  let asked (o : String) : Bool := p.has o || p.has "a"
  let known := [("s", "Linux"), ("n", "localhost"), ("r", "5.15.0"), ("v", "#1 SMP"), ("m", "x86_64"), ("p", "x86_64"),
    ("i", "x86_64"), ("o", "GNU/Linux")]
  let shown := known.filter fun e => asked e.1
  let shown := if p.options = [] then known.take 1 else shown
  sayLine ([' '].intercalate (shown.map fun e => e.2.toList))

def arch : Body := fun _ => sayLine "x86_64".toList

def hostname : Body := fun _ => sayLine "localhost".toList

def whoami : Body := fun args => do
  let p ← parse ⟨"", [], 1, false⟩ args
  refuseOperands p 0
  sayLine "root".toList

def logname : Body := fun _ => fail 1 "no login name".toList

def groups : Body := fun _ => sayLine "root".toList

def id_ : Body := fun args => do
  let p ← parse ⟨"agnruGzZ", [("user", "u", .nothing), ("group", "g", .nothing), ("groups", "G", .nothing),
    ("name", "n", .nothing), ("real", "r", .nothing), ("zero", "z", .nothing)], 1, false⟩ args
  if p.has "u" ∨ p.has "g" ∨ p.has "G" then
    sayLine (if p.has "n" then "root".toList else ['0'])
  else if p.has "n" ∨ p.has "r" then fail 1 "printing only names or real IDs requires -u, -g, or -G".toList
  else sayLine "uid=0(root) gid=0(root) groups=0(root)".toList

def tty : Body := fun args => do
  let p ← parse ⟨"s", [("silent", "s", .nothing), ("quiet", "s", .nothing)], 2, false⟩ args
  if !p.has "s" then sayLine "not a tty".toList
  flush
  stop 1

def nproc : Body := fun _ => sayLine ['1']

/-- Finds programs in the directories of `PATH`. -/
def which : Body := fun args => do
  let p ← parse ⟨"as", [], 2, true⟩ args
  let self ← process
  let m ← act get
  let isRunnable (path : Text) : Bool :=
    match m.tree.look self.standpoint (Process.pathOf path) with
    | .ok n => (n.kind matches .file _ | .program _) && n.isExecutable
    | .error _ => false
  let mut status := if p.operands = [] then 1 else 0
  for name in p.operands do
    let paths :=
      if '/' ∈ name then [name]
      else
        (((self.valueOf? "PATH".toList).getD []).splitOn ':').map fun d => (if d = [] then ['.'] else d) ++ '/' :: name
    let found := paths.filter isRunnable
    let found := if p.has "a" then found else found.take 1
    if found = [] then status := 1
    if !p.has "s" then
      for path in found do
        sayLine path
  endWith status

/-! ## Temporary files -/

/-- Letters for names that nobody else has. -/
def freshLetters (seed count : Nat) : Text :=
  let letters := "abcdefghijklmnopqrstuvwxyzABCDEFGHIJKLMNOPQRSTUVWXYZ0123456789".toList.toArray
  let rec go : Nat → Nat → Text
    | 0, _ => []
    | n + 1, seed =>
      let next := (seed * 1103515245 + 12345) % 2147483648
      (letters[next / 65536 % 62]?).getD 'x' :: go n next
  go count (seed * 7919 + 104729)

def mktemp : Body := fun args => do
  let p ← parse ⟨"dqup:t", [("directory", "d", .nothing), ("quiet", "q", .nothing), ("dry-run", "u", .nothing),
    ("tmpdir", "p", .maybe), ("suffix", "suffix", .value)], 1, false⟩ args
  refuseTooMany p
  let self ← process
  let m ← act get
  let template := p.operands.headD "tmp.XXXXXXXXXX".toList
  let tail := (p.value? "suffix").getD []
  let tail := if p.has "suffix" then tail else
    let back := (template.reverse.takeWhile (· ≠ 'X')).reverse
    if 'X' ∈ template then back else []
  let stem := if p.has "suffix" then template else template.take (template.length - tail.length)
  let count := (stem.reverse.takeWhile (· = 'X')).length
  if count < 3 then fail 1 ("too few X's in template ".toList ++ quoteArgument template)
  let name := stem.take (stem.length - count) ++ freshLetters (m.clock + self.id) count ++ tail
  let usesDirectory := p.operands = [] ∨ p.has "p" ∨ p.has "t"
  let directory := (p.value? "p").getD ((self.valueOf? "TMPDIR".toList).getD "/tmp".toList)
  let path := if usesDirectory then Process.withoutSlashes directory ++ '/' :: name else name
  if !p.has "u" then
    let result ← act (self.make path (if p.has "d" then .directory else .file []) (if p.has "d" then 0o700 else 0o600))
    match result with
    | .ok () => pure ()
    | .error e =>
      fail 1 ("failed to create ".toList ++ (if p.has "d" then "directory".toList else "file".toList) ++
        " via template ".toList ++ quoteArgument (if usesDirectory then directory ++ '/' :: template else template) ++
        ": ".toList ++ describe e)
  sayLine path
where
  refuseTooMany (p : Parsed) : Work Unit := do
    if p.operands.length > 1 then misuse 1 "too many templates".toList

end JavacLauncher.Tool
