import JavacLauncher.Shell.Builtin.Basic

/-!
# Commands about directories and modes

The shell knows its current directory by the names that led to it. A path is followed from there by its
text alone: `..` takes back the name before it, even if that was a link.
-/

namespace JavacLauncher.Shell.Builtin

/-- The path that a path leads to by its text alone, from a directory. -/
def logicalPath (directory path : Text) : Text :=
  let start := if path.head? = some '/' then [] else (directory.splitOn '/').filter (· ≠ [])
  let names := (path.splitOn '/').filter fun n => n ≠ [] && n ≠ ['.']
  let reached := names.foldl (fun ns n => if n = ['.', '.'] then ns.dropLast else ns ++ [n]) start
  let front :=
    match path with
    | '/' :: '/' :: '/' :: _ => ['/']
    | '/' :: '/' :: _ => ['/', '/']
    | _ => ['/']
  front ++ ['/'].intercalate reached

/-- Goes into a directory, which has a name of its own in the shell. -/
def enter (isPhysical : Bool) (path : Text) : Run (Option SystemError) := do
  let s ← get
  let target := if isPhysical ∨ s.directory = [] then path else logicalPath s.directory path
  match s.machine.tree.directory s.process.standpoint (Process.pathOf target) with
  | .error e => return some e
  | .ok at_ =>
    set { s with process := { s.process with standpoint := at_ } }
    let name ← if isPhysical ∨ s.directory = [] then do pure ((← physicalDirectory).getD []) else pure target
    modify fun t => { t with directory := name }
    modify fun t => ((t.putText "OLDPWD".toList s.directory).share "OLDPWD".toList)
    modify fun t => ((t.putText "PWD".toList name).share "PWD".toList)
    return none

/-- Whether a path says by itself where it begins. -/
def isAnchored (path : Text) : Bool :=
  match path with
  | '/' :: _ => true
  | ['.'] | '.' :: '/' :: _ | ['.', '.'] | '.' :: '.' :: '/' :: _ => true
  | _ => false

def cd : Body := fun args => do
  let s ← get
  let o ← options (if s.isExtended then "LPe@" else "LP") "[-L|[-P [-e]] [-@]] [dir]" args
  let isPhysical := o.last? "LP".toList = some 'P'
  let fail (dir : Text) (e : SystemError) : Run Unit :=
    if s.isExtended then
      failWith 1 (dir ++ ": ".toList ++ (match e with
        | .code n => SystemError.describe n
        | e => e.message))
    else abort ("can't cd to ".toList ++ dir)
  let go (dir : Text) (isShown : Bool) : Run Unit := do
    let paths :=
      if isAnchored dir then [([], dir)]
      else
        match s.valueOf? "CDPATH".toList with
        | none => [([], dir)]
        | some list => (list.splitOn ':').map (fun p => (p, if p = [] then dir else p ++ '/' :: dir)) ++ [([], dir)]
    let reached := paths.find? fun e =>
      (s.machine.tree.directory s.process.standpoint (Process.pathOf e.2)).toOption.isSome
    let (front, path) := reached.getD ([], dir)
    match ← enter isPhysical path with
    | some e => fail dir e
    | none =>
      if isShown ∨ front ≠ [] then sayLine (← get).directory
      setStatus 0
  if s.isExtended ∧ o.rest.length > 1 then failWith 1 "too many arguments".toList
  else
    match o.rest.head? with
    | none =>
      match s.valueOf? "HOME".toList with
      | some home => if home = [] then setStatus 0 else go home false
      | none => if s.isExtended then failWith 1 "HOME not set".toList else setStatus 0
    | some ['-'] =>
      match s.valueOf? "OLDPWD".toList with
      | some old => go old true
      | none => if s.isExtended then failWith 1 "OLDPWD not set".toList else go ['.'] true
    | some dir => go (if dir = [] then ['.'] else dir) false

/-- Shows the directories that are kept, the current one first. -/
def showDirectories : Run Unit := do
  let s ← get
  let home := (s.valueOf? "HOME".toList).getD []
  let short (d : Text) : Text :=
    match if home.length > 1 then after? home d else none with
    | some [] => ['~']
    | some ('/' :: rest) => '~' :: '/' :: rest
    | _ => d
  sayLine ([' '].intercalate ((s.directory :: s.directories).map short))

def pushd : Body := fun args => do
  let s ← get
  match args, s.directories with
  | [], [] => failWith 1 "no other directory".toList
  | [], d :: ds =>
    match ← enter false d with
    | none =>
      modify fun t => { t with directories := s.directory :: ds }
      showDirectories
      setStatus 0
    | some e => failWith 1 (d ++ ": ".toList ++ e.message)
  | dir :: _, ds =>
    match ← enter false dir with
    | none =>
      modify fun t => { t with directories := s.directory :: ds }
      showDirectories
      setStatus 0
    | some (.code n) => failWith 1 (dir ++ ": ".toList ++ SystemError.describe n)
    | some e => failWith 1 (dir ++ ": ".toList ++ e.message)

def popd : Body := fun _ => do
  match (← get).directories with
  | [] => failWith 1 "directory stack empty".toList
  | d :: ds =>
    let _ ← enter false d
    modify fun s => { s with directories := ds }
    showDirectories
    setStatus 0

def dirs : Body := fun _ => do
  showDirectories
  setStatus 0

/-! ## The mask of new files -/

/-- The letters of three bits of a mode. -/
def modeLetters (bits : Nat) : Text :=
  (if bits &&& 4 = 0 then [] else ['r']) ++ (if bits &&& 2 = 0 then [] else ['w']) ++
    if bits &&& 1 = 0 then [] else ['x']

/-- The bits that letters ask for. -/
def bitsOf? (letters : Text) : Option Nat :=
  letters.foldl (fun bits? c => bits?.bind fun bits =>
    match c with
    | 'r' => some (bits ||| 4)
    | 'w' => some (bits ||| 2)
    | 'x' => some (bits ||| 1)
    | _ => none) (some 0)

/-- A mode changed as a clause such as `u=rwx` or `go-w` asks for. -/
def applyClause? (mode : Nat) (clause : Text) : Option Nat :=
  let who := clause.takeWhile fun c => "ugoa".toList.contains c
  match clause.drop who.length with
  | operator :: letters =>
    if operator ≠ '=' ∧ operator ≠ '+' ∧ operator ≠ '-' then none
    else
      (bitsOf? letters).map fun bits =>
        let all := who = [] || who.contains 'a'
        let shifts := (if all || who.contains 'u' then [64] else []) ++ (if all || who.contains 'g' then [8] else []) ++
          if all || who.contains 'o' then [1] else []
        shifts.foldl (fun mode k =>
          let old := mode / k % 8
          let new := if operator = '=' then bits else if operator = '+' then old ||| bits else old &&& (7 - bits)
          mode - old * k + new * k) mode
  | [] => none

def umask : Body := fun args => do
  let s ← get
  let o ← options (if s.isExtended then "Sp" else "S") "[-p] [-S] [mode]" args
  let mask := s.process.mask
  setStatus 0
  match o.rest with
  | [] =>
    if o.has 'S' then
      let open_ := 0o777 - mask % 512
      sayLine ("u=".toList ++ modeLetters (open_ / 64 % 8) ++ ",g=".toList ++ modeLetters (open_ / 8 % 8) ++ ",o=".toList ++
        modeLetters (open_ % 8))
    else
      let ds := Nat.toDigits 8 mask
      sayLine ((if o.has 'p' then "umask ".toList else []) ++ List.replicate (4 - ds.length) '0' ++ ds)
  | t :: _ =>
    let setMask (n : Nat) : Run Unit := modify fun s => { s with process := { s.process with mask := n % 512 } }
    if (t.head?).any Char.isDigit then
      if t.all fun c => '0' ≤ c && c ≤ '7' then setMask (Nat.ofDigitChars 8 t 0)
      else if s.isExtended then failWith 1 (t ++ ": octal number out of range".toList)
      else abort ("Illegal number: ".toList ++ t)
    else
      match (t.splitOn ',').foldl (fun mode? clause => mode?.bind fun m => applyClause? m clause) (some (0o777 - mask % 512)) with
      | some mode => setMask (0o777 - mode)
      | none =>
        if s.isExtended then failWith 1 ('\x60' :: t ++ "': invalid symbolic mode character".toList)
        else abort ("Illegal mode: ".toList ++ t)

end JavacLauncher.Shell.Builtin
