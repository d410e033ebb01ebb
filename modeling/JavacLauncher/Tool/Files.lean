import JavacLauncher.Machine.Change
import JavacLauncher.Tool.Lines
import JavacLauncher.Tool.Mode
import JavacLauncher.Tool.Names

/-!
# Tools that make, move and remove files
-/

namespace JavacLauncher.Tool

/-- Does something for each operand; the status is 1 if it fails for one of them. -/
def forEach (operands : List Text) (f : Text → Work Bool) : Work Unit := do
  let mut status := 0
  for o in operands do
    if !(← f o) then status := 1
  endWith status

/-- A call of the system with the tool's process. -/
def call {α : Type} (f : Process → Action α) : Work α := do act (f (← process))

/-- What is at a path, if anything is. -/
def kindAt? (isFollowed : Bool) (path : Text) : Work (Option FileKind) := do
  return ((← call fun p => p.find isFollowed path).toOption).map fun e => e.2.2.kind

def isDirectoryAt (path : Text) : Work Bool := do return (← kindAt? true path) = some .directory

/-! ## Making -/

def touch : Body := fun args => do
  let p ← parse ⟨"acd:fhmr:t:", [("no-create", "c", .nothing), ("date", "d", .value), ("reference", "r", .value),
    ("no-dereference", "h", .nothing), ("time", "time", .value)], 1, false⟩ args
  insistOperands p 1 "file operand"
  let time? ←
    match p.value? "r" with
    | some file =>
      match ← call fun q => q.find true file with
      | .ok (_, _, node) => pure (some node.time)
      | .error e => fail 1 ("failed to get attributes of ".toList ++ inShellQuotes file ++ ": ".toList ++ describe e)
    | none => pure (if p.has "d" ∨ p.has "t" then some 0 else none)
  forEach p.operands fun file => do
    match ← call fun q => q.find true file with
    | .ok (_, number, node) =>
      act (Machine.changeTree fun now t => t.setNode number { node with time := time?.getD now })
      return true
    | .error e =>
      if p.has "c" ∧ e = .noEntry then return true
      else
        match ← call fun q => q.openFile file ⟨⟨false, true, false⟩, true, false, false⟩ with
        | .ok _ => return true
        | .error e =>
          let e := if e = .isDirectory then .noEntry else e
          refuse "cannot touch" file e
          return false

/-- The paths of the directories on the way to a path, and of that itself. -/
def pathsTo (path : Text) : List Text :=
  let names := path.splitOn '/'
  ((List.range names.length).map fun i => ['/'].intercalate (names.take (i + 1))).filter fun t => t ≠ [] && t.getLast? ≠ some '/'

def mkdir : Body := fun args => do
  let p ← parse ⟨"pm:vZ", [("parents", "p", .nothing), ("mode", "m", .value), ("verbose", "v", .nothing)], 1, false⟩ args
  insistOperands p 1 "operand"
  let self ← process
  let mode ←
    match p.value? "m" with
    | some t =>
      match Mode.changed? true self.mask t 0o777 with
      | some m => pure (some m)
      | none => fail 1 ("invalid mode ".toList ++ quoteArgument t)
    | none => pure none
  let tell (path : Text) : Work Unit :=
    if p.has "v" then sayLine ("mkdir: created directory ".toList ++ inShellQuotes path) else pure ()
  let make (path : Text) (isLast : Bool) : Work (Except SystemError Unit) := do
    match ← call fun q => q.makeDirectory path with
    | .ok () =>
      tell path
      if isLast then
        if let some m := mode then
          let _ ← call fun q => q.changeMode path m
      return .ok ()
    | .error e => return .error e
  forEach p.operands fun path => do
    if !p.has "p" then
      match ← make path true with
      | .ok () => return true
      | .error e =>
        refuse "cannot create directory" path e
        return false
    else
      let paths := pathsTo (Process.withoutSlashes path)
      for (q, i) in paths.zipIdx do
        let isLast := i + 1 = paths.length
        if q.getLast? = some '.' ∧ (← isDirectoryAt q) then pure ()
        else
          match ← make q isLast with
          | .ok () => pure ()
          | .error e =>
            if e = .fileExists ∧ (← isDirectoryAt q) then pure ()
            else
              refuse "cannot create directory" q (if e = .fileExists ∧ !isLast then .notDirectory else e)
              return false
      if paths = [] ∧ path.head? ≠ some '/' then
        refuse "cannot create directory" path .noEntry
        return false
      return true

def mkfifo : Body := fun args => do
  let p ← parse ⟨"m:Z", [("mode", "m", .value)], 1, false⟩ args
  insistOperands p 1 "operand"
  forEach p.operands fun path => do
    match ← call fun q => q.make path .pipe (q.newMode 0o666) with
    | .ok () => return true
    | .error e =>
      refuse "cannot create fifo" path e
      return false

def ln : Body := fun args => do
  let p ← parse ⟨"bdfFiLnPrsS:t:Tv", [("symbolic", "s", .nothing), ("force", "f", .nothing), ("no-dereference", "n", .nothing),
    ("no-target-directory", "T", .nothing), ("target-directory", "t", .value), ("verbose", "v", .nothing),
    ("relative", "r", .nothing), ("interactive", "i", .nothing), ("physical", "P", .nothing),
    ("logical", "L", .nothing)], 1, false⟩ args
  if p.operands = [] then misuse 1 "missing file operand".toList
  let isSymbolic := p.has "s"
  let link (target path : Text) : Work Bool := do
    if !isSymbolic then
      match ← call fun q => q.find false target with
      | .error e =>
        complain ("failed to access ".toList ++ inShellQuotes target ++ ": ".toList ++ describe e)
        return false
      | .ok (_, _, node) =>
        if node.kind = .directory then
          complain (quoteName target ++ ": hard link not allowed for directory".toList)
          return false
    if p.has "f" then
      match ← kindAt? false path with
      | some .directory | none => pure ()
      | some _ =>
        let _ ← call fun q => q.removeName path
    match ← call fun q => if isSymbolic then q.makeLink target path else q.addName false target path with
    | .ok () =>
      if p.has "v" then
        sayLine (inShellQuotes path ++ (if isSymbolic then " -> ".toList else " => ".toList) ++ inShellQuotes target)
      return true
    | .error e =>
      if isSymbolic then refuse "failed to create symbolic link" path e
      else complain ("failed to create hard link ".toList ++ inShellQuotes path ++
        (if e = .fileExists then [] else " => ".toList ++ inShellQuotes target) ++ ": ".toList ++ describe e)
      return false
  let leadsIn (path : Text) : Work Bool := do
    if p.has "n" ∧ (← kindAt? false path) matches some (.link _) then return false
    else isDirectoryAt path
  match p.value? "t", p.operands with
  | some dir, ops => forEach ops fun o => link o (dir ++ '/' :: lastName o)
  | none, [o] => forEach [o] fun o => link o (lastName o)
  | none, [o, path] =>
    if !p.has "T" ∧ (← leadsIn path) then
      forEach [o] fun o => link o (withSlash path ++ lastName o)
    else forEach [o] fun o => link o path
  | none, ops =>
    let dir := ops.getLastD []
    if p.has "T" then misuse 1 ("extra operand ".toList ++ quoteArgument ((ops[2]?).getD []))
    match ← call fun q => q.find true dir with
    | .ok (_, _, node) =>
      if node.kind ≠ .directory then fail 1 ("target ".toList ++ inShellQuotes dir ++ ": Not a directory".toList)
    | .error e => fail 1 ("target ".toList ++ inShellQuotes dir ++ ": ".toList ++ describe e)
    forEach ops.dropLast fun o => link o (withSlash dir ++ lastName o)
where
  /-- A directory's path with one slash behind it. -/
  withSlash (t : Text) : Text := if t.getLast? = some '/' then t else t ++ ['/']

/-! ## Removing -/

def rmdir : Body := fun args => do
  let p ← parse ⟨"pv", [("parents", "p", .nothing), ("verbose", "v", .nothing), ("ignore-fail-on-non-empty", "I", .nothing)], 1, false⟩ args
  insistOperands p 1 "operand"
  forEach p.operands fun path => do
    let paths := if p.has "p" then (pathsTo (Process.withoutSlashes path)).reverse else [path]
    for q in paths do
      if p.has "v" then sayLine ("rmdir: removing directory, ".toList ++ inShellQuotes q)
      match ← call fun r => r.removeDirectory q with
      | .ok () => pure ()
      | .error e =>
        if p.has "I" ∧ e = .notEmpty then return true
        refuse (if q = path then "failed to remove" else "failed to remove directory") q e
        return false
    return true

/-- Removes a file, or a directory with all it holds. -/
def removeAll (isForced isDeep isVerbose removesEmpty : Bool) : Nat → Text → Work Bool
  | 0, _ => return false
  | n + 1, path => do
    match ← call fun p => p.find false path with
    | .error e =>
      if isForced ∧ (e = .noEntry ∨ e = .notDirectory) then return true
      refuse "cannot remove" path e
      return false
    | .ok (_, _, node) =>
      if node.kind = .directory then
        if removesEmpty ∧ !isDeep then
          match ← call fun p => p.removeDirectory path with
          | .ok () =>
            if isVerbose then sayLine ("removed directory ".toList ++ inShellQuotes path)
            return true
          | .error e =>
            refuse "cannot remove" path e
            return false
        else if !isDeep then
          refuse "cannot remove" path .isDirectory
          return false
        else
          let names := (← call fun p => p.names path).toOption.getD []
          let mut isDone := true
          for name in names do
            if !(← removeAll isForced isDeep isVerbose removesEmpty n (Process.withoutSlashes path ++ '/' :: name)) then
              isDone := false
          if !isDone then return false
          match ← call fun p => p.removeDirectory path with
          | .ok () =>
            if isVerbose then sayLine ("removed directory ".toList ++ inShellQuotes path)
            return true
          | .error e =>
            refuse "cannot remove" path e
            return false
      else
        match ← call fun p => p.removeName path with
        | .ok () =>
          if isVerbose then sayLine ("removed ".toList ++ inShellQuotes path)
          return true
        | .error e =>
          refuse "cannot remove" path e
          return false

/-- How deep directories are looked into. -/
def maxDepth : Nat := 300

def rm : Body := fun args => do
  let p ← parse ⟨"dfirvIR", [("force", "f", .nothing), ("recursive", "r", .nothing), ("dir", "d", .nothing),
    ("verbose", "v", .nothing), ("interactive", "i", .maybe), ("one-file-system", "one", .nothing),
    ("preserve-root", "P", .maybe), ("no-preserve-root", "N", .nothing)], 1, false⟩ args
  if p.operands = [] then
    if p.has "f" then return else misuse 1 "missing operand".toList
  let isDeep := p.has "r" || p.has "R"
  forEach p.operands fun path => do
    let last := lastName path
    if isDeep ∧ (last = ['.'] ∨ last = ['.', '.']) then
      complain ("refusing to remove '.' or '..' directory: skipping ".toList ++ inShellQuotes path)
      return false
    else if isDeep ∧ Process.withoutSlashes path = ['/'] ∧ !p.has "N" then
      complain ("it is dangerous to operate recursively on ".toList ++ inShellQuotes path)
      complain "use --no-preserve-root to override this failsafe".toList
      return false
    else removeAll (p.has "f") isDeep (p.has "v") (p.has "d") maxDepth path

def unlink : Body := fun args => do
  let p ← parse ⟨"", [], 1, false⟩ args
  insistOperands p 1 "operand"
  refuseOperands p 1
  let path := p.operands.headD []
  match ← call fun q => q.removeName path with
  | .ok () => pure ()
  | .error e => fail 1 ("cannot unlink ".toList ++ inShellQuotes path ++ ": ".toList ++ describe e)

/-! ## Copying and moving -/

/-- Where the operands of `cp` and `mv` go: into a directory, or to a path. -/
def destination (p : Parsed) (move : Text → Text → Work Bool) : Work Unit := do
  let join (dir o : Text) : Text := (if dir.getLast? = some '/' then dir else dir ++ ['/']) ++ lastName o
  match p.value? "t" with
  | some dir =>
    if p.operands = [] then misuse 1 "missing file operand".toList
    if !(← isDirectoryAt dir) then
      match ← call fun q => q.find true dir with
      | .ok _ => fail 1 ("target directory ".toList ++ inShellQuotes dir ++ ": Not a directory".toList)
      | .error e => fail 1 ("target directory ".toList ++ inShellQuotes dir ++ ": ".toList ++ describe e)
    forEach p.operands fun o => move o (join dir o)
  | none =>
    match p.operands with
    | [] => misuse 1 "missing file operand".toList
    | [o] => misuse 1 ("missing destination file operand after ".toList ++ quoteArgument o)
    | ops =>
      let target := ops.getLastD []
      if p.has "T" then
        if ops.length > 2 then misuse 1 ("extra operand ".toList ++ quoteArgument ((ops[2]?).getD []))
        forEach ops.dropLast fun o => move o target
      else if ← isDirectoryAt target then forEach ops.dropLast fun o => move o (join target o)
      else if ops.length > 2 then
        match ← call fun q => q.find true target with
        | .ok _ => fail 1 ("target ".toList ++ inShellQuotes target ++ ": Not a directory".toList)
        | .error e => fail 1 ("target ".toList ++ inShellQuotes target ++ ": ".toList ++ describe e)
      else forEach ops.dropLast fun o => move o target

/-- How files are copied. -/
structure Copying where
  isDeep : Bool
  /-- Links are copied as links. -/
  keepsLinks : Bool
  keepsMode : Bool
  isForced : Bool
  neverReplaces : Bool
  onlyNewer : Bool
  isVerbose : Bool
  /-- Names are added instead of copies: links, or the same file once more. -/
  asLink : Bool
  asName : Bool
  deriving Inhabited

/-- Copies a file, a link or a directory. -/
def copy (c : Copying) : Nat → Bool → Text → Text → Work Bool
  | 0, _, _, _ => return false
  | n + 1, isTop, source, target => do
    let follows := !c.keepsLinks
    match ← call fun p => p.find follows source with
    | .error e =>
      refuse "cannot stat" source e
      return false
    | .ok (place, number, node) =>
      let other? := (← call fun p => p.find true target).toOption
      let tell : Work Unit :=
        if c.isVerbose then sayLine (inShellQuotes source ++ " -> ".toList ++ inShellQuotes target) else pure ()
      match node.kind with
      | .directory =>
        if !c.isDeep then
          complain ("-r not specified; omitting directory ".toList ++ inShellQuotes source)
          return false
        match other? with
        | some (_, otherNumber, other) =>
          if other.kind ≠ .directory then
            complain ("cannot overwrite non-directory ".toList ++ inShellQuotes target ++ " with directory ".toList ++
              inShellQuotes source)
            return false
          if otherNumber = number then
            complain ("cannot copy a directory, ".toList ++ inShellQuotes source ++ ", into itself, ".toList ++
              inShellQuotes target)
            return false
        | none =>
          match ← call fun p => p.locate (Process.withoutSlashes target) with
          | .ok found =>
            if (after? place found.place).isSome then
              complain ("cannot copy a directory, ".toList ++ inShellQuotes source ++ ", into itself, ".toList ++
                inShellQuotes target)
              return false
          | .error _ => pure ()
          match ← call fun p => p.make target .directory (p.newMode node.mode) with
          | .ok () => tell
          | .error e =>
            refuse "cannot create directory" target e
            return false
        let mut isDone := true
        for name in (← call fun p => p.names source).toOption.getD [] do
          if !(← copy { c with keepsLinks := true } n false (Process.withoutSlashes source ++ '/' :: name)
              (Process.withoutSlashes target ++ '/' :: name)) then isDone := false
        return isDone
      | _ =>
        match other? with
        | some (_, otherNumber, other) =>
          if otherNumber = number then
            if c.asName ∨ c.asLink then return true
            complain (inShellQuotes source ++ " and ".toList ++ inShellQuotes target ++ " are the same file".toList)
            return false
          if other.kind = .directory then
            complain ("cannot overwrite directory ".toList ++ inShellQuotes target ++ " with non-directory ".toList ++
              inShellQuotes source)
            return false
          if c.neverReplaces then return true
          if c.onlyNewer ∧ node.time ≤ other.time then return true
          if c.asName ∨ c.asLink ∨ (node.kind matches .link _) then
            if !c.isForced ∧ !(node.kind matches .link _) then
              complain ("cannot create ".toList ++ (if c.asLink then "symbolic link ".toList else "hard link ".toList) ++
                inShellQuotes target ++ ": File exists".toList)
              return false
            let _ ← call fun p => p.removeName target
        | none => pure ()
        if c.asLink ∨ c.asName then
          match ← call fun p => if c.asLink then p.makeLink source target else p.addName true source target with
          | .ok () =>
            tell
            return true
          | .error e =>
            refuse (if c.asLink then "cannot create symbolic link" else "cannot create hard link") target e
            return false
        match node.kind with
        | .link linked =>
          match ← call fun p => p.makeLink (Octets.ofBytes linked) target with
          | .ok () =>
            tell
            return true
          | .error e =>
            refuse "cannot create symbolic link" target e
            return false
        | _ =>
          match ← call fun p => p.readFile source with
          | .error e =>
            complain ("cannot open ".toList ++ inShellQuotes source ++ " for reading: ".toList ++ describe e)
            return false
          | .ok content =>
            match ← call fun p => p.openFile target .toWrite with
            | .error e =>
              let e := if e = .isDirectory then .notDirectory else e
              refuse "cannot create regular file" target e
              return false
            | .ok stream =>
              tell
              let _ ← act (Machine.write stream (Octets.toBytes content))
              let self ← process
              if other?.isNone ∨ c.keepsMode then
                let _ ← call fun p => p.changeMode target (if c.keepsMode then node.mode else self.newMode (node.mode &&& 0o777))
              if let .program name := node.kind then
                if other?.isNone then
                  match ← call fun p => p.find true target with
                  | .ok (_, number, copy) =>
                    act (Machine.changeTree fun _ t => t.setNode number { copy with kind := .program name })
                  | .error _ => pure ()
              let _ := isTop
              return true

def cp : Body := fun args => do
  let p ← parse ⟨"abdfHilLnprRsS:t:TuvxPZ", [("archive", "a", .nothing), ("recursive", "r", .nothing), ("force", "f", .nothing),
    ("no-clobber", "n", .nothing), ("preserve", "p", .maybe), ("symbolic-link", "s", .nothing), ("link", "l", .nothing),
    ("target-directory", "t", .value), ("no-target-directory", "T", .nothing), ("update", "u", .maybe),
    ("verbose", "v", .nothing), ("dereference", "L", .nothing), ("no-dereference", "P", .nothing), ("interactive", "i", .nothing),
    ("parents", "parents", .nothing), ("remove-destination", "rd", .nothing), ("no-preserve", "np", .value),
    ("reflink", "reflink", .maybe), ("one-file-system", "x", .nothing)], 1, false⟩ args
  let isDeep := p.has "r" || p.has "R" || p.has "a"
  let c : Copying :=
    { isDeep := isDeep
      keepsLinks := !p.has "L" && !p.has "H" && (isDeep || p.has "P" || p.has "d")
      keepsMode := p.has "a" || p.has "p"
      isForced := p.has "f"
      neverReplaces := p.has "n"
      onlyNewer := p.has "u"
      isVerbose := p.has "v"
      asLink := p.has "s"
      asName := p.has "l" }
  destination p fun source target => do
    let target := if p.has "parents" then
        (if target.getLast? = some '/' then target else target.take (target.length - (lastName source).length)) ++ source
      else target
    if p.has "parents" then
      for q in (pathsTo target).dropLast do
        let _ ← call fun r => r.makeDirectory q
    copy c maxDepth true source target

def mv : Body := fun args => do
  let p ← parse ⟨"bfinS:t:TuvZ", [("force", "f", .nothing), ("no-clobber", "n", .nothing), ("target-directory", "t", .value),
    ("no-target-directory", "T", .nothing), ("update", "u", .maybe), ("verbose", "v", .nothing), ("interactive", "i", .nothing),
    ("strip-trailing-slashes", "strip", .nothing)], 1, false⟩ args
  destination p fun source target => do
    match ← call fun q => q.find false (if source.getLast? = some '/' then source ++ ['.'] else source) with
    | .error e =>
      refuse "cannot stat" source e
      return false
    | .ok (_, number, node) =>
      let other? := (← call fun q => q.find false target).toOption
      if p.has "n" ∧ other?.isSome then return true
      if p.has "u" ∧ (other?.any fun o => node.time ≤ o.2.2.time) then return true
      match other? with
      | some (_, otherNumber, other) =>
        if otherNumber = number then
          complain (inShellQuotes source ++ " and ".toList ++ inShellQuotes target ++ " are the same file".toList)
          return false
        if node.kind ≠ .directory ∧ other.kind = .directory then
          complain ("cannot overwrite directory ".toList ++ inShellQuotes target ++ " with non-directory ".toList ++
            inShellQuotes source)
          return false
        if node.kind = .directory ∧ other.kind ≠ .directory then
          complain ("cannot overwrite non-directory ".toList ++ inShellQuotes target ++ " with directory ".toList ++
            inShellQuotes source)
          return false
      | none => pure ()
      match ← call fun q => q.move source target with
      | .ok () =>
        if p.has "v" then sayLine ("renamed ".toList ++ inShellQuotes source ++ " -> ".toList ++ inShellQuotes target)
        return true
      | .error e =>
        if e = .code 22 then
          complain ("cannot move ".toList ++ inShellQuotes source ++ " to a subdirectory of itself, ".toList ++
            inShellQuotes target)
        else if other?.isSome then
          complain ("cannot overwrite ".toList ++ inShellQuotes target ++ ": ".toList ++ describe e)
        else
          complain ("cannot move ".toList ++ inShellQuotes source ++ " to ".toList ++ inShellQuotes target ++ ": ".toList ++
            describe e)
        return false

/-! ## Modes and sizes -/

/-- Changes the mode of a file, and of all that a directory holds. -/
def changeModes (p : Parsed) (newMode : Bool → Nat → Option Nat) : Nat → Text → Work Bool
  | 0, _ => return false
  | n + 1, path => do
    match ← call fun q => q.find true path with
    | .error e =>
      if !p.has "f" then
        if (← kindAt? false path) matches some (.link _) then
          complain ("cannot operate on dangling symlink ".toList ++ inShellQuotes path)
        else refuse "cannot access" path e
      return false
    | .ok (_, _, node) =>
      let isDirectory := node.kind = .directory
      let mode := (newMode isDirectory node.mode).getD node.mode
      let _ ← call fun q => q.changeMode path mode
      if p.has "v" ∨ (p.has "c" ∧ mode ≠ node.mode) then
        let four (m : Nat) : Text := List.replicate (4 - (Mode.digits m).length) '0' ++ Mode.digits m
        if mode = node.mode then
          sayLine ("mode of ".toList ++ inShellQuotes path ++ " retained as ".toList ++ four mode ++ " (".toList ++
            Mode.text mode ++ [')'])
        else
          sayLine ("mode of ".toList ++ inShellQuotes path ++ " changed from ".toList ++ four node.mode ++ " (".toList ++
            Mode.text node.mode ++ ") to ".toList ++ four mode ++ " (".toList ++ Mode.text mode ++ [')'])
      let mut isDone := true
      if p.has "R" ∧ isDirectory then
        for name in (← call fun q => q.names path).toOption.getD [] do
          let inner := Process.withoutSlashes path ++ '/' :: name
          if !((← kindAt? false inner) matches some (.link _)) then
            if !(← changeModes p newMode n inner) then isDone := false
      return isDone

def chmod : Body := fun args => do
  -- A mode may begin with a minus.
  let isMode (a : Text) : Bool :=
    match a with
    | '-' :: c :: _ => "rwxXstugoa+=,01234567".toList.contains c
    | _ => false
  let mode? := (args.takeWhile (· ≠ ['-', '-'])).find? isMode
  let args := match mode? with
    | some m => args.erase m
    | none => args
  let p ← parse ⟨"cfvR", [("changes", "c", .nothing), ("silent", "f", .nothing), ("quiet", "f", .nothing),
    ("verbose", "v", .nothing), ("recursive", "R", .nothing), ("reference", "ref", .value)], 1, false⟩ args
  let self ← process
  let (spec, files) :=
    match mode?, p.value? "ref" with
    | some m, _ => (m, p.operands)
    | none, some _ => ([], p.operands)
    | none, none => (p.operands.headD [], p.operands.tail)
  if mode?.isNone ∧ !p.has "ref" ∧ p.operands = [] then misuse 1 "missing operand".toList
  if files = [] then
    if p.has "ref" then misuse 1 "missing operand".toList
    misuse 1 ("missing operand after ".toList ++ quoteArgument spec)
  match p.value? "ref" with
  | some file =>
    match ← call fun q => q.find true file with
    | .ok (_, _, node) => forEach files (changeModes p (fun _ _ => some node.mode) maxDepth)
    | .error e => fail 1 ("failed to get attributes of ".toList ++ inShellQuotes file ++ ": ".toList ++ describe e)
  | none =>
    if (Mode.changed? false self.mask spec 0).isNone then misuse 1 ("invalid mode: ".toList ++ quoteArgument spec)
    forEach files (changeModes p (fun isDirectory m => Mode.changed? isDirectory self.mask spec m) maxDepth)

def truncate : Body := fun args => do
  let p ← parse ⟨"cor:s:", [("no-create", "c", .nothing), ("size", "s", .value), ("reference", "r", .value)], 1, false⟩ args
  let spec := (p.value? "s").getD []
  if !p.has "s" ∧ !p.has "r" then misuse 1 "you must specify either '--size' or '--reference'".toList
  if p.operands = [] then misuse 1 "missing file operand".toList
  let (sign, digits) := match spec with
    | c :: t => if c.isDigit then ('=', spec) else (c, t)
    | [] => ('=', ['0'])
  let size ←
    match sized? digits with
    | some n => pure n
    | none => fail 1 ("Invalid number: ".toList ++ quoteArgument spec)
  forEach p.operands fun path => do
    match ← call fun q => q.openFile path ⟨⟨false, true, false⟩, !p.has "c", false, false⟩ with
    | .error e =>
      if p.has "c" ∧ e = .noEntry then return true
      complain ("cannot open ".toList ++ inShellQuotes path ++ " for writing: ".toList ++ describe e)
      return false
    | .ok _ =>
      match ← call fun q => q.find true path with
      | .ok (_, number, node) =>
        let old := (FileTree.contentOf node).toOption.getD []
        let n := match sign with
          | '+' => old.length + size
          | '-' => old.length - size
          | '<' => min old.length size
          | '>' => max old.length size
          | _ => size
        let content := (old ++ List.replicate (n - old.length) 0).take n
        act (Machine.changeTree fun now t => t.setNode number { node with kind := .file content, time := now })
        return true
      | .error _ => return false

end JavacLauncher.Tool
