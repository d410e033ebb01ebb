import JavacLauncher.Shell.Expand
import JavacLauncher.Shell.View

/-!
# Redirections

The targets of all redirections of a command are expanded first; then the files are opened one by one. A
document is expanded when its turn to be opened has come. A file that cannot be opened, or a document that
cannot be expanded, makes the command fail, and those opened before it are closed again when the command ends.
-/

namespace JavacLauncher.Shell

/-- A redirection whose target is known. -/
inductive Opened where
  | file (descriptor : Nat) (path : Text) (opening : Opening) (isNew : Bool)
  /-- A descriptor that stands for what another one stands for, or for nothing. -/
  | copy (descriptor : Nat) (source? : Option Nat)
  | source (descriptor : Nat) (t : Text)
  | document (descriptor : Nat) (w : Word)
  /-- Both what is written and what is complained about goes to a file. -/
  | everything (path : Text) (opening : Opening)
  deriving Inhabited

/-- What a failed opening of a file is called. -/
def openMessage (isNew : Bool) : SystemError → Text
  | .code 2 | .code 20 => if isNew then "Directory nonexistent".toList else "No such file".toList
  | .code n => SystemError.describe n
  | e => e.message

variable (evaluate : Evaluator)

/-- A redirection with its target expanded. -/
def expandRedirect (r : Redirect) : Run Opened := do
  let s ← get
  match r with
  | .document descriptor number =>
    let w := (s.documents[number]?).getD []
    return .document (descriptor.getD 0) w
  | .to descriptor kind w =>
    let target ← expandText evaluate .text w
    let out := descriptor.getD 1
    let inp := descriptor.getD 0
    let copy (d : Nat) : Run Opened := do
      if target = ['-'] then return .copy d none
      else
        match numeral? target with
        | some n =>
          if !s.isExtended ∧ target.length > 1 then abort "Syntax error: Bad fd number".toList
          return .copy d (some n)
        | none =>
          if s.isExtended then
            if d = 1 then return .everything target .toWrite
            else abort (target ++ ": ambiguous redirect".toList)
          else abort "Syntax error: Bad fd number".toList
    match kind with
    | .input => return .file inp target .toRead false
    | .output | .clobber =>
      let protects := s.has 'C' && kind = .output &&
        (match s.view.look? target with
          | some (_, n) => (n.kind matches .file _ | .program _)
          | none => false)
      return .file out target { Opening.toWrite with isExclusive := protects } true
    | .append => return .file out target .toAppend true
    | .readWrite => return .file inp target .toUpdate true
    | .inputFrom => copy inp
    | .outputTo => copy out
    | .everything => return .everything target .toWrite
    | .appendEverything => return .everything target .toAppend
    | .hereText => return .source inp (target ++ ['\n'])

/-- Redirections with their targets expanded. -/
def expandRedirects (rs : List Redirect) : Run (List Opened) := rs.mapM (expandRedirect evaluate)

/-- Lets a descriptor stand for a stream. -/
def bindDescriptor (descriptor stream : Nat) : Run Unit := modify fun s =>
  { s with process := s.process.bind descriptor stream }

/-- Says that a file could not be opened. -/
def failToOpen (path : Text) (isNew : Bool) (e : SystemError) : Run Unit := do
  let s ← get
  if s.isExtended then
    let command? := s.command?
    set { s with command? := none }
    let what := if e = .fileExists then "cannot overwrite existing file".toList
      else match e with
        | .code n => SystemError.describe n
        | e => e.message
    failWith 1 (path ++ ": ".toList ++ what)
    modify fun s => { s with command? := command? }
  else
    failWith 2 ((if isNew then "cannot create ".toList else "cannot open ".toList) ++ path ++ ": ".toList ++
      openMessage isNew e)

/-- Opens what a redirection names; false if that cannot be done. -/
def openTarget (o : Opened) : Run Bool := do
  let s ← get
  match o with
  | .file descriptor path opening isNew =>
    match ← act (s.process.openFile path opening) with
    | .ok n =>
      bindDescriptor descriptor n
      return true
    | .error e =>
      failToOpen path isNew e
      return false
  | .everything path opening =>
    match ← act (s.process.openFile path opening) with
    | .ok n =>
      bindDescriptor 1 n
      bindDescriptor 2 n
      return true
    | .error e =>
      failToOpen path true e
      return false
  | .source descriptor t =>
    bindDescriptor descriptor (← act (Machine.openStream (.source (Octets.toBytes t))))
    return true
  | .document descriptor w =>
    let t? ← tryCatch (do return some (← expandText evaluate .quoted w)) fun j =>
      if j = .failure ∧ !s.isExtended then return none else throw j
    match t? with
    | none => return false
    | some t =>
      bindDescriptor descriptor (← act (Machine.openStream (.source (Octets.toBytes t))))
      return true
  | .copy descriptor none =>
    let s ← get
    set { s with process := s.process.unbind descriptor }
    return true
  | .copy descriptor (some n) =>
    if n = descriptor then return true
    else
      match s.process.stream? n with
      | some stream =>
        bindDescriptor descriptor stream
        return true
      | none =>
        failWith (if s.isExtended then 1 else 2) (Text.ofNat n ++ ": Bad file descriptor".toList)
        return false

/-- Opens what redirections name, up to the first that cannot be opened. -/
def openTargets : List Opened → Run Bool
  | [] => return true
  | o :: os => do
    if ← openTarget evaluate o then openTargets os else return false

/-- Does something on other descriptors and puts the old ones back. -/
def keepingDescriptors {α : Type} (body : Run α) : Run α := do
  let old := (← get).process.descriptors
  ensuring body (modify fun s => { s with process := { s.process with descriptors := old } })

end JavacLauncher.Shell
