import JavacLauncher.Machine.Basic

/-!
# Changing the file tree

Names are made, removed and moved as the system does it for a process, or it is said why not. A slash behind
the name of a directory to be made means nothing.
-/

namespace JavacLauncher.Process

/-- A path without the slashes at its end. -/
def withoutSlashes (path : Text) : Text :=
  let t := (path.reverse.dropWhile (· = '/')).reverse
  if t = [] ∧ path ≠ [] then ['/'] else t

/-- Where a path leads; a link at its end stands for itself. -/
def locate (p : Process) (path : Text) : Action (Except SystemError FileTree.Location) :=
  Machine.withTree fun t => t.locate false p.standpoint (pathOf path)

/-- The place, the number and the node of something that is there. -/
def find (p : Process) (isFollowed : Bool) (path : Text) : Action (Except SystemError (Place × Nat × Node)) :=
  Machine.withTree fun t => do
    let (place, number) ← t.resolve isFollowed p.standpoint (pathOf path)
    return (place, number, (t.node? number).getD default)

/-- Makes something new at a path. -/
def make (p : Process) (path : Text) (kind : FileKind) (mode : Nat) : Action (Except SystemError Unit) := do
  match ← p.locate (if kind = .directory then withoutSlashes path else path) with
  | .error e => return .error e
  | .ok found =>
    if found.number?.isSome then return .error .fileExists
    else if found.isLost then return .error .noEntry
    else
      Machine.changeTree fun now t => t.insert found.place ⟨kind, mode, now⟩
      return .ok ()

/-- The mode of a new file or directory. -/
def newMode (p : Process) (mode : Nat) : Nat := mode &&& (0o7777 ^^^ p.mask)

/-- Makes a directory. -/
def makeDirectory (p : Process) (path : Text) : Action (Except SystemError Unit) :=
  p.make path .directory (p.newMode FileTree.directoryMode)

/-- Makes a link to a path. -/
def makeLink (p : Process) (target path : Text) : Action (Except SystemError Unit) :=
  if target = [] then return .error .noEntry
  else p.make path (.link (Octets.toBytes target)) 0o777

/-- Gives a file one more name. -/
def addName (p : Process) (isFollowed : Bool) (old new : Text) : Action (Except SystemError Unit) := do
  match ← p.find isFollowed old with
  | .error e => return .error e
  | .ok (_, number, node) =>
    if node.kind = .directory then return .error (.code 1)
    else
      match ← p.locate new with
      | .error e => return .error e
      | .ok found =>
        if found.number?.isSome then return .error .fileExists
        else if found.isLost then return .error .noEntry
        else
          Machine.changeTree fun _ t => t.link found.place number
          return .ok ()

/-- Removes a name of something that is no directory. -/
def removeName (p : Process) (path : Text) : Action (Except SystemError Unit) := do
  match ← p.find false path with
  | .error e => return .error e
  | .ok (place, _, node) =>
    if node.kind = .directory then return .error .isDirectory
    else
      Machine.changeTree fun _ t => t.erase place
      return .ok ()

/-- Removes an empty directory. -/
def removeDirectory (p : Process) (path : Text) : Action (Except SystemError Unit) := do
  match ← p.find false path with
  | .error e => return .error e
  | .ok (place, _, node) =>
    if node.kind ≠ .directory then return .error .notDirectory
    else if place = [] then return .error (.code 16)
    else if ((path.splitOn '/').getLast?) = some ['.'] then return .error (.code 22)
    else if ((← get).tree.children place) ≠ [] then return .error .notEmpty
    else
      Machine.changeTree fun _ t => t.erase place
      return .ok ()

/-- Moves something to another path, instead of what is there. -/
def move (p : Process) (old new : Text) : Action (Except SystemError Unit) := do
  match ← p.find false (withoutSlashes old), ← p.locate (withoutSlashes new) with
  | .error e, _ => return .error e
  | _, .error e => return .error e
  | .ok (place, number, node), .ok found =>
    let t := (← get).tree
    let other? := found.number?.bind t.node?
    let isDirectory := node.kind = .directory
    if found.number?.isNone ∧ found.isLost then return .error .noEntry
    else if found.number? = some number then return .ok ()
    else if isDirectory ∧ (after? place found.place).isSome then return .error (.code 22)
    else if !isDirectory ∧ new.getLast? = some '/' then return .error .notDirectory
    else
      match other? with
      | some other =>
        if isDirectory ∧ other.kind ≠ .directory then return .error .notDirectory
        else if !isDirectory ∧ other.kind = .directory then return .error .isDirectory
        else if isDirectory ∧ t.children found.place ≠ [] then return .error .notEmpty
        else
          Machine.changeTree fun _ t => (t.erase found.place).move place found.place
          return .ok ()
      | none =>
        Machine.changeTree fun _ t => t.move place found.place
        return .ok ()

/-- Changes the mode of what a path leads to. -/
def changeMode (p : Process) (path : Text) (mode : Nat) : Action (Except SystemError Unit) := do
  match ← p.find true path with
  | .error e => return .error e
  | .ok (_, number, node) =>
    Machine.changeTree fun _ t => t.setNode number { node with mode := mode }
    return .ok ()

/-- The names in the directory that a path leads to, in order. -/
def names (p : Process) (path : Text) : Action (Except SystemError (List Text)) :=
  Machine.withTree fun t => do
    let at_ ← t.directory p.standpoint (pathOf path)
    if t.isGone at_ then return []
    let found := (t.children at_.place).map Octets.ofBytes
    return found.mergeSort fun (a b : Text) => !b.precedes a

/-- The path of a place. -/
def placeText (place : Place) : Text := Octets.ofBytes (Path.ofNames place).bytes

end JavacLauncher.Process
