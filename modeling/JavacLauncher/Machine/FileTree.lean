import JavacLauncher.SystemError
import Std.Data.TreeMap.Basic

/-!
# A file system in memory

A file is a node with a number; names lead to nodes. A place is the list of names on the way from the
root, so the directory of a place is the place without its last name. Two places may lead to one node,
and a node that no name leads to any more still exists for whoever has it open.

A path is followed name by name, and each name is looked up in what the names before it led to. That is
why `file/.` leads nowhere, `missing/..` leads nowhere, and `d//.` leads where `d` does. A link stands for
the path that it holds. A directory that was removed while someone is in it still leads to itself and
upwards, but holds nothing.
-/

namespace JavacLauncher

/-- A device of the system. -/
inductive Device where
  /-- Holds nothing and swallows what is written. -/
  | null
  /-- Holds bytes of value zero without end, and swallows what is written. -/
  | zero
  /-- Holds bytes of value zero without end, and has no room. -/
  | full
  /-- The terminal of the session; nobody has one. -/
  | terminal
  /-- What a descriptor of whoever opens it stands for. -/
  | descriptor (n : Nat)
  deriving DecidableEq, Repr, Inhabited

/-- What a file is. -/
inductive FileKind where
  | directory
  | file (content : Bytes)
  | link (target : Bytes)
  /-- A program of the system, with its name. -/
  | program (name : Text)
  | device (d : Device)
  /-- A pipe with a name. -/
  | pipe
  deriving DecidableEq, Repr, Inhabited

/-- A file, whatever its names are. -/
structure Node where
  kind : FileKind
  /-- Who may do what: three bits each for the owner, the group and all others. -/
  mode : Nat
  /-- When it was last changed. -/
  time : Nat
  deriving DecidableEq, Repr, Inhabited

/-- Whether anybody may run the file. -/
def Node.isExecutable (n : Node) : Bool := n.mode &&& 0o111 != 0

/-- The names on the way from the root. -/
abbrev Place := List Bytes

/-- A directory one can be in. It has been removed if its place leads elsewhere. -/
structure Standpoint where
  place : Place
  node : Nat
  deriving DecidableEq, Repr, Inhabited

/-- A file system. -/
structure FileTree where
  names : List (Place × Nat)
  nodes : Std.TreeMap Nat Node
  /-- The number for the next node. -/
  next : Nat
  deriving Inhabited

namespace FileTree

/-- The longest name. -/
def maxName : Nat := 255

/-- The longest path, with the NUL that ends it. -/
def maxPath : Nat := 4096

/-- How many links one path may lead through. -/
def maxLinks : Nat := 40

/-- The number of the root's node. -/
def rootNode : Nat := 0

/-- The mode of new files and of new directories, before a mask is applied. -/
def fileMode : Nat := 0o666

def directoryMode : Nat := 0o777

/-- A file system that holds nothing. -/
def empty : FileTree := ⟨[], Std.TreeMap.empty.insert rootNode ⟨.directory, 0o755, 0⟩, 1⟩

/-- The number of the node at a place. -/
def numberAt? (t : FileTree) (place : Place) : Option Nat :=
  if place = [] then some rootNode else t.names.lookup place

def node? (t : FileTree) (number : Nat) : Option Node := t.nodes[number]?

/-- What is at a place. -/
def at? (t : FileTree) (place : Place) : Option Node := (t.numberAt? place).bind t.node?

/-- Whether a directory is at a place. -/
def isDirectory (t : FileTree) (place : Place) : Bool :=
  match t.at? place with
  | some ⟨.directory, _, _⟩ => true
  | _ => false

/-- The tree with a place leading to a node. -/
def link (t : FileTree) (place : Place) (number : Nat) : FileTree :=
  { t with names := (place, number) :: t.names.filter fun e => e.1 ≠ place }

/-- The tree with a node changed. -/
def setNode (t : FileTree) (number : Nat) (n : Node) : FileTree :=
  { t with nodes := t.nodes.insert number n }

/-- The tree with a new node at a place, instead of what was there. -/
def insert (t : FileTree) (place : Place) (n : Node) : FileTree :=
  if place = [] then t
  else { (t.link place t.next).setNode t.next n with next := t.next + 1 }

/-- The tree without a place and all below it. -/
def erase (t : FileTree) (place : Place) : FileTree :=
  { t with names := t.names.filter fun e => !place.isPrefixOf e.1 }

/-- The tree with a place, and all below it, moved to another place. -/
def move (t : FileTree) (old new : Place) : FileTree :=
  let t' := if t.isDirectory new then t else t.erase new
  { t' with names := t'.names.map fun e =>
      match after? old e.1 with
      | some below => (new ++ below, e.2)
      | none => e }

/-- The tree with a directory at a place where nothing is. -/
def insertDirectory (t : FileTree) (place : Place) : FileTree :=
  match t.at? place with
  | some _ => t
  | none => t.insert place ⟨.directory, 0o755, 0⟩

/-- The tree with directories at a place and on the way to it. -/
def insertDirectories (t : FileTree) (place : Place) : FileTree :=
  (List.range (place.length + 1)).foldl (fun t n => t.insertDirectory (place.take n)) t

/-- The names in a directory. -/
def children (t : FileTree) (place : Place) : List Bytes :=
  t.names.filterMap fun e =>
    match after? place e.1 with
    | some [name] => some name
    | _ => none

/-- Whether a directory has been removed. -/
def isGone (t : FileTree) (s : Standpoint) : Bool := t.numberAt? s.place != some s.node

/-- The names to follow on a path. A slash at the end asks for a directory, as `.` does. -/
def steps (p : Path) : List Bytes :=
  let parts := p.bytes.splitOn Path.slash
  parts.filter (· ≠ []) ++ (if parts.getLast? = some [] then [Path.dot] else [])

/-- Where a path leads: to a node, or to a name in a directory that does not have it. -/
structure Location where
  place : Place
  number? : Option Nat
  /-- The directory of the place has been removed. -/
  isLost : Bool
  deriving Repr, Inhabited

/-- The root. -/
def rootStandpoint : Standpoint := ⟨[], rootNode⟩

/-- Where a path starts from. -/
def origin (at_ : Standpoint) (p : Path) : Standpoint := if p.IsAbsolute then rootStandpoint else at_

/-- Follows names from a directory, through at most `links` links; the last one only if `isFollowed`. -/
def walk (t : FileTree) (isFollowed : Bool) : Nat → Nat → Standpoint → List Bytes →
    Except SystemError Location
  | 0, _, _, _ => .error .tooManyLinks
  | _ + 1, _, at_, [] => .ok ⟨at_.place, some at_.node, t.isGone at_⟩
  | n + 1, links, at_, name :: rest =>
    if name = Path.dot then walk t isFollowed n links at_ rest
    else if name = Path.dotDot then
      let up := at_.place.dropLast
      walk t isFollowed n links ⟨up, (t.numberAt? up).getD rootNode⟩ rest
    else if name.length > maxName then .error .nameTooLong
    else
      let place := at_.place ++ [name]
      match if t.isGone at_ then none else t.numberAt? place with
      | none => if rest = [] then .ok ⟨place, none, t.isGone at_⟩ else .error .noEntry
      | some number =>
        match (t.node? number).map Node.kind with
        | some (.link target) =>
          if rest = [] ∧ !isFollowed then .ok ⟨place, some number, false⟩
          else
            match links with
            | 0 => .error .tooManyLinks
            | links + 1 =>
              if target = [] then .error .noEntry
              else walk t isFollowed n links (origin at_ ⟨target⟩) (steps ⟨target⟩ ++ rest)
        | some .directory => walk t isFollowed n links ⟨place, number⟩ rest
        | _ => if rest = [] then .ok ⟨place, some number, false⟩ else .error .notDirectory

/-- Whether the system looks at a path at all. -/
def accept (p : Path) : Except SystemError Unit :=
  if 0 ∈ p.bytes then .error .nulInPath
  else if p.bytes = [] then .error .noEntry
  else if p.bytes.length ≥ maxPath then .error .nameTooLong
  else .ok ()

/-- More steps than the longest path takes through the most links. -/
def maxSteps : Nat := maxPath * (maxLinks + 2)

/-- Follows a path to a place that need not hold anything yet. -/
def locate (t : FileTree) (isFollowed : Bool) (at_ : Standpoint) (p : Path) :
    Except SystemError Location := do
  accept p
  walk t isFollowed maxSteps maxLinks (origin at_ p) (steps p)

/-- Follows a path to something that is there. -/
def resolve (t : FileTree) (isFollowed : Bool) (at_ : Standpoint) (p : Path) :
    Except SystemError (Place × Nat) := do
  let found ← t.locate isFollowed at_ p
  match found.number? with
  | some number => return (found.place, number)
  | none => throw .noEntry

/-- What a path leads to. -/
def look (t : FileTree) (at_ : Standpoint) (p : Path) : Except SystemError Node := do
  let (_, number) ← t.resolve true at_ p
  return (t.node? number).getD default

/-- The directory that a path leads to. -/
def directory (t : FileTree) (at_ : Standpoint) (p : Path) : Except SystemError Standpoint := do
  let (place, number) ← t.resolve true at_ p
  match (t.node? number).map Node.kind with
  | some .directory => return ⟨place, number⟩
  | _ => throw .notDirectory

/-- Where a path leads that is to name something new. -/
def target (t : FileTree) (at_ : Standpoint) (p : Path) : Except SystemError Location := do
  let found ← t.locate false at_ p
  if found.number?.isNone ∧ found.isLost then throw .noEntry
  return found

/-- How the file of a program of the system begins; it is not text. -/
def programImage : Bytes := [0x7F, 0x45, 0x4C, 0x46, 0x02, 0x01, 0x01, 0x00, 0xFF]

/-- What a node holds, as a reader sees it. -/
def contentOf (n : Node) : Except SystemError Bytes :=
  match n.kind with
  | .file content => .ok content
  | .directory => .error .isDirectory
  | .program _ => .ok programImage
  | .link target => .ok target
  | .device .terminal => .error (.code 6)
  | .device _ | .pipe => .ok []

/-- What a file holds. -/
def readFile (t : FileTree) (at_ : Standpoint) (p : Path) : Except SystemError Bytes := do
  contentOf (← t.look at_ p)

end FileTree

end JavacLauncher
