import JavacLauncher.Text.Quoted

/-!
# Paths

A path is a string of bytes in which slashes separate names. Nothing else is special, so a path need
not spell text.

`names` forgets how often a slash is repeated, a slash at the end and the names `.`; `normalize` also
lets each `..` take away the name before it. Both look at the text of the path alone and never ask the
file system, so a symbolic link is a name like any other. A `..` with no name before it goes nowhere.
-/

namespace JavacLauncher

/-- The name of a file: names of directories and a last name, with slashes between them. -/
structure Path where
  bytes : Bytes
  deriving DecidableEq, Repr, Inhabited

namespace Path

/-- The byte that separates names. -/
def slash : UInt8 := 0x2F

/-- The name of the directory itself. -/
def dot : Bytes := [0x2E]

/-- The name of the directory above. -/
def dotDot : Bytes := [0x2E, 0x2E]

/-- The path a text spells. -/
def ofText (t : Text) : Path := ⟨Utf8.encode t⟩

/-- The path a literal spells. -/
def ofString (s : String) : Path := ofText s.toList

/-- The path as text, with U+FFFD for what spells none. -/
def display (p : Path) : Text := Utf8.decodeLossy p.bytes

/-- Absolute paths begin at the root and mean the same in every directory. -/
def IsAbsolute (p : Path) : Prop := p.bytes.head? = some slash

instance (p : Path) : Decidable p.IsAbsolute := inferInstanceAs (Decidable (_ = _))

/--
`p` seen from the directory `base`: `p` itself if it is absolute, else both with one slash between
them. A base that is empty or ends in a slash needs none.
-/
def join (base p : Path) : Path :=
  if p.IsAbsolute then p
  else if base.bytes = [] ∨ base.bytes.getLast? = some slash then ⟨base.bytes ++ p.bytes⟩
  else ⟨base.bytes ++ slash :: p.bytes⟩

theorem join_of_isAbsolute {base p : Path} (h : p.IsAbsolute) : base.join p = p := if_pos h

/-- What is seen from an absolute directory is absolute. -/
theorem IsAbsolute.join {base : Path} (h : base.IsAbsolute) (p : Path) :
    (base.join p).IsAbsolute := by
  by_cases hp : p.IsAbsolute
  · rwa [join_of_isAbsolute hp]
  · obtain ⟨_ | ⟨b, bs⟩⟩ := base
    · cases h
    · simp only [Path.join, if_neg hp]
      split <;> exact h

/-- The names on the way, without those that lead nowhere. -/
def names (p : Path) : List Bytes := (p.bytes.splitOn slash).filter fun n => n ≠ [] ∧ n ≠ dot

/-- The last name on the way, unless the path ends by going up or has no name at all. -/
def fileName? (p : Path) : Option Bytes :=
  match p.names.getLast? with
  | none => none
  | some n => if n = dotDot then none else some n

/-- The way down from the root along `ns`. -/
def ofNames (ns : List Bytes) : Path :=
  match ns with
  | [] => ⟨[slash]⟩
  | _ => ⟨ns.flatMap (slash :: ·)⟩

theorem isAbsolute_ofNames (ns : List Bytes) : (ofNames ns).IsAbsolute := by
  cases ns <;> rfl

/-- One step on the way; `trail` holds the names so far, the last one first. -/
def walk (trail : List Bytes) (n : Bytes) : List Bytes :=
  if n = dotDot then trail.tail else n :: trail

/-- The names that are left once every `..` has taken away the name before it. -/
def reducedNames (p : Path) : List Bytes := (p.names.foldl walk []).reverse

/-- The way along `ns` from where `p` begins: down from the root, or from where `p` is seen. -/
def along (p : Path) (ns : List Bytes) : Path :=
  if p.IsAbsolute then ofNames ns else ⟨[slash].intercalate ns⟩

theorem along_of_isAbsolute {p : Path} (h : p.IsAbsolute) (ns : List Bytes) :
    p.along ns = ofNames ns := if_pos h

/-- The same way, without `.`, `..` and spare slashes. -/
def normalize (p : Path) : Path := p.along p.reducedNames

/-- Whether a piece between slashes leads nowhere. -/
def isIdle (piece : Bytes) : Bool := piece = [] ∨ piece = dot

/-- Pieces without those at the end that lead nowhere. -/
def dropIdle (pieces : List Bytes) : List Bytes := (pieces.reverse.dropWhile isIdle).reverse

/--
The directory in which a path ends: the path without its last piece, whatever that is, and without the
slashes around it. The root and the empty path end in none, and a single piece ends in the directory
from which it is seen.
-/
def parent? (p : Path) : Option Path :=
  match p.bytes.splitOn slash with
  | [] => none
  | first :: others =>
    match dropIdle others with
    | [] => if first = [] then none else some ⟨[]⟩
    | others =>
      let above := dropIdle others.dropLast
      -- nothing stands before the first slash of an absolute path
      if first = [] then some ⟨slash :: [slash].intercalate above⟩
      else some ⟨[slash].intercalate (first :: above)⟩

end Path

end JavacLauncher
