import JavacLauncher.Machine.FileTree
import JavacLauncher.Shell.Pattern
import JavacLauncher.Text.Octets

/-!
# Fields

Words come to fields. What quotes protect and what a substitution brings are told apart until the fields
are made, because only the latter is split. Each substitution is split by itself, but a field may begin in
one and end in another.

A field with characters outside quotes that make it a pattern stands for the files whose names it matches.
-/

namespace JavacLauncher.Shell

/-- What a word comes to, before it is split. -/
inductive Glyph where
  | char (c : Char) (isQuoted : Bool)
  /-- Quotes stood here. They make a field even with nothing in them. -/
  | trace
  /-- One argument ends and the next one begins. -/
  | gap
  deriving DecidableEq, Repr, Inhabited

/-- How a part of a word is split. -/
inductive Splitting where
  | never
  /-- At separators. -/
  | separators
  /-- Between arguments only. -/
  | gaps
  deriving DecidableEq, Repr, Inhabited

/-- A part of a word. -/
structure Segment where
  splitting : Splitting
  glyphs : List Glyph
  deriving DecidableEq, Repr, Inhabited

namespace Segment

/-- Text that stays together. -/
def fixed (isQuoted : Bool) (t : Text) : Segment := ⟨.never, t.map fun c => .char c isQuoted⟩

/-- Text to be split. -/
def splittable (t : Text) : Segment := ⟨.separators, t.map fun c => .char c false⟩

/-- A trace of quotes. -/
def trace : Segment := ⟨.never, [.trace]⟩

/-- Arguments, each in a field of its own; split further unless quoted. -/
def arguments (isQuoted : Bool) (ts : List Text) : Segment :=
  let parts := ts.map fun t => t.map fun c => Glyph.char c isQuoted
  ⟨if isQuoted then .gaps else .separators, [Glyph.gap].intercalate parts⟩

/-- The characters of a segment with their marks. -/
def marked (s : Segment) : Marked := s.glyphs.filterMap fun
  | .char c isQuoted => some (c, isQuoted)
  | _ => none

end Segment

/-- Fields in the making. -/
structure Fields where
  /-- The finished fields, the last one first. -/
  finished : List (List Glyph)
  /-- The current field, its last glyph first. -/
  current : List Glyph
  /-- White space has just ended a field. -/
  isAfterSpace : Bool
  /-- Whether the last segment that was split, and the one before it, were split at gaps only. -/
  isGaps : Bool
  isAfterGaps : Bool
  deriving Inhabited

namespace Fields

def empty : Fields := ⟨[], [], false, false, false⟩

/-- Whether a glyph separates fields, and whether it does so as white space. -/
def separation (separators : Text) (isGaps : Bool) : Glyph → Bool × Bool
  | .gap => (true, true)
  | .trace => (false, false)
  | .char c isQuoted =>
    let separates := !isQuoted && !isGaps && separators.contains c
    (separates, separates && (c = ' ' || c = '\t' || c = '\n'))

/-- Goes on with a glyph of a segment that is split. -/
def add (separators : Text) (f : Fields) (g : Glyph) : Fields :=
  let (separates, isSpace) := separation separators f.isGaps g
  if f.isAfterSpace then
    if isSpace then f
    else if separates then { f with isAfterSpace := false }
    else { f with isAfterSpace := false, current := [g] }
  else if separates then
    let endsInSpace := isSpace && !f.isGaps && !f.isAfterGaps
    if f.current = [] ∧ endsInSpace then f
    else { f with finished := f.current :: f.finished, current := [], isAfterSpace := endsInSpace }
  else { f with current := g :: f.current }

/-- Goes on with a segment. -/
def addSegment (separators : Text) (f : Fields) (s : Segment) : Fields :=
  match s.splitting with
  | .never => { f with current := s.glyphs.reverse ++ f.current, isAfterSpace := f.isAfterSpace && s.glyphs = [] }
  | splitting =>
    let f := { f with isAfterSpace := false, isAfterGaps := f.isGaps, isGaps := splitting = .gaps }
    s.glyphs.foldl (add separators) f

/-- The fields that segments come to. -/
def ofSegments (separators : Text) (ss : List Segment) : List (List Glyph) :=
  let f := ss.foldl (addSegment separators) empty
  let all := if f.current = [] ∧ !f.isGaps then f.finished else f.current :: f.finished
  (all.map List.reverse).reverse

/-- The characters of a field with their marks. -/
def marked (gs : List Glyph) : Marked := (Segment.mk .never gs).marked

end Fields

/-! ## Files -/

/-- What matters when names are matched. -/
structure GlobStyle where
  /-- Hidden files count like others. -/
  showsHidden : Bool
  /-- The directory itself and the one above it count as hidden files. -/
  hasDots : Bool
  deriving DecidableEq, Repr, Inhabited

/-- The names on the way that a pattern writes. -/
def splitMarked (m : Marked) : List Marked := m.splitOnP fun p => p.1 = '/'

/-- Paths that lead on from some paths by a name or a pattern for names. -/
def globStep (style : GlobStyle) (t : FileTree) (at_ : Standpoint) (isLast : Bool) (paths : List Text)
    (name : Marked) : List Text :=
  paths.flatMap fun path =>
    let place? (p : Text) := (t.resolve true at_ ⟨Octets.toBytes p⟩).toOption
    let isDirectory (p : Text) : Bool :=
      match (place? p).bind fun e => t.node? e.2 with
      | some ⟨.directory, _, _⟩ => true
      | _ => false
    let isThere (p : Text) : Bool := (t.resolve false at_ ⟨Octets.toBytes p⟩).toOption.isSome
    if isPattern name then
      let dir := if path = [] then ['.'] else path
      if isDirectory dir then
        let place := ((place? dir).map (·.1)).getD []
        let names := (t.children place).map Octets.ofBytes ++ if style.hasDots then [['.'], ['.', '.']] else []
        let asksHidden := (name.head?.map (·.1)) = some '.'
        let p := pattern name
        let found := names.filter fun n =>
          (n.head? ≠ some '.' || asksHidden || (style.showsHidden && n ≠ ['.'] && n ≠ ['.', '.'])) && isMatch p n
        found.filterMap fun n =>
          let t := path ++ n
          if isLast then some t else if isDirectory t then some (t ++ ['/']) else none
      else []
    else
      let p := path ++ unmark name
      if !isLast then [p ++ ['/']] else if name = [] then (if isDirectory path then [p] else [])
      else if isThere p then [p] else []

/-- The files whose names a field matches, in order. -/
def glob (style : GlobStyle) (t : FileTree) (at_ : Standpoint) (field : Marked) : List Text :=
  let names := splitMarked field
  let found := (names.zipIdx).foldl
    (fun paths (name, i) => globStep style t at_ (i + 1 = names.length) paths name) [[]]
  found.mergeSort fun (a b : Text) => !b.precedes a

end JavacLauncher.Shell
