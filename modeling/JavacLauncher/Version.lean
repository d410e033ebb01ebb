import JavacLauncher.LaunchError

/-!
# Versions of the Java runtime

A runtime names its version in the old form `1.7.0_80`: one digit, a dot, the minor number, a dot, and
anything that stays on the line. Only the two numbers matter, and only the form decides: newer runtimes
call themselves `17.0.2`, which is refused.

Each supported version needs the annotated library that was made for it.
-/

namespace JavacLauncher

/-- The two leading numbers of a runtime's version. -/
structure Version where
  major : UInt32
  minor : UInt32
  deriving DecidableEq, Repr, Inhabited

namespace Version

/-- The version as `major.minor`. -/
def display (v : Version) : Text := Text.ofNat v.major.toNat ++ '.' :: Text.ofNat v.minor.toNat

/-- Versions are compared by their major numbers, and by their minor numbers where those agree. -/
def Precedes (v w : Version) : Prop := v.major < w.major ∨ (v.major = w.major ∧ v.minor ≤ w.minor)

instance : LE Version := ⟨Precedes⟩

instance (v w : Version) : Decidable (v ≤ w) :=
  inferInstanceAs (Decidable (v.major < w.major ∨ (v.major = w.major ∧ v.minor ≤ w.minor)))

/-- The versions from the lowest to the highest. -/
def sorted (vs : List Version) : List Version := vs.mergeSort fun v w => decide (v ≤ w)

/-- The number that a numeral denotes, if it fits. -/
def number? (digits : Text) : Option UInt32 :=
  let n := Nat.ofDigitChars 10 digits 0
  if digits ≠ [] ∧ n < UInt32.size then some (UInt32.ofNat n) else none

/-- The version that a text of the old form names. -/
def ofText? : Text → Option Version
  | major :: '.' :: t =>
    match t.dropWhile Char.isDigit with
    | '.' :: rest =>
      if major.isDigit ∧ '\n' ∉ rest then do
        return ⟨← number? [major], ← number? (t.takeWhile Char.isDigit)⟩
      else none
    | _ => none
  | _ => none

/-- The version that a text names; a text of another form is reported as it is. -/
def parse (t : Text) : Except LaunchError Version :=
  match ofText? t with
  | some v => .ok v
  | none => .error (.unreadableVersion t)

/-- The annotated library made for each version. -/
def annotatedLibraries : List (Version × Text) :=
  [(⟨1, 4⟩, "jdk6.jar".toList), (⟨1, 5⟩, "jdk6.jar".toList), (⟨1, 6⟩, "jdk6.jar".toList),
    (⟨1, 7⟩, "jdk7.jar".toList)]

/-- The name of the archive with the annotated library for `v`. -/
def annotatedLibrary (v : Version) : Except LaunchError Text :=
  match annotatedLibraries.find? fun entry => entry.1 = v with
  | some entry => .ok entry.2
  | none => .error (.unsupportedVersion v.display)

/-! ## What a runtime says about itself -/

/-- The text between the first two double quotes of a line. -/
def quotedPart? (line : Text) : Option Text := do
  let (_, opened) ← cut? '"' line
  let (quoted, _) ← cut? '"' opened
  return quoted

/-- The first version in quotes that a runtime's greeting shows. A quoted part ends on its line. -/
def announced? (banner : Text) : Option Text := banner.lines.findSome? quotedPart?

/--
What a runtime prints when asked for its version. Runtimes greet on the error stream, some wrappers on
the other one, so the error stream is read first.
-/
def banner (errors output : Bytes) : Text :=
  Utf8.decodeLossy errors ++ '\n' :: Utf8.decodeLossy output

/-- The version text in a greeting. A greeting without one is reported by its first line. -/
def announced (banner : Text) : Except LaunchError Text :=
  match announced? banner with
  | some t => .ok t
  | none => .error (.unreadableVersion (banner.lines.headD []))

end Version

end JavacLauncher
