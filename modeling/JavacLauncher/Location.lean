import JavacLauncher.LaunchError

/-!
# Where the launcher's own archive is

The launcher learns its own place as a location: a plain path, or the address of an entry in an
archive, `jar:file:PATH!ENTRY`, whose path has bytes written as `%XX`. A location of another scheme is
on another machine, and one that begins with `file:` means that the code lies in a directory. The path
is made absolute and reduced by its names alone.
-/

namespace JavacLauncher

/-- `p` from the root: as it is if it is absolute, else seen from the current directory. -/
def Path.absolute (currentDir : Except SystemError Path) (p : Path) : Except LaunchError Path :=
  if p.IsAbsolute then .ok p
  else
    match currentDir with
    | .ok dir => .ok (dir.join p)
    | .error cause => .error (.system p cause)

/-- An absolute path is the same from every directory, and from none. -/
theorem Path.absolute_of_isAbsolute {p : Path} (h : p.IsAbsolute)
    (currentDir : Except SystemError Path) : p.absolute currentDir = .ok p := if_pos h

namespace Location

/-- The value of a hexadecimal digit, capital or not, given as a byte. -/
def hexDigit? (b : UInt8) : Option UInt8 :=
  if 0x30 ≤ b ∧ b ≤ 0x39 then some (b - 0x30)
  else if 0x41 ≤ b ∧ b ≤ 0x46 then some (b - 0x37)
  else if 0x61 ≤ b ∧ b ≤ 0x66 then some (b - 0x57)
  else none

/-- The byte `%`, which begins an escape. -/
def percent : UInt8 := 0x25

/-- Replaces each `%XX` by the byte it stands for. Bytes that come out are not looked at again. -/
def unescape? : Bytes → Option Bytes
  | [] => some []
  | b :: l =>
    if b = percent then
      match l with
      | c :: d :: l' => do
        let high ← hexDigit? c
        let low ← hexDigit? d
        let rest ← unescape? l'
        return (high * 16 + low) :: rest
      | _ => none
    else (unescape? l).map (b :: ·)

/-- The text that `t` spells once its escapes are replaced. -/
def percentDecode? (t : Text) : Option Text := do
  Utf8.decode? (← unescape? (Utf8.encode t))

/-- The scheme that a location begins with. A single letter is a drive, not a scheme. -/
def scheme? (t : Text) : Option Text :=
  match cut? ':' t with
  | some (first :: second :: more, _) =>
    if first.isAlpha ∧ (second :: more).all fun c => c.isAlphanum || c = '+' || c = '-' || c = '.'
    then some (first :: second :: more) else none
  | _ => none

/-- The path that a location names, before it is made absolute. -/
def path? (t : Text) : Except LaunchError Text :=
  if t = [] then .error (.unrecognizedLocation t)
  else if (after? "file:".toList t).isSome then .error .loadedFromDirectory
  else
    match after? "jar:file:".toList t with
    | some rest =>
      match (cut? '!' rest).bind fun parts => percentDecode? parts.1 with
      | some path => .ok path
      | none => .error (.unrecognizedLocation t)
    | none =>
      match scheme? t with
      | some scheme => .error (.loadedRemotely scheme)
      | none => .ok t

/-- The archive that a location leads to. White space around a location does not count. -/
def locate (currentDir : Except SystemError Path) (location : Text) : Except LaunchError Path := do
  let path ← path? location.trim
  return (← (Path.ofText path).absolute currentDir).normalize

end Location

end JavacLauncher
