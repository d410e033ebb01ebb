import JavacLauncher.Text.Unprintable
import JavacLauncher.Text.Utf8.Lemmas

/-!
# Quoted text

Messages show paths and other foreign text between double quotes. Inside, a double quote and a
backslash follow a backslash; NUL, tab, newline and carriage return have a letter each; any other
character without a form of its own is written by number. Names need not spell text: a byte that
belongs to no character is written as a number of two digits (`bytes_encode` says that on names that
do spell text nothing else happens).
-/

namespace JavacLauncher.Quoted

/-- One character of a text in quotes. -/
def escape (c : Char) : Text :=
  if c = '\x00' then ['\\', '0']
  else if c = '\t' then ['\\', 't']
  else if c = '\n' then ['\\', 'n']
  else if c = '\r' then ['\\', 'r']
  else if c = '"' ∨ c = '\\' then ['\\', c]
  else if Text.isUnprintable c then
    ['\\', 'u', '\x7b'] ++ Nat.toDigits 16 c.toNat ++ ['\x7d']
  else [c]

/-- A byte that belongs to no character: two hexadecimal digits, capitals. -/
def escapeByte (b : UInt8) : Text :=
  ['\\', 'x', (Nat.digitChar (b.toNat / 16)).toUpper, (Nat.digitChar (b.toNat % 16)).toUpper]

/-- One piece of a name in quotes. -/
def escapePiece : Utf8.Piece → Text
  | .char c => escape c
  | .broken bs => bs.flatMap escapeByte

/-- A text in quotes. -/
def text (t : Text) : Text := '"' :: t.flatMap escape ++ ['"']

/-- A name in quotes. -/
def bytes (bs : Bytes) : Text := '"' :: (Utf8.pieces bs).flatMap escapePiece ++ ['"']

/-- A name that spells a text is quoted as that text. -/
theorem bytes_encode (t : Text) : bytes (Utf8.encode t) = text t := by
  rw [bytes, text, Utf8.pieces_encode, List.flatMap_map]
  rfl

end JavacLauncher.Quoted
