import JavacLauncher.Text.Basic

/-!
# Kinds of characters

The kinds that patterns and tools know by name, such as `alpha` and `space`. They know ASCII only: for
them a byte above 127 is of no kind.
-/

namespace JavacLauncher

namespace CharKind

/-- Printable characters, the blank included. -/
def isPrintable (c : Char) : Bool := ' ' ≤ c && c ≤ '~'

/-- White space. -/
def isSpace (c : Char) : Bool := c = ' ' || ('\t' ≤ c && c ≤ '\r')

/-- The digits of base 16. -/
def isHexDigit (c : Char) : Bool := c.isDigit || ('a' ≤ c && c ≤ 'f') || ('A' ≤ c && c ≤ 'F')

/-- The kinds and the characters that are of them. -/
def table : List (String × (Char → Bool)) :=
  [("alnum", Char.isAlphanum), ("alpha", Char.isAlpha), ("blank", fun c => c = ' ' || c = '\t'),
    ("cntrl", fun c => c.toNat < 32 || c.toNat = 127), ("digit", Char.isDigit),
    ("graph", fun c => isPrintable c && c ≠ ' '), ("lower", Char.isLower), ("print", isPrintable),
    ("punct", fun c => isPrintable c && c ≠ ' ' && !c.isAlphanum), ("space", isSpace),
    ("upper", Char.isUpper), ("xdigit", isHexDigit)]

/-- The characters of a kind, if there is a kind of that name. -/
def ofName? (name : Text) : Option (Char → Bool) := table.lookup (String.ofList name)

end CharKind

/-- What a set in brackets holds. -/
inductive SetMember where
  /-- The characters from one to another. -/
  | range (first last : Char)
  /-- The characters of a kind. -/
  | kind (name : Text)
  deriving DecidableEq, Repr, Inhabited

/-- Whether a character is a member. -/
def SetMember.contains (c : Char) : SetMember → Bool
  | .range first last => first ≤ c && c ≤ last
  | .kind name => ((CharKind.ofName? name).map fun f => f c).getD false

end JavacLauncher
