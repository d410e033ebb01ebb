import JavacLauncher.Text.Utf8.Lemmas

/-!
# Rules that take arguments out of a list

A rule recognises single tokens and captures a part of each. Taking a rule's tokens out of a list keeps
the other tokens as they are and in order; the captured texts come out in order too, without the white
space around them. A token that does not spell text is recognised by no rule.
-/

namespace JavacLauncher

/-- What was taken out of a list of tokens, and what is left of the list. -/
structure Extraction (α : Type) where
  matched : List α
  remainder : List Bytes
  deriving DecidableEq, Repr, Inhabited

/--
A shape of texts with one part to capture: `none` for a text of another shape, `some none` for a text
of the shape whose part is absent.
-/
abbrev Pattern := Text → Option (Option Text)

namespace Pattern

/-- Texts that begin with one of `starts` and stay on one line; what follows is captured. -/
def beginning (starts : List Text) : Pattern := fun t =>
  match starts.findSome? (after? · t) with
  | some rest => if '\n' ∈ rest then none else some (some rest)
  | none => none

/-- The text `word` itself, with nothing to capture. -/
def exactly (word : Text) : Pattern := fun t => if t = word then some none else none

/-- Texts of the shape `p`, or else of the shape `q`. -/
def orElse (p q : Pattern) : Pattern := fun t =>
  match p t with
  | some captured => some captured
  | none => q t

/-- Texts that hold `word` anywhere; what follows its first occurrence, to the end of the line. -/
def containing (word : Text) : Pattern := fun t =>
  (afterFirst? word t).map fun rest => some (rest.takeWhile (· ≠ '\n'))

end Pattern

/-- A rule: the shape of its tokens, and whether captured texts without content count. -/
structure Rule where
  pattern : Pattern
  allowEmpty : Bool

namespace Rule

/-- The captured text of a token, if the token is one of the rule's. An absent part is empty. -/
def capture? (r : Rule) (token : Bytes) : Option Text := do
  let captured ← r.pattern (← Utf8.decode? token)
  return (captured.getD []).trim

/-- Takes the rule's tokens out of `tokens`. -/
def extract (r : Rule) : List Bytes → Extraction Text
  | [] => ⟨[], []⟩
  | token :: tokens =>
    let e := extract r tokens
    match r.capture? token with
    | none => { e with remainder := token :: e.remainder }
    | some captured =>
      if captured ≠ [] ∨ r.allowEmpty then { e with matched := captured :: e.matched } else e

end Rule

end JavacLauncher
