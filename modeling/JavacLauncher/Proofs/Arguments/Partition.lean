import JavacLauncher.Proofs.Arguments.Session
import JavacLauncher.Proofs.Text.Trim
import Mathlib.Data.List.Basic
import Mathlib.Data.List.Forall2

/-!
# Rules of any shape

The launcher's own rules look at how a token begins, but nothing that a rule does to a list depends on
that. A shape may look anywhere in a text, and the part that it captures may be absent. What it says of a
single token is put down here without a rule: whether the token fits (`Pattern.Fits`), and what is
captured (`Pattern.Captures`). A token that spells no text fits no shape.

A rule decides about every token by itself (`capture?_eq_some_iff`, `isSome_capture?_iff`), so all else
is about `filter` and `filterMap`: the tokens that fit go, one captured text comes for each of them, and
the others stay (`extract_partitions`).
-/

namespace JavacLauncher

namespace Pattern

/-- The token spells a text of the shape. -/
def Fits (p : Pattern) (token : Bytes) : Prop := ∃ t, token = Utf8.encode t ∧ (p t).isSome

/-- `captured` is the part of the token that the shape captures, without the white space around it. A
part that is absent counts as empty. -/
structure Captures (p : Pattern) (token : Bytes) (captured : Text) : Prop where
  isTrimmed : captured.IsTrimmed
  surrounded : ∃ t part? lead tail, token = Utf8.encode t ∧ p t = some part? ∧
    Text.AllBlank lead ∧ Text.AllBlank tail ∧ part?.getD [] = lead ++ captured ++ tail

end Pattern

namespace Rule

variable {r : Rule} {token : Bytes}

/-! ## One token -/

theorem capture?_eq_some_iff {captured : Text} :
    r.capture? token = some captured ↔ r.pattern.Captures token captured := by
  unfold capture?
  simp only [Option.bind_eq_bind, Option.pure_def, Option.bind_eq_some_iff,
    Utf8.decode?_eq_some_iff, Option.some.injEq, Text.trim_eq_iff]
  constructor
  · rintro ⟨t, htoken, part?, hpart, htrimmed, lead, tail, hlead, htail, hsplit⟩
    exact ⟨htrimmed, t, part?, lead, tail, htoken, hpart, hlead, htail, hsplit⟩
  · rintro ⟨htrimmed, t, part?, lead, tail, htoken, hpart, hlead, htail, hsplit⟩
    exact ⟨t, htoken, part?, hpart, htrimmed, lead, tail, hlead, htail, hsplit⟩

/-- A rule recognises the tokens of its shape. -/
theorem isSome_capture?_iff : (r.capture? token).isSome ↔ r.pattern.Fits token := by
  unfold capture? Pattern.Fits
  simp only [Option.bind_eq_bind, Option.pure_def, Option.isSome_iff_exists, Option.bind_eq_some_iff,
    Utf8.decode?_eq_some_iff]
  constructor
  · rintro ⟨_, t, htoken, part?, hpart, _⟩
    exact ⟨t, htoken, part?, hpart⟩
  · rintro ⟨t, htoken, part?, hpart⟩
    exact ⟨_, t, htoken, part?, hpart, rfl⟩

instance (p : Pattern) (token : Bytes) : Decidable (p.Fits token) :=
  decidable_of_iff _ (isSome_capture?_iff (r := ⟨p, true⟩))

/-! ## Lists of tokens -/

/-- A rule, in closed form: two selections. -/
theorem extract_eq (r : Rule) (tokens : List Bytes) :
    r.extract tokens =
      { matched :=
          (tokens.filterMap r.capture?).filter fun captured => captured ≠ [] ∨ r.allowEmpty
        remainder := tokens.filter fun token => (r.capture? token).isNone } := by
  rw [← matched_extract, ← remainder_extract]

theorem extract_append (r : Rule) (front back : List Bytes) :
    r.extract (front ++ back) =
      { matched := (r.extract front).matched ++ (r.extract back).matched
        remainder := (r.extract front).remainder ++ (r.extract back).remainder } := by
  simp only [extract_eq, List.filterMap_append, List.filter_append]

/-- A rule finds nothing in what it has left. -/
theorem extract_remainder (r : Rule) (tokens : List Bytes) :
    r.extract (r.extract tokens).remainder = ⟨[], (r.extract tokens).remainder⟩ :=
  extract_of_capture?_eq_none fun _ htoken => capture?_of_mem_remainder htoken

/-- The tokens that stay are those that do not fit. -/
theorem remainder_extract_eq_filter (r : Rule) (tokens : List Bytes) :
    (r.extract tokens).remainder = tokens.filter fun token => ¬ r.pattern.Fits token := by
  rw [remainder_extract]
  refine List.filter_congr fun token _ => ?_
  rw [Bool.eq_iff_iff, decide_eq_true_eq, ← isSome_capture?_iff, Option.not_isSome_iff_eq_none,
    Option.isNone_iff_eq_none]

/-- Each token that fits gives one captured text. -/
theorem forall₂_captures (r : Rule) (tokens : List Bytes) :
    List.Forall₂ r.pattern.Captures (tokens.filter fun token => r.pattern.Fits token)
      (tokens.filterMap r.capture?) := by
  induction tokens with
  | nil => exact .nil
  | cons token tokens ih =>
    rw [List.filter_cons, List.filterMap_cons]
    cases hcapture : r.capture? token with
    | none =>
      have hunfit : ¬ r.pattern.Fits token := by
        rw [← isSome_capture?_iff, hcapture]
        exact Bool.false_ne_true
      rw [if_neg (by rwa [decide_eq_true_eq])]
      exact ih
    | some captured =>
      have hfits : r.pattern.Fits token := by
        rw [← isSome_capture?_iff, hcapture]
        rfl
      rw [if_pos (decide_eq_true hfits)]
      exact .cons (capture?_eq_some_iff.mp hcapture) ih

variable (p : Pattern)

/-- A rule that keeps empty captures keeps all captures. -/
theorem matched_extract_of_allowEmpty (tokens : List Bytes) :
    (extract ⟨p, true⟩ tokens).matched = tokens.filterMap (capture? ⟨p, true⟩) := by
  rw [matched_extract]
  simp

/-- The captures of two rules of one shape differ by the empty ones. -/
theorem extract_of_not_allowEmpty (tokens : List Bytes) :
    extract ⟨p, false⟩ tokens =
      { matched := (extract ⟨p, true⟩ tokens).matched.filter fun captured => captured ≠ []
        remainder := (extract ⟨p, true⟩ tokens).remainder } := by
  rw [matched_extract_of_allowEmpty, extract_eq, extract_eq]
  simp only [Bool.false_eq_true, or_false]
  -- whether empty captures count has no part in what is captured
  rfl

/--
**Whatever its shape, a rule sorts the tokens and loses none.**

The tokens that do not fit stay as they are and in order, and for each of the others there is one captured
text, in order too, as long as empty ones count. Not counting them changes nothing else. Lists may be
sorted part by part, and sorting what was left finds nothing.
-/
theorem extract_partitions (tokens more : List Bytes) :
    (extract ⟨p, true⟩ tokens).remainder = (tokens.filter fun token => ¬ p.Fits token) ∧
    List.Forall₂ p.Captures (tokens.filter fun token => p.Fits token)
      (extract ⟨p, true⟩ tokens).matched ∧
    extract ⟨p, false⟩ tokens =
      { matched := (extract ⟨p, true⟩ tokens).matched.filter fun captured => captured ≠ []
        remainder := (extract ⟨p, true⟩ tokens).remainder } ∧
    (extract ⟨p, true⟩ tokens).matched.length + (extract ⟨p, true⟩ tokens).remainder.length =
      tokens.length ∧
    ∀ allowEmpty, let sort := extract ⟨p, allowEmpty⟩
      sort (tokens ++ more) =
        { matched := (sort tokens).matched ++ (sort more).matched
          remainder := (sort tokens).remainder ++ (sort more).remainder } ∧
      sort (sort tokens).remainder = ⟨[], (sort tokens).remainder⟩ := by
  have hleft := remainder_extract_eq_filter ⟨p, true⟩ tokens
  have htaken : List.Forall₂ p.Captures (tokens.filter fun token => p.Fits token)
      (extract ⟨p, true⟩ tokens).matched := by
    rw [matched_extract_of_allowEmpty]
    exact forall₂_captures ⟨p, true⟩ tokens
  refine ⟨hleft, htaken, extract_of_not_allowEmpty p tokens, ?_, fun allowEmpty =>
    ⟨extract_append _ tokens more, extract_remainder _ tokens⟩⟩
  -- as many captures as tokens that fit
  have hsplit := tokens.length_eq_length_filter_add fun token => p.Fits token
  rw [← htaken.length_eq, hleft, hsplit]
  simp only [decide_not]

/-- A part that may be absent, and a blank one. -/
example :
    extract ⟨.orElse (.exactly "-g".toList) (.beginning ["-g:".toList]), true⟩
      (["-g", "-go", "-g: lines\t", "-g: "].map Bytes.ofString) =
        ⟨[[], "lines".toList, []], [Bytes.ofString "-go"]⟩ := by
  decide

end Rule

end JavacLauncher
