import JavacLauncher.Launch

/-!
# Different arguments, different lines

The line for a list of arguments escapes double quotes and nothing else. Behind an argument that
ends in a backslash the closing quote looks like an escaped one, so the line can be read in two
ways, and both readings go on for as long as blanks between quotes follow: `"\" " " "` begins with the
argument `\` in one of them and with the argument `" ` in the other.

It is the end of the line that tells. Where two readings of a line differ, one of them stands
behind an argument and the other one inside of one. What a character means inside of an argument
is said once (`inside_eq_cons`), and from it one sees that every quote that follows a blank opens an
argument for the first reading and ends one for the second, so that they change places
(`behind_ne_inside`). They never agree again, and only one of them can stand behind an argument when
the line ends. Readings that agree so far go on alike (`inside_eq_inside`), and a line is the line of
one list only (`ofArguments_eq_iff`).
-/

namespace JavacLauncher

namespace CommandLine

/-- What is left of a line behind an argument that is followed by `args`. -/
def behind (args : List Text) : Text := args.flatMap ([' '] ++ quote ·)

/-- What is left of a line inside of an argument that goes on with `arg` and is followed by `args`. -/
def inside (arg : Text) (args : List Text) : Text :=
  arg.flatMap (fun c => if c = '"' then ['\\', '"'] else [c]) ++ '"' :: behind args

@[simp] theorem behind_nil : behind [] = [] := rfl

@[simp] theorem behind_cons (arg : Text) (args : List Text) :
    behind (arg :: args) = ' ' :: '"' :: inside arg args := by
  simp [behind, quote, inside]

@[simp] theorem inside_nil (args : List Text) : inside [] args = '"' :: behind args := rfl

@[simp] theorem inside_quote (arg : Text) (args : List Text) :
    inside ('"' :: arg) args = '\\' :: '"' :: inside arg args := rfl

theorem inside_cons {c : Char} (h : c ≠ '"') (arg : Text) (args : List Text) :
    inside (c :: arg) args = c :: inside arg args := by
  simp [inside, h]

/-- A line begins with an opening quote, and the first argument follows. -/
theorem ofArguments_cons (arg : Text) (args : List Text) :
    ofArguments (arg :: args) = '"' :: inside arg args := by
  unfold ofArguments inside behind
  rw [List.map_cons, intercalate_eq_append_flatMap, List.flatMap_map]
  simp [quote]

/-- What the next character of a line says inside of an argument: a quote ends the argument, a
backslash may belong to a quote in it, and any other character is a character of it. -/
theorem inside_eq_cons {arg rest : Text} {args : List Text} {c : Char}
    (h : inside arg args = c :: rest) :
    (c = '"' ∧ arg = [] ∧ behind args = rest) ∨
    (c = '\\' ∧ ∃ more, arg = '"' :: more ∧ '"' :: inside more args = rest) ∨
    (c ≠ '"' ∧ ∃ more, arg = c :: more ∧ inside more args = rest) := by
  cases arg with
  | nil =>
    obtain ⟨rfl, hrest⟩ := List.cons.inj h
    exact Or.inl ⟨rfl, rfl, hrest⟩
  | cons first more =>
    by_cases hfirst : first = '"'
    · subst hfirst
      obtain ⟨rfl, hrest⟩ := List.cons.inj h
      exact Or.inr (Or.inl ⟨rfl, more, rfl, hrest⟩)
    · rw [inside_cons hfirst] at h
      obtain ⟨rfl, hrest⟩ := List.cons.inj h
      exact Or.inr (Or.inr ⟨hfirst, more, rfl, hrest⟩)

/-- Inside of an argument, a quote without a backslash in front ends it. -/
theorem inside_eq_quote_cons {arg rest : Text} {args : List Text}
    (h : inside arg args = '"' :: rest) : arg = [] ∧ behind args = rest := by
  rcases inside_eq_cons h with ⟨_, hend⟩ | ⟨hbackslash, _⟩ | ⟨hne, _⟩
  · exact hend
  · exact absurd hbackslash (by decide)
  · exact absurd rfl hne

/-! ## Readings that differ -/

/-- **Readings that differ never agree again.** A quote behind a blank opens an argument for the one
that stands behind an argument and ends the other one's argument, so that the two change places, with
one argument less to come. -/
theorem behind_ne_inside : ∀ (others : List Text) (arg : Text) (args : List Text),
    behind others ≠ inside arg args
  | [], arg, args => by
    intro h
    have hlength := congrArg List.length h
    simp [inside] at hlength
  | other :: others, arg, args => by
    intro h
    rw [behind_cons] at h
    rcases inside_eq_cons h.symm with ⟨hquote, _⟩ | ⟨hbackslash, _⟩ | ⟨_, more, _, hmore⟩
    · exact absurd hquote (by decide)
    · exact absurd hbackslash (by decide)
    · -- the blank belongs to the argument, and the quote behind it ends it
      exact behind_ne_inside args other others (inside_eq_quote_cons hmore).2
termination_by others _ args => others.length + args.length

/-! ## Readings that agree -/

/-- Readings inside of an argument come out of it together, and have read the same. -/
theorem inside_eq_inside {arg arg' : Text} {args args' : List Text}
    (h : inside arg args = inside arg' args') : arg = arg' ∧ behind args = behind args' := by
  induction arg generalizing arg' with
  | nil =>
    obtain ⟨rfl, hbehind⟩ := inside_eq_quote_cons h.symm
    exact ⟨rfl, hbehind.symm⟩
  | cons c arg ih =>
    by_cases hc : c = '"'
    · subst hc
      rcases inside_eq_cons h.symm with ⟨hquote, _⟩ | ⟨_, more, rfl, hmore⟩ | ⟨_, more, _, hmore⟩
      · exact absurd hquote (by decide)
      · obtain ⟨rfl, hbehind⟩ := ih (List.cons.inj hmore).2.symm
        exact ⟨rfl, hbehind⟩
      · -- the backslash is one of the argument's own, and then the quote ends it
        exact absurd (inside_eq_quote_cons hmore).2 (behind_ne_inside _ _ _)
    · rw [inside_cons hc] at h
      rcases inside_eq_cons h.symm with ⟨hquote, _⟩ | ⟨_, more, _, hmore⟩ | ⟨_, more, rfl, hmore⟩
      · exact absurd hquote hc
      · exact absurd (inside_eq_quote_cons hmore.symm).2 (behind_ne_inside _ _ _)
      · obtain ⟨rfl, hbehind⟩ := ih hmore.symm
        exact ⟨rfl, hbehind⟩

/-- What is left of a line tells which arguments follow. -/
theorem behind_injective {args args' : List Text} (h : behind args = behind args') :
    args = args' := by
  induction args generalizing args' with
  | nil =>
    cases args' with
    | nil => rfl
    | cons arg' args' => exact absurd h (List.cons_ne_nil _ _).symm
  | cons arg args ih =>
    cases args' with
    | nil => exact absurd h (List.cons_ne_nil _ _)
    | cons arg' args' =>
      rw [behind_cons, behind_cons] at h
      obtain ⟨rfl, hbehind⟩ := inside_eq_inside (List.cons.inj (List.cons.inj h).2).2
      rw [ih hbehind]

/-- What the whole line tells as well. -/
theorem ofArguments_injective {args args' : List Text} (h : ofArguments args = ofArguments args') :
    args = args' := by
  cases args with
  | nil =>
    cases args' with
    | nil => rfl
    | cons arg' args' =>
      rw [ofArguments_cons] at h
      exact absurd h (List.cons_ne_nil _ _).symm
  | cons arg args =>
    cases args' with
    | nil =>
      rw [ofArguments_cons] at h
      exact absurd h (List.cons_ne_nil _ _)
    | cons arg' args' =>
      rw [ofArguments_cons, ofArguments_cons] at h
      refine behind_injective ?_
      rw [behind_cons, behind_cons, (List.cons.inj h).2]

/-- Two commands are one to the shell exactly if their arguments show the same texts. -/
theorem started_shell_eq_iff {command other : List Bytes} :
    Launch.started .shell command = Launch.started .shell other ↔
      command.map Utf8.decodeLossy = other.map Utf8.decodeLossy := by
  unfold Launch.started
  constructor
  · intro h
    have hline := (List.cons.inj (List.cons.inj (List.cons.inj h).2).2).1
    exact ofArguments_injective (Utf8.encode_injective hline)
  · intro h
    rw [h]

/-- **A line is the line of one list of arguments only**, and the shell is never started alike for
two lists. -/
theorem ofArguments_eq_iff (args others : List Text) :
    (ofArguments args = ofArguments others ↔ args = others) ∧
    (Launch.started .shell (args.map Utf8.encode) = Launch.started .shell (others.map Utf8.encode) ↔
      args = others) := by
  refine ⟨⟨ofArguments_injective, congrArg ofArguments⟩, ?_⟩
  have htexts (l : List Text) : (l.map Utf8.encode).map Utf8.decodeLossy = l := by
    rw [List.map_map]
    exact List.map_id'' Utf8.decodeLossy_encode l
  rw [started_shell_eq_iff, htexts, htexts]

-- as long as the line may go on, it may have been read in both ways
example :
    ofArguments ["\" ".toList] <+: ofArguments (["\\", " "].map String.toList) := by decide

end CommandLine

end JavacLauncher
