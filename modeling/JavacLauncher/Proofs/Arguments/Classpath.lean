import JavacLauncher.Arguments.Basic

/-!
# Class path flags and their values

`takeClasspath` looks one token ahead: a flag and the token after it leave together, and
everything else stays. Two equations say what it does with a token in front of others
(`takeClasspath_flag`, `takeClasspath_of_not_flag`), and everything here follows from them.

The one flag that can stay is one with nothing after it. So whatever the tokens were, what is
left of them holds no flag that still has a value (`flagsOnlyLast_takeClasspath`). That is the
reason why the compiler can never be handed a second class path behind the launcher's own.

What stands before a token decides what becomes of it through one thing only: whether a flag
without a value is left at the end (`Waits`). If none is, the tokens from there on are treated as
if they stood alone (`takeClasspath_append`), and so a token that is no flag stays exactly if no
flag waits for it (`mem_takeClasspath_iff`). If one is, it is the last of the tokens, so the next one
is its value and those after that are treated as if they stood alone (`takeClasspath_append_cons`).
-/

namespace JavacLauncher.Arguments

/-- A flag in front of another token takes it as its value, and a later value wins. -/
theorem takeClasspath_flag {flag : Bytes} (h : flag ∈ classpathFlags) (value : Bytes)
    (tokens : List Bytes) :
    takeClasspath (flag :: value :: tokens) =
      (some ((takeClasspath tokens).1.getD value), (takeClasspath tokens).2) := by
  rw [takeClasspath, if_pos h]

/-- Any other token stays in front of what is left of those after it. -/
theorem takeClasspath_of_not_flag {token : Bytes} (h : token ∉ classpathFlags)
    (tokens : List Bytes) :
    takeClasspath (token :: tokens) =
      ((takeClasspath tokens).1, token :: (takeClasspath tokens).2) := by
  cases tokens with
  | nil => rfl
  | cons next tokens => rw [takeClasspath, if_neg h]

/-- A class path flag among the tokens, if there is one, is the last of them. -/
def FlagsOnlyLast (tokens : List Bytes) : Prop :=
  ∀ before flag after, tokens = before ++ flag :: after → flag ∈ classpathFlags → after = []

theorem flagsOnlyLast_nil : FlagsOnlyLast [] := by
  intro before flag after h _
  exact absurd h (by simp)

theorem flagsOnlyLast_singleton (token : Bytes) : FlagsOnlyLast [token] := by
  intro before flag after h _
  have hlen : 1 = before.length + (after.length + 1) := by
    simpa using congrArg List.length h
  exact List.length_eq_zero_iff.mp (by omega)

theorem flagsOnlyLast_cons {token : Bytes} {tokens : List Bytes} (htoken : token ∉ classpathFlags)
    (h : FlagsOnlyLast tokens) : FlagsOnlyLast (token :: tokens) := by
  intro before flag after hsplit hflag
  cases before with
  | nil =>
    obtain ⟨rfl, _⟩ := List.cons.inj hsplit
    exact absurd hflag htoken
  | cons first before => exact h before flag after (List.cons.inj hsplit).2 hflag

/-- **No flag with a value is left.** By induction along the look-ahead: a flag stays only where
the tokens end. -/
theorem flagsOnlyLast_takeClasspath (tokens : List Bytes) :
    FlagsOnlyLast (takeClasspath tokens).2 := by
  induction tokens using takeClasspath.induct with
  | case1 => exact flagsOnlyLast_nil
  | case2 token => exact flagsOnlyLast_singleton token
  | case3 flag value tokens hflag _ _ _ ih =>
    rw [takeClasspath_flag hflag]
    exact ih
  | case4 token next tokens hflag _ _ _ ih =>
    rw [takeClasspath_of_not_flag hflag]
    exact flagsOnlyLast_cons hflag ih

/-! ## Flags that wait for a value -/

/-- A class path flag is the last token. -/
def EndsInFlag (tokens : List Bytes) : Prop := ∃ flag ∈ classpathFlags, tokens.getLast? = some flag

instance (tokens : List Bytes) : Decidable (EndsInFlag tokens) :=
  inferInstanceAs (Decidable (∃ flag ∈ classpathFlags, _))

/-- A flag is left at the end, and would take the next token as its value. -/
def Waits (tokens : List Bytes) : Prop := EndsInFlag (takeClasspath tokens).2

theorem not_waits_nil : ¬Waits [] := by
  rintro ⟨flag, _, hlast⟩
  cases hlast

theorem waits_singleton {flag : Bytes} (h : flag ∈ classpathFlags) : Waits [flag] := ⟨flag, h, rfl⟩

theorem waits_flag_iff {flag : Bytes} (h : flag ∈ classpathFlags) (value : Bytes)
    (tokens : List Bytes) : Waits (flag :: value :: tokens) ↔ Waits tokens := by
  unfold Waits
  rw [takeClasspath_flag h]

theorem waits_cons_iff {token : Bytes} (h : token ∉ classpathFlags) (tokens : List Bytes) :
    Waits (token :: tokens) ↔ Waits tokens := by
  unfold Waits EndsInFlag
  rw [takeClasspath_of_not_flag h, List.getLast?_cons]
  cases (takeClasspath tokens).2.getLast? with
  | none =>
    -- the token is the last one, and it is no flag
    simp only [Option.getD_none, Option.some.injEq, reduceCtorEq, and_false, exists_false, iff_false]
    rintro ⟨flag, hflag, rfl⟩
    exact h hflag
  | some last => rfl

/-- If no flag waits, what follows is treated as if it stood alone. -/
theorem takeClasspath_append {front : List Bytes} (h : ¬Waits front) (back : List Bytes) :
    takeClasspath (front ++ back) =
      ((takeClasspath back).1.or (takeClasspath front).1,
        (takeClasspath front).2 ++ (takeClasspath back).2) := by
  induction front using takeClasspath.induct with
  | case1 => simp [takeClasspath]
  | case2 token =>
    have hflag : token ∉ classpathFlags := fun hflag => h (waits_singleton hflag)
    rw [List.singleton_append, takeClasspath_of_not_flag hflag]
    simp [takeClasspath]
  | case3 flag value tokens hflag _ _ _ ih =>
    rw [waits_flag_iff hflag] at h
    rw [List.cons_append, List.cons_append, takeClasspath_flag hflag, takeClasspath_flag hflag, ih h]
    cases (takeClasspath back).1 <;> rfl
  | case4 token next tokens hflag _ _ _ ih =>
    rw [waits_cons_iff hflag] at h
    rw [List.cons_append, takeClasspath_of_not_flag hflag, takeClasspath_of_not_flag hflag, ih h]
    rfl

/-- A flag that waits is the last token, and none waits in front of it. -/
theorem exists_of_waits {tokens : List Bytes} (h : Waits tokens) :
    ∃ front flag, tokens = front ++ [flag] ∧ flag ∈ classpathFlags ∧ ¬Waits front := by
  induction tokens using takeClasspath.induct with
  | case1 => exact absurd h not_waits_nil
  | case2 token =>
    obtain ⟨flag, hflag, hlast⟩ := h
    obtain rfl := Option.some.inj hlast
    exact ⟨[], token, rfl, hflag, not_waits_nil⟩
  | case3 flag value tokens hflag _ _ _ ih =>
    rw [waits_flag_iff hflag] at h
    obtain ⟨front, last, rfl, hlast, hfront⟩ := ih h
    exact ⟨flag :: value :: front, last, rfl, hlast, by rwa [waits_flag_iff hflag]⟩
  | case4 token next tokens hflag _ _ _ ih =>
    rw [waits_cons_iff hflag] at h
    obtain ⟨front, last, hsplit, hlast, hfront⟩ := ih h
    exact ⟨token :: front, last, by rw [hsplit, List.cons_append], hlast,
      by rwa [waits_cons_iff hflag]⟩

/-- A flag that waits takes the token that follows, and what follows that one is treated as if it
stood alone. -/
theorem takeClasspath_append_cons {front left : List Bytes} {flag : Bytes}
    (hflag : flag ∈ classpathFlags) (h : (takeClasspath front).2 = left ++ [flag]) (value : Bytes)
    (back : List Bytes) :
    takeClasspath (front ++ value :: back) =
      (some ((takeClasspath back).1.getD value), left ++ (takeClasspath back).2) := by
  have hwaits : Waits front := ⟨flag, hflag, by rw [h, List.getLast?_concat]⟩
  obtain ⟨before, last, rfl, hlast, hbefore⟩ := exists_of_waits hwaits
  rw [takeClasspath_append hbefore] at h
  obtain ⟨rfl, _⟩ := List.append_inj' h rfl
  rw [List.append_assoc, List.singleton_append, takeClasspath_append hbefore,
    takeClasspath_flag hlast, Option.some_or]

/-- A flag that does not stand for a value itself, with a token behind it to be its value. -/
def HasPair (tokens : List Bytes) : Prop :=
  ∃ front flag value back, tokens = front ++ flag :: value :: back ∧ flag ∈ classpathFlags ∧
    ¬Waits front

/-- There is a value exactly if there is a pair. -/
theorem isSome_takeClasspath_iff {tokens : List Bytes} :
    (takeClasspath tokens).1.isSome = true ↔ HasPair tokens := by
  constructor
  · intro h
    induction tokens using takeClasspath.induct with
    | case1 => cases h
    | case2 token => cases h
    | case3 flag value tokens hflag _ _ _ _ =>
      exact ⟨[], flag, value, tokens, rfl, hflag, not_waits_nil⟩
    | case4 token next tokens hflag _ _ _ ih =>
      rw [takeClasspath_of_not_flag hflag] at h
      obtain ⟨front, flag, value, back, hsplit, hpair, hfront⟩ := ih h
      exact ⟨token :: front, flag, value, back, by rw [hsplit, List.cons_append], hpair,
        by rwa [waits_cons_iff hflag]⟩
  · rintro ⟨front, flag, value, back, rfl, hflag, hfront⟩
    rw [takeClasspath_append hfront, takeClasspath_flag hflag, Option.some_or]
    rfl

instance (tokens : List Bytes) : Decidable (HasPair tokens) :=
  decidable_of_iff _ isSome_takeClasspath_iff

/-- **A token that is no flag stays exactly if no flag waits for it.** -/
theorem mem_takeClasspath_iff {token : Bytes} (h : token ∉ classpathFlags) {tokens : List Bytes} :
    token ∈ (takeClasspath tokens).2 ↔
      ∃ front back, tokens = front ++ token :: back ∧ ¬Waits front := by
  constructor
  · intro hmem
    induction tokens using takeClasspath.induct with
    | case1 => cases hmem
    | case2 first =>
      obtain rfl := List.mem_singleton.mp hmem
      exact ⟨[], [], rfl, not_waits_nil⟩
    | case3 flag value tokens hflag _ _ _ ih =>
      rw [takeClasspath_flag hflag] at hmem
      obtain ⟨front, back, rfl, hwaits⟩ := ih hmem
      exact ⟨flag :: value :: front, back, rfl, by rwa [waits_flag_iff hflag]⟩
    | case4 first next tokens hflag _ _ _ ih =>
      rw [takeClasspath_of_not_flag hflag] at hmem
      rcases List.mem_cons.mp hmem with rfl | hmem
      · exact ⟨[], next :: tokens, rfl, not_waits_nil⟩
      · obtain ⟨front, back, hsplit, hwaits⟩ := ih hmem
        exact ⟨first :: front, back, by rw [hsplit, List.cons_append], by rwa [waits_cons_iff hflag]⟩
  · rintro ⟨front, back, rfl, hwaits⟩
    rw [takeClasspath_append hwaits, takeClasspath_of_not_flag h]
    exact List.mem_append_right _ List.mem_cons_self

end JavacLauncher.Arguments
