import JavacLauncher.Arguments.Basic

/-!
# What the rules take and what they leave

A rule walks over the tokens once, and what it takes and what it leaves can each be said
without the walk: the tokens it does not recognise stay, in order (`remainder_extract`),
and the captured texts come out, in order, unless they are empty (`matched_extract`).

The launcher's two rules recognise a token by the text it begins with. `bootText?` and
`jvmText?` give what follows that text, before it is trimmed. They say what a token is
to the launcher without mention of a rule or of the order in which the rules are used.
-/

namespace JavacLauncher

namespace Rule

/-- A rule leaves the tokens that it does not recognise. -/
theorem remainder_extract (r : Rule) (tokens : List Bytes) :
    (r.extract tokens).remainder = tokens.filter fun token => (r.capture? token).isNone := by
  induction tokens with
  | nil => rfl
  | cons token tokens ih =>
    rw [extract, List.filter_cons]
    cases hcap : r.capture? token with
    | none =>
      dsimp only
      rw [ih]
      rfl
    | some captured =>
      dsimp only
      split <;> exact ih

/-- A rule takes the captured texts, and the empty ones only if they count. -/
theorem matched_extract (r : Rule) (tokens : List Bytes) :
    (r.extract tokens).matched =
      (tokens.filterMap r.capture?).filter fun captured => captured ≠ [] ∨ r.allowEmpty := by
  induction tokens with
  | nil => rfl
  | cons token tokens ih =>
    rw [extract, List.filterMap_cons]
    cases hcap : r.capture? token with
    | none => exact ih
    | some captured =>
      dsimp only
      rw [List.filter_cons]
      by_cases hkeep : captured ≠ [] ∨ r.allowEmpty
      · rw [if_pos hkeep, if_pos (decide_eq_true hkeep), ← ih]
      · rw [if_neg hkeep, if_neg (by rwa [decide_eq_true_eq]), ← ih]

end Rule

namespace Arguments

/-! ## Tokens that begin with an option -/

/-- What follows `start` in a token that is one line of text. -/
def optionText? (start : Text) (token : Bytes) : Option Text :=
  ((Utf8.decode? token).bind (after? start)).filter fun rest => '\n' ∉ rest

theorem optionText?_eq_some_iff {start rest : Text} {token : Bytes} :
    optionText? start token = some rest ↔ token = Utf8.encode (start ++ rest) ∧ '\n' ∉ rest := by
  unfold optionText?
  simp only [Option.filter_eq_some_iff, Option.bind_eq_some_iff, after?_eq_some_iff,
    Utf8.decode?_eq_some_iff, decide_eq_true_eq]
  constructor
  · rintro ⟨⟨t, rfl, rfl⟩, hline⟩
    exact ⟨rfl, hline⟩
  · rintro ⟨rfl, hline⟩
    exact ⟨⟨_, rfl, rfl⟩, hline⟩

/-- The entry for the boot class path in a token, as it stands there. -/
def bootText? (token : Bytes) : Option Text :=
  (optionText? "-Xbootclasspath/p:".toList token).or
    (optionText? "-J-Xbootclasspath/p:".toList token)

/-- The text behind the mark of runtime options, as it stands there. -/
def jvmText? (token : Bytes) : Option Text := optionText? "-J".toList token

/-- No text begins with both the mark of runtime options and the boot class path option. -/
theorem mark_ne_bootOption (s t : Text) :
    "-J".toList ++ s ≠ "-Xbootclasspath/p:".toList ++ t := by
  intro h
  have hsecond : some 'J' = some 'X' := congrArg (·[1]?) h
  exact absurd hsecond (by decide)

/-- No text begins with both spellings of the boot class path option. -/
theorem bootSpellings_disjoint (s t : Text) :
    "-J-Xbootclasspath/p:".toList ++ s ≠ "-Xbootclasspath/p:".toList ++ t :=
  mark_ne_bootOption ("-Xbootclasspath/p:".toList ++ s) t

theorem bootText?_eq_some_iff {token : Bytes} {entry : Text} :
    bootText? token = some entry ↔ '\n' ∉ entry ∧
      (token = Utf8.encode ("-Xbootclasspath/p:".toList ++ entry) ∨
        token = Utf8.encode ("-J-Xbootclasspath/p:".toList ++ entry)) := by
  unfold bootText?
  rw [Option.or_eq_some_iff, optionText?_eq_some_iff, optionText?_eq_some_iff]
  constructor
  · rintro (⟨h, hline⟩ | ⟨_, h, hline⟩)
    · exact ⟨hline, Or.inl h⟩
    · exact ⟨hline, Or.inr h⟩
  · rintro ⟨hline, h | h⟩
    · exact Or.inl ⟨h, hline⟩
    · refine Or.inr ⟨?_, h, hline⟩
      rw [Option.eq_none_iff_forall_ne_some]
      intro other hother
      rw [optionText?_eq_some_iff, h] at hother
      exact bootSpellings_disjoint entry other (Utf8.encode_injective hother.1)

/-! ## The launcher's rules -/

/-- What a rule for beginnings captures: the rest of the line after the first one that fits. -/
theorem capture?_beginning (starts : List Text) (keep : Bool) (token : Bytes) :
    Rule.capture? ⟨.beginning starts, keep⟩ token =
      (((Utf8.decode? token).bind fun t => starts.findSome? (after? · t)).filter
        fun rest => '\n' ∉ rest).map Text.trim := by
  unfold Rule.capture? Pattern.beginning
  cases Utf8.decode? token with
  | none => rfl
  | some t =>
    rw [Option.bind_some]
    cases hrest : starts.findSome? (after? · t) with
    | none => simp [hrest]
    | some rest => by_cases hline : '\n' ∈ rest <;> simp [hrest, hline, Option.filter_some]

/-- Two beginnings that exclude each other may be looked for one by one, in either order. -/
theorem optionText?_or {first second : Text} (h : ∀ s t, first ++ s ≠ second ++ t) (token : Bytes) :
    (optionText? second token).or (optionText? first token) =
      ((Utf8.decode? token).bind fun t => [first, second].findSome? (after? · t)).filter
        fun rest => '\n' ∉ rest := by
  unfold optionText?
  cases Utf8.decode? token with
  | none => rfl
  | some t =>
    simp only [Option.bind_some, List.findSome?_cons, List.findSome?_nil]
    cases hfirst : after? first t with
    | none => cases after? second t <;> simp
    | some rest =>
      have hsecond : after? second t = none := by
        rw [Option.eq_none_iff_forall_ne_some]
        intro other hother
        rw [after?_eq_some_iff] at hfirst hother
        exact h rest other (hfirst.symm.trans hother)
      rw [hsecond]
      rfl

/-- The rule for the boot class path captures the entry of a token, trimmed. -/
theorem capture?_bootRule (token : Bytes) :
    bootRule.capture? token = (bootText? token).map Text.trim := by
  unfold bootRule bootText?
  rw [capture?_beginning, optionText?_or bootSpellings_disjoint]

/-- The rule for runtime options captures the text behind the mark, trimmed. -/
theorem capture?_jvmRule (token : Bytes) :
    jvmRule.capture? token = (jvmText? token).map Text.trim := by
  unfold jvmRule jvmText? optionText?
  rw [capture?_beginning]
  cases Utf8.decode? token with
  | none => rfl
  | some t => rw [Option.bind_some, List.findSome?_singleton, Option.bind_some]

/-! ## Kinds of tokens -/

/-- What a token is to the launcher. -/
inductive Kind where
  /-- An entry for the boot class path. -/
  | boot (entry : Text)
  /-- An option for the runtime. -/
  | runtime (option : Text)
  /-- Neither: a class path flag, its value, or an argument of the compiler. -/
  | plain
  deriving DecidableEq, Repr

/-- The kind of a token. An entry for the boot class path is no option for the runtime. -/
def kind (token : Bytes) : Kind :=
  match bootText? token with
  | some entry => .boot entry
  | none =>
    match jvmText? token with
    | some option => .runtime option
    | none => .plain

/-- The entry of a token of the first kind. -/
def Kind.boot? : Kind → Option Text
  | .boot entry => some entry
  | _ => none

/-- The option of a token of the second kind. -/
def Kind.runtime? : Kind → Option Text
  | .runtime option => some option
  | _ => none

theorem Kind.runtime?_eq_some_iff {k : Kind} {option : Text} :
    k.runtime? = some option ↔ k = .runtime option := by
  cases k <;> simp [Kind.runtime?]

theorem kind_eq_boot_iff {token : Bytes} {entry : Text} :
    kind token = .boot entry ↔ '\n' ∉ entry ∧
      (token = Utf8.encode ("-Xbootclasspath/p:".toList ++ entry) ∨
        token = Utf8.encode ("-J-Xbootclasspath/p:".toList ++ entry)) := by
  rw [← bootText?_eq_some_iff]
  unfold kind
  split
  · rename_i found hfound
    rw [hfound, Kind.boot.injEq, Option.some.injEq]
  · rename_i hnone
    rw [hnone]
    split <;> simp

theorem kind_eq_runtime_iff_reads {token : Bytes} {option : Text} :
    kind token = .runtime option ↔ bootText? token = none ∧ jvmText? token = some option := by
  unfold kind
  cases bootText? token with
  | some entry => simp
  | none => cases jvmText? token <;> simp

/-- A runtime option is marked and on one line, and is no entry for the boot class path. -/
theorem kind_eq_runtime_iff {token : Bytes} {option : Text} :
    kind token = .runtime option ↔ '\n' ∉ option ∧ token = Utf8.encode ("-J".toList ++ option) ∧
      ¬"-Xbootclasspath/p:".toList <+: option := by
  have hmark : "-J-Xbootclasspath/p:".toList = "-J".toList ++ "-Xbootclasspath/p:".toList := rfl
  rw [kind_eq_runtime_iff_reads, jvmText?, optionText?_eq_some_iff]
  constructor
  · rintro ⟨hboot, htoken, hline⟩
    refine ⟨hline, htoken, ?_⟩
    rintro ⟨entry, rfl⟩
    have hentry : bootText? token = some entry := by
      rw [bootText?_eq_some_iff, hmark, List.append_assoc]
      exact ⟨fun h => hline (List.mem_append_right _ h), Or.inr htoken⟩
    rw [hboot] at hentry
    exact absurd hentry (by simp)
  · rintro ⟨hline, htoken, hprefix⟩
    refine ⟨?_, htoken, hline⟩
    rw [Option.eq_none_iff_forall_ne_some]
    intro entry hentry
    rw [bootText?_eq_some_iff, htoken, hmark, List.append_assoc] at hentry
    rcases hentry.2 with h | h
    · exact mark_ne_bootOption option entry (Utf8.encode_injective h)
    · have hoption := List.append_cancel_left (Utf8.encode_injective h)
      exact hprefix ⟨entry, hoption.symm⟩

/-- A captured text as it is kept: trimmed, and not at all if nothing is left. -/
def kept (captured : Text) : List Text := if captured.trim = [] then [] else [captured.trim]

theorem mem_kept {captured t : Text} : t ∈ kept captured ↔ t = captured.trim ∧ t ≠ [] := by
  unfold kept
  by_cases h : captured.trim = []
  · rw [if_pos h]
    refine ⟨fun ht => absurd ht List.not_mem_nil, ?_⟩
    rintro ⟨rfl, hne⟩
    exact absurd h hne
  · rw [if_neg h, List.mem_singleton]
    refine ⟨?_, fun ht => ht.1⟩
    rintro rfl
    exact ⟨rfl, h⟩

/-! ## The passes by kinds -/

/-- What a rule takes that captures what `read` reads and drops empty captures. -/
theorem matched_extract_of_reads {r : Rule} {read : Bytes → Option Text}
    (hread : ∀ token, r.capture? token = (read token).map Text.trim) (hempty : r.allowEmpty = false)
    (tokens : List Bytes) : (r.extract tokens).matched = (tokens.filterMap read).flatMap kept := by
  rw [Rule.matched_extract]
  induction tokens with
  | nil => rfl
  | cons token tokens ih =>
    rw [List.filterMap_cons, List.filterMap_cons, hread]
    cases read token with
    | none => exact ih
    | some captured =>
      rw [Option.map_some, List.filter_cons, List.flatMap_cons, ← ih, hempty]
      unfold kept
      by_cases h : captured.trim = [] <;> simp [h]

/-- The entries for the boot class path among the tokens, as they stand there. -/
def bootEntries (tokens : List Bytes) : List Text := tokens.filterMap fun token => (kind token).boot?

/-- The runtime options among the tokens, as they stand there. -/
def runtimeOptions (tokens : List Bytes) : List Text :=
  tokens.filterMap fun token => (kind token).runtime?

/-- The tokens that no rule takes. -/
def plainTokens (tokens : List Bytes) : List Bytes := tokens.filter fun token => kind token = .plain

theorem bootEntries_cons (token : Bytes) (tokens : List Bytes) :
    bootEntries (token :: tokens) = (kind token).boot?.toList ++ bootEntries tokens := by
  unfold bootEntries
  rw [List.filterMap_cons]
  cases (kind token).boot? <;> rfl

theorem runtimeOptions_cons (token : Bytes) (tokens : List Bytes) :
    runtimeOptions (token :: tokens) = (kind token).runtime?.toList ++ runtimeOptions tokens := by
  unfold runtimeOptions
  rw [List.filterMap_cons]
  cases (kind token).runtime? <;> rfl

theorem mem_runtimeOptions {tokens : List Bytes} {option : Text} :
    option ∈ runtimeOptions tokens ↔ ∃ token ∈ tokens, kind token = .runtime option := by
  unfold runtimeOptions
  simp only [List.mem_filterMap, Kind.runtime?_eq_some_iff]

theorem plainTokens_cons (token : Bytes) (tokens : List Bytes) :
    plainTokens (token :: tokens) =
      if kind token = .plain then token :: plainTokens tokens else plainTokens tokens := by
  unfold plainTokens
  rw [List.filter_cons]
  simp only [decide_eq_true_eq]

theorem bootEntries_append (front back : List Bytes) :
    bootEntries (front ++ back) = bootEntries front ++ bootEntries back := List.filterMap_append

theorem runtimeOptions_append (front back : List Bytes) :
    runtimeOptions (front ++ back) = runtimeOptions front ++ runtimeOptions back :=
  List.filterMap_append

theorem plainTokens_append (front back : List Bytes) :
    plainTokens (front ++ back) = plainTokens front ++ plainTokens back :=
  List.filter_append front back

theorem boot?_kind (token : Bytes) : (kind token).boot? = bootText? token := by
  unfold kind
  cases bootText? token with
  | some entry => rfl
  | none => cases jvmText? token <;> rfl

theorem runtime?_kind (token : Bytes) :
    (kind token).runtime? = if (bootText? token).isNone then jvmText? token else none := by
  unfold kind
  cases bootText? token with
  | some entry => rfl
  | none => cases jvmText? token <;> rfl

theorem kind_eq_plain_iff (token : Bytes) :
    kind token = .plain ↔ jvmText? token = none ∧ bootText? token = none := by
  unfold kind
  cases bootText? token with
  | some entry => simp
  | none => cases jvmText? token <;> simp

/-- A token that neither rule recognises. -/
def Unrecognised (token : Bytes) : Prop :=
  bootRule.capture? token = none ∧ jvmRule.capture? token = none

instance (token : Bytes) : Decidable (Unrecognised token) := inferInstanceAs (Decidable (_ ∧ _))

theorem unrecognised_iff {token : Bytes} : Unrecognised token ↔ kind token = .plain := by
  unfold Unrecognised
  rw [kind_eq_plain_iff, capture?_bootRule, capture?_jvmRule, Option.map_eq_none_iff,
    Option.map_eq_none_iff, and_comm]

/-- What the rule for the boot class path recognises is of the first kind. -/
theorem kind_of_capture?_bootRule {token : Bytes} {captured : Text}
    (h : bootRule.capture? token = some captured) :
    ∃ entry, kind token = .boot entry ∧ entry.trim = captured := by
  rw [capture?_bootRule] at h
  obtain ⟨entry, hentry, htrim⟩ := Option.map_eq_some_iff.mp h
  exact ⟨entry, kind_eq_boot_iff.mpr (bootText?_eq_some_iff.mp hentry), htrim⟩

/-- What only the rule for runtime options recognises is of the second kind. -/
theorem kind_of_capture?_jvmRule {token : Bytes} {captured : Text}
    (hboot : bootRule.capture? token = none) (h : jvmRule.capture? token = some captured) :
    ∃ option, kind token = .runtime option ∧ option.trim = captured := by
  rw [capture?_bootRule, Option.map_eq_none_iff] at hboot
  rw [capture?_jvmRule] at h
  obtain ⟨option, hoption, htrim⟩ := Option.map_eq_some_iff.mp h
  exact ⟨option, kind_eq_runtime_iff_reads.mpr ⟨hboot, hoption⟩, htrim⟩

theorem matched_extractBoot (tokens : List Bytes) :
    (extractBoot tokens).matched = (bootEntries tokens).flatMap kept := by
  unfold extractBoot bootEntries
  rw [matched_extract_of_reads capture?_bootRule rfl]
  simp only [boot?_kind]

theorem remainder_extractBoot (tokens : List Bytes) :
    (extractBoot tokens).remainder = tokens.filter fun token => (bootText? token).isNone := by
  unfold extractBoot
  rw [Rule.remainder_extract]
  simp only [capture?_bootRule, Option.isNone_map]

/-- The second pass takes the runtime options, for the first has taken what they might hide. -/
theorem matched_extractJvm (tokens : List Bytes) :
    (extractJvm (extractBoot tokens).remainder).matched = (runtimeOptions tokens).flatMap kept := by
  unfold extractJvm runtimeOptions
  rw [matched_extract_of_reads capture?_jvmRule rfl, remainder_extractBoot, List.filterMap_filter]
  simp only [runtime?_kind]

/-- What both passes leave. -/
theorem remainder_extractJvm (tokens : List Bytes) :
    (extractJvm (extractBoot tokens).remainder).remainder = plainTokens tokens := by
  unfold extractJvm plainTokens
  rw [Rule.remainder_extract, remainder_extractBoot, List.filter_filter]
  refine List.filter_congr fun token _ => ?_
  rw [capture?_jvmRule, Option.isNone_map, Bool.eq_iff_iff, Bool.and_eq_true, Option.isNone_iff_eq_none,
    Option.isNone_iff_eq_none, decide_eq_true_eq, kind_eq_plain_iff]

/-- **The arguments in closed form.** Three passes come to two selections and the class path
flags among the tokens that no rule takes. -/
theorem ofTokens_eq (inherited? : Option Bytes) (tokens : List Bytes) :
    ofTokens inherited? tokens =
      { bootClasspath := (bootEntries tokens).flatMap kept
        jvmOptions := (runtimeOptions tokens).flatMap kept
        classpath :=
          (takeClasspath (plainTokens tokens)).1.elim (defaultClasspath inherited?) ([·])
        toolOptions := (takeClasspath (plainTokens tokens)).2 } := by
  unfold ofTokens extractClasspath
  dsimp only
  rw [matched_extractBoot, matched_extractJvm, remainder_extractJvm]

end Arguments

end JavacLauncher
