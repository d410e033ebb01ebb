import JavacLauncher.Proofs.Arguments.Insertion
import JavacLauncher.Proofs.Arguments.LineBreak

/-!
# Where two lists of arguments meet

Arguments are often put together from parts: a file of options, a script's own ones, then the user's.
What the launcher makes of the whole is what it makes of the parts, one after the other, as long as no
class path flag is left without a value at the end of a part. The entries for the boot class path and
the options for the runtime come token by token in any case, and of two class paths the later one wins,
unless it is only the default that every list without a flag falls back to.

A flag at the end of the first part changes the meaning of one token of the second: the first one that
no rule recognises is its value, however many tokens of the rules stand before it. What follows the
value is treated as if it stood alone (`takeClasspath_append_cons`). These are all the cases there are
(`ofTokens_append`).
-/

namespace JavacLauncher.Arguments

variable (inherited? : Option Bytes)

/-- What tokens make of the class path that stands before them: theirs is the last word if they have
a pair. -/
theorem elim_or_takeClasspath (tokens : List Bytes) (earlier? : Option Bytes) :
    ((takeClasspath (plainTokens tokens)).1.or earlier?).elim (defaultClasspath inherited?) ([·]) =
      if HasPair (plainTokens tokens) then (ofTokens inherited? tokens).classpath
      else earlier?.elim (defaultClasspath inherited?) ([·]) := by
  rw [ofTokens_eq]
  dsimp only
  by_cases hpair : HasPair (plainTokens tokens)
  · obtain ⟨value, hvalue⟩ := Option.isSome_iff_exists.mp (isSome_takeClasspath_iff.mpr hpair)
    rw [if_pos hpair, hvalue, Option.some_or]
  · have hnone : (takeClasspath (plainTokens tokens)).1 = none := by
      rwa [← Option.not_isSome_iff_eq_none, isSome_takeClasspath_iff]
    rw [if_neg hpair, hnone, Option.none_or]

/-- Where no flag is left without a value, the second part is treated as if it stood alone. -/
theorem ofTokens_append_of_not_endsInFlag {front : List Bytes}
    (h : ¬EndsInFlag (ofTokens inherited? front).toolOptions) (back : List Bytes) :
    (ofTokens inherited? (front ++ back)).classpath =
        (if HasPair (plainTokens back) then (ofTokens inherited? back).classpath
          else (ofTokens inherited? front).classpath) ∧
      (ofTokens inherited? (front ++ back)).toolOptions =
        (ofTokens inherited? front).toolOptions ++ (ofTokens inherited? back).toolOptions := by
  have hwaits : ¬Waits (plainTokens front) := by rwa [ofTokens_eq] at h
  constructor
  · rw [ofTokens_eq inherited? (front ++ back), plainTokens_append, takeClasspath_append hwaits]
    dsimp only
    rw [elim_or_takeClasspath, ofTokens_eq inherited? front]
  · simp only [ofTokens_eq, plainTokens_append, takeClasspath_append hwaits]

/-- Tokens that a rule recognises are no tokens to the class path flags. -/
theorem plainTokens_eq_nil_iff {tokens : List Bytes} :
    plainTokens tokens = [] ↔ ∀ token ∈ tokens, ¬Unrecognised token := by
  unfold plainTokens
  simp only [List.filter_eq_nil_iff, decide_eq_true_eq, unrecognised_iff]

/-- Where a flag is left without a value, the first token that no rule recognises is its value. -/
theorem ofTokens_append_of_flag {front left : List Bytes} {flag : Bytes}
    (hflag : flag ∈ classpathFlags) (h : (ofTokens inherited? front).toolOptions = left ++ [flag])
    {skipped : List Bytes} (hskipped : ∀ token ∈ skipped, ¬Unrecognised token) {value : Bytes}
    (hvalue : Unrecognised value) (rest : List Bytes) :
    (ofTokens inherited? (front ++ (skipped ++ value :: rest))).classpath =
        (if HasPair (plainTokens rest) then (ofTokens inherited? rest).classpath else [value]) ∧
      (ofTokens inherited? (front ++ (skipped ++ value :: rest))).toolOptions =
        left ++ (ofTokens inherited? rest).toolOptions := by
  have hplain : plainTokens (front ++ (skipped ++ value :: rest)) =
      plainTokens front ++ value :: plainTokens rest := by
    rw [plainTokens_append, plainTokens_append, plainTokens_eq_nil_iff.mpr hskipped, plainTokens_cons,
      if_pos (unrecognised_iff.mp hvalue), List.nil_append]
  rw [ofTokens_eq] at h
  have htake := takeClasspath_append_cons hflag h value (plainTokens rest)
  constructor
  · rw [ofTokens_eq, hplain, htake, ← Option.or_some]
    dsimp only
    rw [elim_or_takeClasspath]
    rfl
  · rw [ofTokens_eq, hplain, htake, ofTokens_eq]

/-- **The arguments of two lists in a row**, by what the first one leaves at its end. -/
theorem ofTokens_append (front back : List Bytes) :
    (ofTokens inherited? (front ++ back)).bootClasspath =
      (ofTokens inherited? front).bootClasspath ++ (ofTokens inherited? back).bootClasspath ∧
    (ofTokens inherited? (front ++ back)).jvmOptions =
      (ofTokens inherited? front).jvmOptions ++ (ofTokens inherited? back).jvmOptions ∧
    (¬EndsInFlag (ofTokens inherited? front).toolOptions →
      (ofTokens inherited? (front ++ back)).classpath =
        (if HasPair (plainTokens back) then (ofTokens inherited? back).classpath
          else (ofTokens inherited? front).classpath) ∧
      (ofTokens inherited? (front ++ back)).toolOptions =
        (ofTokens inherited? front).toolOptions ++ (ofTokens inherited? back).toolOptions) ∧
    ∀ left flag, flag ∈ classpathFlags →
      (ofTokens inherited? front).toolOptions = left ++ [flag] →
      (∀ skipped value rest, back = skipped ++ value :: rest →
        (∀ token ∈ skipped, ¬Unrecognised token) → Unrecognised value →
        (ofTokens inherited? (front ++ back)).classpath =
          (if HasPair (plainTokens rest) then (ofTokens inherited? rest).classpath else [value]) ∧
        (ofTokens inherited? (front ++ back)).toolOptions =
          left ++ (ofTokens inherited? rest).toolOptions) ∧
      ((∀ token ∈ back, ¬Unrecognised token) →
        (ofTokens inherited? (front ++ back)).classpath = (ofTokens inherited? front).classpath ∧
        (ofTokens inherited? (front ++ back)).toolOptions =
          (ofTokens inherited? front).toolOptions) := by
  refine ⟨bootClasspath_append inherited? front back, jvmOptions_append inherited? front back,
    fun h => ofTokens_append_of_not_endsInFlag inherited? h back, ?_⟩
  intro left flag hflag h
  constructor
  · rintro skipped value rest rfl hskipped hvalue
    exact ofTokens_append_of_flag inherited? hflag h hskipped hvalue rest
  · intro hback
    simp only [ofTokens_eq, plainTokens_append, plainTokens_eq_nil_iff.mpr hback, List.append_nil,
      and_self]

/-- A first part whose flag has its value, and a first part whose flag takes another flag for it from
behind two tokens of the rules. -/
theorem ofTokens_append_flagAsValue :
    let paired := ["-cp", "a.jar", "A.java"].map Bytes.ofString
    let dangling := ["A.java", "-cp"].map Bytes.ofString
    let skipped := ["-J-ea", "-Xbootclasspath/p:x.jar"].map Bytes.ofString
    let value := Bytes.ofString "-classpath"
    let rest := ["B.java", "-cp", "c.jar"].map Bytes.ofString
    ¬EndsInFlag (ofTokens none paired).toolOptions ∧
    ¬HasPair (plainTokens (skipped ++ [value])) ∧
    (ofTokens none (paired ++ (skipped ++ [value]))).classpath = [Bytes.ofString "a.jar"] ∧
    (ofTokens none (paired ++ (skipped ++ [value]))).toolOptions =
      ["A.java", "-classpath"].map Bytes.ofString ∧
    (∀ token ∈ skipped, ¬Unrecognised token) ∧ Unrecognised value ∧
    (ofTokens none (dangling ++ skipped)).classpath = [Bytes.ofString "."] ∧
    (ofTokens none (dangling ++ (skipped ++ value :: rest))).classpath = [Bytes.ofString "c.jar"] ∧
    (ofTokens none (dangling ++ (skipped ++ value :: rest))).toolOptions =
      ["A.java", "B.java"].map Bytes.ofString := by
  intro paired dangling skipped value rest
  have hpaired : ¬EndsInFlag (ofTokens none paired).toolOptions := by decide
  have hnone : ¬HasPair (plainTokens (skipped ++ [value])) := by decide
  have hskipped : ∀ token ∈ skipped, ¬Unrecognised token := by decide
  have hvalue : Unrecognised value := by decide
  have hflag : Bytes.ofString "-cp" ∈ classpathFlags := by decide
  have hdangling : (ofTokens none dangling).toolOptions =
      [Bytes.ofString "A.java"] ++ [Bytes.ofString "-cp"] := by decide
  have hrest : HasPair (plainTokens rest) := by decide
  obtain ⟨hclasspath, htool⟩ := (ofTokens_append none paired (skipped ++ [value])).2.2.1 hpaired
  obtain ⟨hclasspath', htool'⟩ := ((ofTokens_append none dangling
    (skipped ++ value :: rest)).2.2.2 _ _ hflag hdangling).1 _ _ _ rfl hskipped hvalue
  obtain ⟨hsame, _⟩ :=
    ((ofTokens_append none dangling skipped).2.2.2 _ _ hflag hdangling).2 hskipped
  rw [if_neg hnone] at hclasspath
  rw [if_pos hrest] at hclasspath'
  refine ⟨hpaired, hnone, hclasspath.trans ?_, htool.trans ?_, hskipped, hvalue, hsame.trans ?_,
    hclasspath'.trans ?_, htool'.trans ?_⟩ <;> decide

end JavacLauncher.Arguments
