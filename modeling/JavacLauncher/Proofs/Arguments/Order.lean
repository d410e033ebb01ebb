import JavacLauncher.Proofs.Arguments.Session
import JavacLauncher.Proofs.Text.Trim
import Mathlib.Data.List.Chain
import Mathlib.Data.List.Induction

/-!
# The order of the extractions

The launcher looks for entries of the boot class path first, then for runtime options, then for the
class path. Would another order do?

The class path is the delicate one, because it looks one token ahead. A token of the rules behind a
flag would be its value if it were still there. Where no flag stands directly in front of such a token,
taking the rules' tokens away changes nothing in what the flags see (`takeClasspath_filter`). What any
steps leave can then be said without their order (`inOrder_closed`).

The two rules overlap in the marked entries for the boot class path, and the first one to look takes
them. Nothing else depends on which of them it is (`orders_agree`).
-/

namespace JavacLauncher.Arguments

/-! ## Steps in an order -/

/-- Makes an extraction on the tokens that are left, and puts what it takes in its place. -/
def Step.take (inherited? : Option Bytes) (a : Arguments) : Step → Arguments
  | boot =>
    let e := extractBoot a.toolOptions
    { a with bootClasspath := e.matched, toolOptions := e.remainder }
  | jvm =>
    let e := extractJvm a.toolOptions
    { a with jvmOptions := e.matched, toolOptions := e.remainder }
  | classpath =>
    let e := extractClasspath inherited? a.toolOptions
    { a with classpath := e.matched, toolOptions := e.remainder }

/-- The arguments that steps make of `tokens`, each on what the one before it has left. -/
def inOrder (inherited? : Option Bytes) (steps : List Step) (tokens : List Bytes) : Arguments :=
  steps.foldl (Step.take inherited?) ⟨[], [], [], tokens⟩

theorem inOrder_concat (inherited? : Option Bytes) (steps : List Step) (step : Step)
    (tokens : List Bytes) : inOrder inherited? (steps ++ [step]) tokens =
      step.take inherited? (inOrder inherited? steps tokens) := List.foldl_concat _ _ _ _

/-- The order of the launcher. -/
theorem inOrder_eq_ofTokens (inherited? : Option Bytes) (tokens : List Bytes) :
    inOrder inherited? [.boot, .jvm, .classpath] tokens = ofTokens inherited? tokens := rfl

/-! ## Class path flags among tokens that are taken away -/

/-- No class path flag stands directly in front of a token that a rule recognises. -/
def ValuesBehindFlags (tokens : List Bytes) : Prop :=
  tokens.IsChain fun flag next => flag ∈ classpathFlags →
    bootRule.capture? next = none ∧ jvmRule.capture? next = none

instance (tokens : List Bytes) : Decidable (ValuesBehindFlags tokens) :=
  inferInstanceAs (Decidable (tokens.IsChain _))

/-- Tokens may go beforehand if none of them is a flag or stands directly behind one. -/
theorem takeClasspath_filter {keep : Bytes → Bool} (hflags : ∀ flag ∈ classpathFlags, keep flag = true)
    {tokens : List Bytes}
    (h : tokens.IsChain fun flag next => flag ∈ classpathFlags → keep next = true) :
    takeClasspath (tokens.filter keep) =
      ((takeClasspath tokens).1, (takeClasspath tokens).2.filter keep) := by
  induction tokens using takeClasspath.induct with
  | case1 => rfl
  | case2 token =>
    by_cases hkeep : keep token = true
    · rw [List.filter_cons_of_pos hkeep]
      simp [takeClasspath, hkeep]
    · rw [List.filter_cons_of_neg hkeep]
      simp [takeClasspath, hkeep]
  | case3 flag value tokens hflag _ _ _ ih =>
    -- the pair stays together: a flag is kept, and so is the token behind it
    obtain ⟨hvalue, hrest⟩ := List.isChain_cons_cons.mp h
    rw [List.filter_cons_of_pos (hflags flag hflag), List.filter_cons_of_pos (hvalue hflag),
      takeClasspath_flag hflag, takeClasspath_flag hflag, ih hrest.tail]
  | case4 token next tokens hflag _ _ _ ih =>
    have hrest := (List.isChain_cons_cons.mp h).2
    rw [takeClasspath_of_not_flag hflag]
    by_cases hkeep : keep token = true
    · rw [List.filter_cons_of_pos hkeep, takeClasspath_of_not_flag hflag, ih hrest,
        List.filter_cons_of_pos hkeep]
    · rw [List.filter_cons_of_neg hkeep, ih hrest, List.filter_cons_of_neg hkeep]

/-! ## What steps leave -/

/-- Whether a token is none of those that a step takes one by one. -/
def Step.leaves : Step → Bytes → Bool
  | boot, token => (bootRule.capture? token).isNone
  | jvm, token => (jvmRule.capture? token).isNone
  | classpath, _ => true

theorem Step.leaves_of_flag {flag : Bytes} (h : flag ∈ classpathFlags) (step : Step) :
    step.leaves flag = true := by
  have hall : ∀ flag ∈ classpathFlags,
      boot.leaves flag = true ∧ jvm.leaves flag = true ∧ classpath.leaves flag = true := by decide
  obtain ⟨hboot, hjvm, hclasspath⟩ := hall flag h
  cases step with
  | boot => exact hboot
  | jvm => exact hjvm
  | classpath => exact hclasspath

theorem Step.leaves_of_values {tokens : List Bytes} (h : ValuesBehindFlags tokens)
    (steps : List Step) : tokens.IsChain fun flag next => flag ∈ classpathFlags →
      steps.all (·.leaves next) = true := by
  refine h.imp fun flag next hvalue hflag => List.all_eq_true.mpr fun step _ => ?_
  obtain ⟨hboot, hjvm⟩ := hvalue hflag
  cases step with
  | boot => exact Option.isNone_iff_eq_none.mpr hboot
  | jvm => exact Option.isNone_iff_eq_none.mpr hjvm
  | classpath => rfl

/-- A rule's step takes its tokens away and does nothing to the class path. -/
theorem Step.take_of_ne_classpath (inherited? : Option Bytes) {step : Step} (h : step ≠ .classpath)
    (a : Arguments) :
    (step.take inherited? a).toolOptions = a.toolOptions.filter step.leaves ∧
      (step.take inherited? a).classpath = a.classpath := by
  cases step with
  | boot => exact ⟨bootRule.remainder_extract a.toolOptions, rfl⟩
  | jvm => exact ⟨jvmRule.remainder_extract a.toolOptions, rfl⟩
  | classpath => exact absurd rfl h

/-- **What steps come to, whatever their order.** -/
theorem inOrder_closed (inherited? : Option Bytes) {steps : List Step} (hnodup : steps.Nodup)
    {tokens : List Bytes} (h : Step.classpath ∈ steps → ValuesBehindFlags tokens) :
    (inOrder inherited? steps tokens).toolOptions =
      (if Step.classpath ∈ steps then (takeClasspath tokens).2 else tokens).filter
        (fun token => steps.all (·.leaves token)) ∧
    (inOrder inherited? steps tokens).classpath =
      if Step.classpath ∈ steps then (extractClasspath inherited? tokens).matched else [] := by
  induction steps using List.reverseRecOn with
  | nil => simp [inOrder]
  | append_singleton steps step ih =>
    obtain ⟨hnodup, _, hdistinct⟩ := List.nodup_append.mp hnodup
    obtain ⟨htool, hclasspath⟩ := ih hnodup fun hmem => h (List.mem_append_left _ hmem)
    have hall : (fun token => (steps ++ [step]).all (·.leaves token)) =
        fun token => step.leaves token && steps.all (·.leaves token) := by
      funext token
      rw [List.all_append, List.all_cons, List.all_nil, Bool.and_true, Bool.and_comm]
    rw [inOrder_concat, hall, ← List.filter_filter]
    by_cases hstep : step = .classpath
    · -- the step for the class path sees neighbours, so the tokens gone before it must be no values
      subst hstep
      have hnew : Step.classpath ∉ steps := fun hmem =>
        hdistinct _ hmem _ (List.mem_singleton_self _) rfl
      have hlast : Step.classpath ∈ steps ++ [Step.classpath] :=
        List.mem_append_right _ (List.mem_singleton_self _)
      have hleft := takeClasspath_filter
        (fun flag hflag => List.all_eq_true.mpr fun step _ => step.leaves_of_flag hflag)
        (Step.leaves_of_values (h hlast) steps)
      rw [if_neg hnew] at htool
      rw [if_pos hlast, if_pos hlast]
      unfold Step.take extractClasspath
      dsimp only
      rw [htool, hleft]
      exact ⟨(List.filter_true _).symm, rfl⟩
    · -- a rule's step only filters once more
      obtain ⟨hrest, hsame⟩ :=
        Step.take_of_ne_classpath inherited? hstep (inOrder inherited? steps tokens)
      have hmem : Step.classpath ∈ steps ++ [step] ↔ Step.classpath ∈ steps := by
        rw [List.mem_append, List.mem_singleton]
        exact or_iff_left (Ne.symm hstep)
      rw [hrest, hsame, htool, hclasspath]
      simp only [hmem, and_self]

/-- The same steps in another order leave the same tokens and find the same class path. -/
theorem inOrder_of_perm (inherited? : Option Bytes) {steps others : List Step}
    (hperm : steps.Perm others) (hnodup : others.Nodup) {tokens : List Bytes}
    (h : Step.classpath ∈ others → ValuesBehindFlags tokens) :
    (inOrder inherited? steps tokens).toolOptions = (inOrder inherited? others tokens).toolOptions ∧
      (inOrder inherited? steps tokens).classpath = (inOrder inherited? others tokens).classpath := by
  have hmem : Step.classpath ∈ steps ↔ Step.classpath ∈ others := hperm.mem_iff
  have hall : (fun token => steps.all (Step.leaves · token)) =
      fun token => others.all (Step.leaves · token) := funext fun token => hperm.all_eq
  obtain ⟨htool, hclasspath⟩ :=
    inOrder_closed inherited? (hperm.nodup_iff.mpr hnodup) fun hstep => h (hmem.mp hstep)
  obtain ⟨htool', hclasspath'⟩ := inOrder_closed inherited? hnodup h
  rw [htool, htool', hclasspath, hclasspath', hall]
  simp only [hmem, and_self]

/-! ## The two rules alone -/

/-- The rule for the boot class path, and then the rule for runtime options. -/
def bootFirst (tokens : List Bytes) : Arguments := inOrder none [.boot, .jvm] tokens

/-- The rule for runtime options, and then the rule for the boot class path. -/
def jvmFirst (tokens : List Bytes) : Arguments := inOrder none [.jvm, .boot] tokens

/-- The text behind the mark, in a marked entry for the boot class path. -/
def markedText? (token : Bytes) : Option Text :=
  (optionText? "-J-Xbootclasspath/p:".toList token).map ("-Xbootclasspath/p:".toList ++ ·)

/-- A marked entry is one line with both words in front. -/
theorem markedText?_eq_some_iff {token : Bytes} {option : Text} :
    markedText? token = some option ↔ ∃ entry, '\n' ∉ entry ∧
      token = Utf8.encode ("-J-Xbootclasspath/p:".toList ++ entry) ∧
      option = "-Xbootclasspath/p:".toList ++ entry := by
  unfold markedText?
  simp only [Option.map_eq_some_iff, optionText?_eq_some_iff]
  constructor
  · rintro ⟨entry, ⟨htoken, hline⟩, rfl⟩
    exact ⟨entry, hline, htoken, rfl⟩
  · rintro ⟨entry, hline, htoken, rfl⟩
    exact ⟨entry, ⟨htoken, hline⟩, rfl⟩

/-- The rule for the boot class path reads the entry. -/
theorem bootText?_marked {entry : Text} (hline : '\n' ∉ entry) :
    bootText? (Utf8.encode ("-J-Xbootclasspath/p:".toList ++ entry)) = some entry :=
  bootText?_eq_some_iff.mpr ⟨hline, Or.inr rfl⟩

/-- A marked entry is recognised by both rules. -/
theorem reads_of_markedText? {token : Bytes} {option : Text} (h : markedText? token = some option) :
    bootText? token ≠ none ∧ jvmText? token = some option ∧ option.trim ≠ [] := by
  obtain ⟨entry, hline, rfl, rfl⟩ := markedText?_eq_some_iff.mp h
  have hword : '\n' ∉ "-Xbootclasspath/p:".toList := by decide
  refine ⟨?_, ?_, ?_⟩
  · rw [bootText?_marked hline]
    exact Option.some_ne_none entry
  · exact optionText?_eq_some_iff.mpr
      ⟨rfl, fun hmem => (List.mem_append.mp hmem).elim hword hline⟩
  · intro hnil
    have hdash := Text.trim_eq_nil_iff.mp hnil '-' List.mem_cons_self
    exact absurd hdash (by decide)

/-- No other token is recognised by both. -/
theorem reads_of_markedText?_eq_none {token : Bytes} (h : markedText? token = none) :
    bootText? token = none ∨ jvmText? token = none := by
  rw [markedText?, Option.map_eq_none_iff] at h
  cases hboot : bootText? token with
  | none => exact Or.inl rfl
  | some entry =>
    obtain ⟨hline, htoken | htoken⟩ := bootText?_eq_some_iff.mp hboot
    · refine Or.inr (Option.eq_none_iff_forall_ne_some.mpr fun option hoption => ?_)
      obtain ⟨hmark, _⟩ := optionText?_eq_some_iff.mp hoption
      exact mark_ne_bootOption option entry (Utf8.encode_injective (hmark.symm.trans htoken))
    · rw [optionText?_eq_some_iff.mpr ⟨htoken, hline⟩] at h
      cases h

/-- Captured texts come token by token. -/
theorem flatMap_kept_filterMap (read : Bytes → Option Text) (tokens : List Bytes) :
    (tokens.filterMap read).flatMap kept = tokens.flatMap fun token => (read token).toList.flatMap kept := by
  rw [List.filterMap_eq_flatMap_toList, List.flatMap_assoc]

theorem bootClasspath_bootFirst (tokens : List Bytes) : (bootFirst tokens).bootClasspath =
    tokens.flatMap fun token => (bootText? token).toList.flatMap kept := by
  have hmatched := matched_extract_of_reads capture?_bootRule rfl tokens
  rw [flatMap_kept_filterMap] at hmatched
  exact hmatched

theorem jvmOptions_bootFirst (tokens : List Bytes) : (bootFirst tokens).jvmOptions =
    tokens.flatMap fun token => (kind token).runtime?.toList.flatMap kept := by
  have hmatched := matched_extractJvm tokens
  unfold runtimeOptions at hmatched
  rw [flatMap_kept_filterMap] at hmatched
  exact hmatched

theorem jvmOptions_jvmFirst (tokens : List Bytes) : (jvmFirst tokens).jvmOptions =
    tokens.flatMap fun token => (jvmText? token).toList.flatMap kept := by
  have hmatched := matched_extract_of_reads capture?_jvmRule rfl tokens
  rw [flatMap_kept_filterMap] at hmatched
  exact hmatched

theorem bootClasspath_jvmFirst (tokens : List Bytes) : (jvmFirst tokens).bootClasspath =
    tokens.flatMap fun token =>
      (if (jvmText? token).isNone then bootText? token else none).toList.flatMap kept := by
  have hmatched := matched_extract_of_reads capture?_bootRule rfl (extractJvm tokens).remainder
  have hleft : (extractJvm tokens).remainder = tokens.filter fun token => (jvmText? token).isNone := by
    unfold extractJvm
    rw [Rule.remainder_extract]
    simp only [capture?_jvmRule, Option.isNone_map]
  rw [hleft, List.filterMap_filter, flatMap_kept_filterMap, ← hleft] at hmatched
  exact hmatched

/-- With the rule for the boot class path first, a marked entry goes there, unless it is blank. -/
theorem bootFirst_marked {entry : Text} (hline : '\n' ∉ entry) :
    let arguments := bootFirst [Utf8.encode ("-J-Xbootclasspath/p:".toList ++ entry)]
    arguments.bootClasspath = (if Text.AllBlank entry then [] else [entry.trim]) ∧
      arguments.jvmOptions = [] := by
  intro arguments
  have hread := bootText?_marked hline
  constructor
  · rw [bootClasspath_bootFirst, List.flatMap_singleton, hread, Option.toList_some,
      List.flatMap_singleton]
    exact if_congr Text.trim_eq_nil_iff rfl rfl
  · rw [jvmOptions_bootFirst, List.flatMap_singleton, runtime?_kind, hread]
    rfl

/-- With the rule for runtime options first, a marked entry adds no entry to the boot class path. -/
theorem bootText?_unless_jvmText? (token : Bytes) :
    (if (jvmText? token).isNone then bootText? token else none) =
      if (markedText? token).isSome then none else bootText? token := by
  cases hmarked : markedText? token with
  | some option =>
    rw [(reads_of_markedText? hmarked).2.1]
    rfl
  | none =>
    rcases reads_of_markedText?_eq_none hmarked with hnone | hnone
    · rw [hnone]
      split <;> rfl
    · rw [hnone]
      rfl

/-- It adds the text behind its mark to the runtime options instead. -/
theorem kept_jvmText? (token : Bytes) :
    (jvmText? token).toList.flatMap kept =
      match markedText? token with
      | some option => [option.trim]
      | none => (kind token).runtime?.toList.flatMap kept := by
  rw [runtime?_kind]
  cases hmarked : markedText? token with
  | some option =>
    obtain ⟨_, hjvm, htrim⟩ := reads_of_markedText? hmarked
    rw [hjvm, Option.toList_some, List.flatMap_singleton]
    exact if_neg htrim
  | none =>
    dsimp only
    rcases reads_of_markedText?_eq_none hmarked with hnone | hnone
    · rw [hnone, Option.isNone_none, if_pos rfl]
    · rw [hnone, ite_self]

/-- **The class path does not depend on the order where its flags stand in front of their values, and
the rest depends on it in the marked entries only.** -/
theorem orders_agree (inherited? : Option Bytes) (tokens : List Bytes) :
    (ValuesBehindFlags tokens → ∀ steps : List Step, steps.Perm [.boot, .jvm, .classpath] →
      (inOrder inherited? steps tokens).toolOptions = (ofTokens inherited? tokens).toolOptions ∧
      (inOrder inherited? steps tokens).classpath = (ofTokens inherited? tokens).classpath) ∧
    (jvmFirst tokens).toolOptions = (bootFirst tokens).toolOptions ∧
    (∀ token option, markedText? token = some option ↔ ∃ entry, '\n' ∉ entry ∧
      token = Utf8.encode ("-J-Xbootclasspath/p:".toList ++ entry) ∧
      option = "-Xbootclasspath/p:".toList ++ entry) ∧
    (∀ entry : Text, '\n' ∉ entry →
      let arguments := bootFirst [Utf8.encode ("-J-Xbootclasspath/p:".toList ++ entry)]
      arguments.bootClasspath = (if Text.AllBlank entry then [] else [entry.trim]) ∧
        arguments.jvmOptions = []) ∧
    (bootFirst tokens).bootClasspath =
      tokens.flatMap (fun token => (bootFirst [token]).bootClasspath) ∧
    (jvmFirst tokens).bootClasspath =
      tokens.flatMap (fun token =>
        match markedText? token with
        | some _ => []
        | none => (bootFirst [token]).bootClasspath) ∧
    (bootFirst tokens).jvmOptions =
      tokens.flatMap (fun token => (bootFirst [token]).jvmOptions) ∧
    (jvmFirst tokens).jvmOptions =
      tokens.flatMap (fun token =>
        match markedText? token with
        | some option => [option.trim]
        | none => (bootFirst [token]).jvmOptions) := by
  have hboot (token : Bytes) : (bootFirst [token]).bootClasspath =
      (bootText? token).toList.flatMap kept := by
    rw [bootClasspath_bootFirst, List.flatMap_singleton]
  have hjvm (token : Bytes) : (bootFirst [token]).jvmOptions =
      (kind token).runtime?.toList.flatMap kept := by
    rw [jvmOptions_bootFirst, List.flatMap_singleton]
  refine ⟨?_, ?_, fun token option => markedText?_eq_some_iff, fun entry => bootFirst_marked,
    ?_, ?_, ?_, ?_⟩
  · intro hvalues steps hperm
    rw [← inOrder_eq_ofTokens]
    exact inOrder_of_perm inherited? hperm (by decide) fun _ => hvalues
  · have hnone : Step.classpath ∉ [Step.boot, Step.jvm] := by decide
    exact (inOrder_of_perm none (List.Perm.swap .boot .jvm []) (by decide)
      fun hmem => absurd hmem hnone).1
  · simp only [hboot]
    exact bootClasspath_bootFirst tokens
  · simp only [hboot]
    rw [bootClasspath_jvmFirst]
    refine congrArg (tokens.flatMap ·) (funext fun token => ?_)
    rw [bootText?_unless_jvmText?]
    cases markedText? token <;> rfl
  · simp only [hjvm]
    exact jvmOptions_bootFirst tokens
  · simp only [hjvm]
    rw [jvmOptions_jvmFirst]
    exact congrArg (tokens.flatMap ·) (funext kept_jvmText?)

/-- A flag that is the value of another one, a flag without a value, and a marked entry. -/
theorem orders_agree_flagAsValue :
    let tokens := ["-J-ea", "-cp", "-classpath", "A.java", "-J-Xbootclasspath/p:x.jar ", "-cp"].map
      Bytes.ofString
    ValuesBehindFlags tokens ∧
    (inOrder none [.classpath, .jvm, .boot] tokens).toolOptions =
      ["A.java", "-cp"].map Bytes.ofString ∧
    (inOrder none [.classpath, .jvm, .boot] tokens).classpath = [Bytes.ofString "-classpath"] ∧
    (jvmFirst tokens).jvmOptions = ["-ea".toList, "-Xbootclasspath/p:x.jar".toList] ∧
    (jvmFirst tokens).bootClasspath = [] ∧
    '\n' ∉ "x.jar ".toList ∧
    (bootFirst [Bytes.ofString "-J-Xbootclasspath/p:x.jar "]).bootClasspath = ["x.jar".toList] ∧
    (bootFirst [Bytes.ofString "-J-Xbootclasspath/p:x.jar "]).jvmOptions = [] := by
  intro tokens
  have hvalues : ValuesBehindFlags tokens := by decide
  have hperm : [Step.classpath, Step.jvm, Step.boot].Perm [.boot, .jvm, .classpath] := by decide
  have hline : '\n' ∉ "x.jar ".toList := by decide
  obtain ⟨horders, _, _, hmarked, _, hboot, _, hjvm⟩ := orders_agree none tokens
  obtain ⟨htool, hclasspath⟩ := horders hvalues _ hperm
  obtain ⟨hentry, hnone⟩ := hmarked _ hline
  rw [htool, hclasspath, hjvm, hboot]
  exact ⟨hvalues, by decide, by decide, by decide, by decide, hline,
    hentry.trans (by decide), hnone⟩

-- a flag in front of an option for the runtime takes it as its value if the class path comes first
example :
    let tokens := ["-cp", "-J-ea", "a.jar"].map Bytes.ofString
    ¬ValuesBehindFlags tokens ∧
      (inOrder none [.classpath, .boot, .jvm] tokens).classpath = [Bytes.ofString "-J-ea"] ∧
      (ofTokens none tokens).classpath = [Bytes.ofString "a.jar"] := by decide

end JavacLauncher.Arguments
