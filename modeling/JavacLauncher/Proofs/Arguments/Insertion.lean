import JavacLauncher.Proofs.Arguments.Extraction

/-!
# Where the launcher's own tokens stand

A token that a rule recognises may stand anywhere among the others, also between a class path flag
and its value. The rules see one token at a time, so it adds what was captured from it, after what
was captured before it; and the class path is looked for only among the tokens that no rule
recognises, where it has left no gap. This is `ofTokens_insert`: one list of arguments with the token
and one without it, side by side.
-/

namespace JavacLauncher.Arguments

variable (inherited? : Option Bytes) (front back : List Bytes)

/-- The entries for the boot class path come token by token. -/
theorem bootClasspath_append : (ofTokens inherited? (front ++ back)).bootClasspath =
    (ofTokens inherited? front).bootClasspath ++ (ofTokens inherited? back).bootClasspath := by
  simp only [ofTokens_eq, bootEntries_append, List.flatMap_append]

/-- The options for the runtime come token by token. -/
theorem jvmOptions_append : (ofTokens inherited? (front ++ back)).jvmOptions =
    (ofTokens inherited? front).jvmOptions ++ (ofTokens inherited? back).jvmOptions := by
  simp only [ofTokens_eq, runtimeOptions_append, List.flatMap_append]

/-- A token that a rule recognises leaves no gap. -/
theorem plainTokens_insert {token : Bytes} (h : kind token ≠ .plain) :
    plainTokens (front ++ [token] ++ back) = plainTokens (front ++ back) := by
  have hnone : plainTokens [token] = [] := by rw [plainTokens_cons, if_neg h]; rfl
  rw [plainTokens_append, plainTokens_append, plainTokens_append, hnone, List.append_nil]

/-- A token that a rule recognises adds what it comes to alone, between what comes from the tokens
before it and what comes from those behind it. -/
theorem ofTokens_insert_of_ne_plain {token : Bytes} (h : kind token ≠ .plain) :
    ofTokens inherited? (front ++ [token] ++ back) =
      { ofTokens inherited? (front ++ back) with
        bootClasspath := (ofTokens inherited? front).bootClasspath ++
          (ofTokens inherited? [token]).bootClasspath ++ (ofTokens inherited? back).bootClasspath
        jvmOptions := (ofTokens inherited? front).jvmOptions ++
          (ofTokens inherited? [token]).jvmOptions ++ (ofTokens inherited? back).jvmOptions } := by
  rw [← bootClasspath_append, ← bootClasspath_append, ← jvmOptions_append, ← jvmOptions_append]
  simp only [ofTokens_eq, plainTokens_insert front back h]

/-- What a captured text adds to a list of captured texts. -/
def contribution (captured : Text) : List Text := if captured = [] then [] else [captured]

/-- An entry for the boot class path alone comes to its trimmed text. -/
theorem ofTokens_boot {token : Bytes} {entry : Text} (h : kind token = .boot entry) :
    (ofTokens inherited? [token]).bootClasspath = contribution entry.trim ∧
      (ofTokens inherited? [token]).jvmOptions = [] := by
  have hboot : bootEntries [token] = [entry] := by rw [bootEntries_cons, h]; rfl
  have hjvm : runtimeOptions [token] = [] := by rw [runtimeOptions_cons, h]; rfl
  simp only [ofTokens_eq, hboot, hjvm]
  exact ⟨List.flatMap_singleton _ _, rfl⟩

/-- An option for the runtime alone comes to its trimmed text. -/
theorem ofTokens_runtime {token : Bytes} {option : Text} (h : kind token = .runtime option) :
    (ofTokens inherited? [token]).bootClasspath = [] ∧
      (ofTokens inherited? [token]).jvmOptions = contribution option.trim := by
  have hboot : bootEntries [token] = [] := by rw [bootEntries_cons, h]; rfl
  have hjvm : runtimeOptions [token] = [option] := by rw [runtimeOptions_cons, h]; rfl
  simp only [ofTokens_eq, hboot, hjvm]
  exact ⟨rfl, List.flatMap_singleton _ _⟩

/-- **A token of the launcher adds its captured text to one list, and nothing else changes**,
wherever it stands. -/
theorem ofTokens_insert (token : Bytes) :
    (∀ captured, bootRule.capture? token = some captured →
      ofTokens inherited? (front ++ [token] ++ back) =
        { ofTokens inherited? (front ++ back) with
          bootClasspath := (ofTokens inherited? front).bootClasspath ++ contribution captured ++
            (ofTokens inherited? back).bootClasspath }) ∧
    (∀ captured, bootRule.capture? token = none → jvmRule.capture? token = some captured →
      ofTokens inherited? (front ++ [token] ++ back) =
        { ofTokens inherited? (front ++ back) with
          jvmOptions := (ofTokens inherited? front).jvmOptions ++ contribution captured ++
            (ofTokens inherited? back).jvmOptions }) ∧
    (ofTokens inherited? (front ++ back)).bootClasspath =
      (ofTokens inherited? front).bootClasspath ++ (ofTokens inherited? back).bootClasspath ∧
    (ofTokens inherited? (front ++ back)).jvmOptions =
      (ofTokens inherited? front).jvmOptions ++ (ofTokens inherited? back).jvmOptions := by
  have hboot := bootClasspath_append inherited? front back
  have hjvm := jvmOptions_append inherited? front back
  refine ⟨?_, ?_, hboot, hjvm⟩
  · intro captured h
    obtain ⟨entry, hkind, rfl⟩ := kind_of_capture?_bootRule h
    obtain ⟨htoken, hnothing⟩ := ofTokens_boot inherited? hkind
    have hne : kind token ≠ .plain := by rw [hkind]; exact Kind.noConfusion
    rw [ofTokens_insert_of_ne_plain inherited? front back hne, htoken, hnothing, List.append_nil,
      ← hjvm]
  · intro captured hnone h
    obtain ⟨option, hkind, rfl⟩ := kind_of_capture?_jvmRule hnone h
    obtain ⟨hnothing, htoken⟩ := ofTokens_runtime inherited? hkind
    have hne : kind token ≠ .plain := by rw [hkind]; exact Kind.noConfusion
    rw [ofTokens_insert_of_ne_plain inherited? front back hne, htoken, hnothing, List.append_nil,
      ← hboot]

/-- An entry that both rules recognise stands between a class path flag and its value. -/
theorem ofTokens_insert_behindFlag :
    let front := ["-J-ea", "-cp"].map Bytes.ofString
    let token := Bytes.ofString "-J-Xbootclasspath/p: x.jar "
    let back := ["a.jar", "-Xbootclasspath/p:y.jar", "A.java"].map Bytes.ofString
    bootRule.capture? token = some "x.jar".toList ∧ jvmRule.capture? token ≠ none ∧
    ofTokens none (front ++ [token] ++ back) =
      { ofTokens none (front ++ back) with
        bootClasspath := ["x.jar".toList, "y.jar".toList] } ∧
    (ofTokens none (front ++ [token] ++ back)).classpath = [Bytes.ofString "a.jar"] := by
  intro front token back
  have hboot : bootRule.capture? token = some "x.jar".toList := by decide
  have hjvm : jvmRule.capture? token ≠ none := by decide
  have hinsert := (ofTokens_insert none front back token).1 _ hboot
  refine ⟨hboot, hjvm, hinsert, ?_⟩
  rw [hinsert]
  decide

end JavacLauncher.Arguments
