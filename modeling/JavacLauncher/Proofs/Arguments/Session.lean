import JavacLauncher.Proofs.Arguments.Classpath
import JavacLauncher.Proofs.Arguments.Extraction

/-!
# Sessions of extraction steps

The three extractions may also be made one by one, in any order and as often as one likes, each on
what the one before has left. The question is whether a kind of step, once made, can find anything
again later. Steps of other kinds take tokens away, and that brings tokens together that were
apart, so a class path flag could come to stand before a token that looks like its value.

It cannot. `Settled` says what a list must be for a step to find nothing in it: no token of the
rule, or no class path flag but at the end. A step leaves a list that is settled for its kind
(`settled_remainder`), and a settled list stays settled when tokens are taken away
(`Settled.sublist`): a flag at the end of a list has nothing behind it in a part of the list either.
All that a session does is to take tokens away, so what is settled once is settled for the rest of
the session (`settled_of_mem_session`).
-/

namespace JavacLauncher

namespace Rule

theorem remainder_extract_sublist (r : Rule) (tokens : List Bytes) :
    (r.extract tokens).remainder.Sublist tokens := by
  rw [remainder_extract]
  exact List.filter_sublist

/-- What a rule leaves holds none of its tokens. -/
theorem capture?_of_mem_remainder {r : Rule} {tokens : List Bytes} {token : Bytes}
    (h : token ∈ (r.extract tokens).remainder) : r.capture? token = none := by
  rw [remainder_extract] at h
  exact Option.isNone_iff_eq_none.mp (List.mem_filter.mp h).2

/-- Where a rule recognises nothing, it takes nothing. -/
theorem extract_of_capture?_eq_none {r : Rule} {tokens : List Bytes}
    (h : ∀ token ∈ tokens, r.capture? token = none) : r.extract tokens = ⟨[], tokens⟩ := by
  induction tokens with
  | nil => rfl
  | cons token tokens ih =>
    obtain ⟨htoken, htokens⟩ := List.forall_mem_cons.mp h
    rw [extract, htoken, ih htokens]

end Rule

namespace Arguments

/-! ## Class path flags with nothing behind them -/

theorem takeClasspath_sublist (tokens : List Bytes) : (takeClasspath tokens).2.Sublist tokens := by
  induction tokens using takeClasspath.induct with
  | case1 => exact List.Sublist.refl _
  | case2 token => exact List.Sublist.refl _
  | case3 flag value tokens hflag _ _ _ ih =>
    rw [takeClasspath_flag hflag]
    exact (ih.cons value).cons flag
  | case4 token next tokens hflag _ _ _ ih =>
    rw [takeClasspath_of_not_flag hflag]
    exact ih.cons_cons token

theorem FlagsOnlyLast.tail {token : Bytes} {tokens : List Bytes}
    (h : FlagsOnlyLast (token :: tokens)) : FlagsOnlyLast tokens := by
  intro before flag after hsplit hflag
  refine h (token :: before) flag after ?_ hflag
  rw [hsplit, List.cons_append]

/-- A flag that is the last token stays the last one when others go. -/
theorem FlagsOnlyLast.sublist {tokens rest : List Bytes} (h : FlagsOnlyLast tokens)
    (hrest : rest.Sublist tokens) : FlagsOnlyLast rest := by
  induction hrest with
  | slnil => exact h
  | cons token _ ih => exact ih h.tail
  | cons_cons token hrest ih =>
    by_cases hflag : token ∈ classpathFlags
    · -- nothing stood behind the flag, so nothing does now
      have hnone := h [] token _ rfl hflag
      rw [hnone] at hrest
      rw [List.eq_nil_of_sublist_nil hrest]
      exact flagsOnlyLast_singleton token
    · exact flagsOnlyLast_cons hflag (ih h.tail)

/-- A flag that is the last token gets no value. -/
theorem takeClasspath_of_flagsOnlyLast {tokens : List Bytes} (h : FlagsOnlyLast tokens) :
    takeClasspath tokens = (none, tokens) := by
  induction tokens with
  | nil => rfl
  | cons token tokens ih =>
    by_cases hflag : token ∈ classpathFlags
    · have hnone := h [] token tokens rfl hflag
      rw [hnone]
      rfl
    · rw [takeClasspath_of_not_flag hflag, ih h.tail]

/-! ## Steps -/

/-- The three extractions. -/
inductive Step where
  | boot
  | jvm
  | classpath
  deriving DecidableEq, Repr

namespace Step

/-- What a step takes out of a list: texts, or entries of the class path as they are. -/
abbrev Capture : Step → Type
  | boot => Text
  | jvm => Text
  | classpath => Bytes

/-- The extraction that a step makes. -/
def extract (inherited? : Option Bytes) : (step : Step) → List Bytes → Extraction step.Capture
  | boot, tokens => extractBoot tokens
  | jvm, tokens => extractJvm tokens
  | classpath, tokens => extractClasspath inherited? tokens

/-- What a step gives that finds nothing: nothing, or the class path of the environment and the current
directory. -/
def fallback (inherited? : Option Bytes) : (step : Step) → List step.Capture
  | boot => []
  | jvm => []
  | classpath => inherited?.toList ++ [Bytes.ofString "."]

/-- A list in which a step of this kind finds nothing. -/
def Settled : Step → List Bytes → Prop
  | boot, tokens => ∀ token ∈ tokens, bootRule.capture? token = none
  | jvm, tokens => ∀ token ∈ tokens, jvmRule.capture? token = none
  | classpath, tokens => FlagsOnlyLast tokens

variable (inherited? : Option Bytes)

/-- A step takes tokens away and does nothing else to the list. -/
theorem remainder_sublist (step : Step) (tokens : List Bytes) :
    (step.extract inherited? tokens).remainder.Sublist tokens := by
  cases step with
  | boot => exact bootRule.remainder_extract_sublist tokens
  | jvm => exact jvmRule.remainder_extract_sublist tokens
  | classpath => exact takeClasspath_sublist tokens

/-- A step leaves nothing for another one of its kind. -/
theorem settled_remainder (step : Step) (tokens : List Bytes) :
    step.Settled (step.extract inherited? tokens).remainder := by
  cases step with
  | boot => exact fun token htoken => Rule.capture?_of_mem_remainder htoken
  | jvm => exact fun token htoken => Rule.capture?_of_mem_remainder htoken
  | classpath => exact flagsOnlyLast_takeClasspath tokens

/-- Taking tokens away brings nothing for a step into being. -/
theorem Settled.sublist {step : Step} {tokens rest : List Bytes} (h : step.Settled tokens)
    (hrest : rest.Sublist tokens) : step.Settled rest := by
  cases step with
  | boot => exact fun token htoken => h token (hrest.mem htoken)
  | jvm => exact fun token htoken => h token (hrest.mem htoken)
  | classpath => exact FlagsOnlyLast.sublist h hrest

/-- A step on a list that is settled for it takes nothing. -/
theorem extract_of_settled {step : Step} {tokens : List Bytes} (h : step.Settled tokens) :
    step.extract inherited? tokens = ⟨step.fallback inherited?, tokens⟩ := by
  cases step with
  | boot => exact Rule.extract_of_capture?_eq_none h
  | jvm => exact Rule.extract_of_capture?_eq_none h
  | classpath =>
    have hextract : extractClasspath inherited? tokens =
        ⟨inherited?.toList ++ [Bytes.ofString "."], tokens⟩ := by
      unfold extractClasspath
      rw [takeClasspath_of_flagsOnlyLast h]
      rfl
    exact hextract

end Step

/-! ## Sessions -/

/-- A step of a session: what it was given, and what came of it. -/
structure Report where
  step : Step
  given : List Bytes
  extraction : Extraction step.Capture

/-- The steps of a session, the first one on `tokens` and every other one on what the one before
it has left. -/
def session (inherited? : Option Bytes) : List Bytes → List Step → List Report
  | _, [] => []
  | tokens, step :: steps =>
    let extraction := step.extract inherited? tokens
    ⟨step, tokens, extraction⟩ :: session inherited? extraction.remainder steps

/-- A step of a session makes the extraction of its kind on a part of the tokens. -/
theorem mem_session {inherited? : Option Bytes} {tokens : List Bytes} {steps : List Step}
    {report : Report} (h : report ∈ session inherited? tokens steps) :
    report.given.Sublist tokens ∧
      report.extraction = report.step.extract inherited? report.given := by
  induction steps generalizing tokens with
  | nil => exact absurd h List.not_mem_nil
  | cons step steps ih =>
    rcases List.mem_cons.mp h with rfl | hlater
    · exact ⟨List.Sublist.refl _, rfl⟩
    · obtain ⟨hgiven, hextraction⟩ := ih hlater
      exact ⟨hgiven.trans (step.remainder_sublist inherited? tokens), hextraction⟩

/-- What is settled at the beginning of a session is settled at each of its steps. -/
theorem settled_of_mem_session {inherited? : Option Bytes} {step : Step} {tokens : List Bytes}
    {steps : List Step} {report : Report} (hsettled : step.Settled tokens)
    (h : report ∈ session inherited? tokens steps) : step.Settled report.given :=
  hsettled.sublist (mem_session h).1

/-- **A kind of step finds something once at most**, whatever happens before and after. -/
theorem session_settles (inherited? : Option Bytes) (tokens : List Bytes) (steps : List Step) :
    (session inherited? tokens steps).map Report.step = steps ∧
    (∀ report ∈ session inherited? tokens steps,
      report.extraction.remainder.Sublist report.given) ∧
    (session inherited? tokens steps).Pairwise fun earlier later =>
      later.step = earlier.step →
        later.extraction = ⟨later.step.fallback inherited?, later.given⟩ := by
  refine ⟨?_, ?_, ?_⟩
  · induction steps generalizing tokens with
    | nil => rfl
    | cons step steps ih => exact congrArg (step :: ·) (ih _)
  · intro report h
    rw [(mem_session h).2]
    exact report.step.remainder_sublist inherited? report.given
  · induction steps generalizing tokens with
    | nil => exact List.Pairwise.nil
    | cons step steps ih =>
      refine List.Pairwise.cons ?_ (ih _)
      intro later hlater hsame
      have hsettled := step.settled_remainder inherited? tokens
      have hlaterSettled := settled_of_mem_session hsettled hlater
      rw [(mem_session hlater).2]
      refine Step.extract_of_settled inherited? ?_
      rw [hsame]
      exact hlaterSettled

/-- A flag that the first step has left without a value does not get one from the second step. -/
theorem session_settles_danglingFlag :
    let tokens := ["-cp", "a.jar", "-classpath", "b.jar", "-J-ea", "-cp"].map Bytes.ofString
    ∃ first second third : Report,
      session none tokens [.classpath, .jvm, .classpath] = [first, second, third] ∧
      first.extraction.remainder = ["-J-ea", "-cp"].map Bytes.ofString ∧
      third.given = [Bytes.ofString "-cp"] ∧
      third.extraction = ⟨third.step.fallback none, third.given⟩ := by
  intro tokens
  have hsession : session none tokens [.classpath, .jvm, .classpath] = [_, _, _] := rfl
  have hpairs := (session_settles none tokens [.classpath, .jvm, .classpath]).2.2
  rw [hsession] at hpairs
  refine ⟨_, _, _, hsession, rfl, rfl, ?_⟩
  exact List.rel_of_pairwise_cons hpairs (List.mem_cons_of_mem _ List.mem_cons_self) rfl

end Arguments

end JavacLauncher
