import JavacLauncher.Proofs.Arguments.Extraction
import JavacLauncher.Proofs.Plan.Command
import JavacLauncher.Proofs.Text.Trim
import Mathlib.Data.List.Basic

/-!
# The options that the runtime gets

A marked token hands the text behind its mark on to the runtime. Which tokens these are can be said of
their texts alone, as long as each is a single line: they begin with the mark, are no entry for the
boot class path and hold more than white space (`markedOptions`). They arrive in order and none is
lost, but each of them trimmed, for the rule shares its treatment of what it captures with the rule
for the boot class path, where the white space around a path does not matter.

So the runtime gets the options as they were written exactly if none of them begins or ends with white
space (`jvmOptions_verbatim_iff`). The value of a property may well do so.
-/

namespace JavacLauncher

namespace Arguments

/-- The options that the runtime should get from tokens of these texts, as they are written there. -/
def markedOptions (texts : List Text) : List Text :=
  (texts.filterMap (after? "-J".toList)).filter fun option =>
    ¬"-Xbootclasspath/p:".toList <+: option ∧ ¬Text.AllBlank option

theorem flatMap_kept (captured : List Text) :
    captured.flatMap kept = (captured.filter fun t => ¬Text.AllBlank t).map Text.trim := by
  induction captured with
  | nil => rfl
  | cons t captured ih =>
    rw [List.flatMap_cons, List.filter_cons, ih]
    unfold kept
    by_cases hblank : Text.AllBlank t
    · rw [if_pos (Text.trim_eq_nil_iff.mpr hblank), if_neg (by simpa using hblank)]
      rfl
    · rw [if_neg (fun h => hblank (Text.trim_eq_nil_iff.mp h)), if_pos (by simpa using hblank)]
      rfl

/-- In a token of one line, the option is what follows the mark. -/
theorem runtime?_kind_encode {t : Text} (hline : '\n' ∉ t) :
    (kind (Utf8.encode t)).runtime? =
      (after? "-J".toList t).filter fun option => ¬"-Xbootclasspath/p:".toList <+: option := by
  ext option
  simp only [Kind.runtime?_eq_some_iff, kind_eq_runtime_iff, Option.filter_eq_some_iff,
    after?_eq_some_iff, decide_eq_true_eq]
  constructor
  · rintro ⟨_, htoken, hplain⟩
    exact ⟨Utf8.encode_injective htoken, hplain⟩
  · rintro ⟨rfl, hplain⟩
    exact ⟨fun h => hline (List.mem_append_right _ h), rfl, hplain⟩

theorem runtimeOptions_encode {texts : List Text} (hlines : ∀ t ∈ texts, '\n' ∉ t) :
    runtimeOptions (texts.map Utf8.encode) =
      (texts.filterMap (after? "-J".toList)).filter fun option =>
        ¬"-Xbootclasspath/p:".toList <+: option := by
  unfold runtimeOptions
  rw [List.filter_filterMap, List.filterMap_map]
  exact List.filterMap_congr fun t ht => runtime?_kind_encode (hlines t ht)

/-- **The runtime's options are the marked texts, trimmed.** -/
theorem jvmOptions_ofTokens_encode (inherited? : Option Bytes) {texts : List Text}
    (hlines : ∀ t ∈ texts, '\n' ∉ t) :
    (ofTokens inherited? (texts.map Utf8.encode)).jvmOptions =
      (markedOptions texts).map Text.trim := by
  rw [ofTokens_eq]
  dsimp only
  rw [runtimeOptions_encode hlines, flatMap_kept, List.filter_filter]
  unfold markedOptions
  congr 2
  funext option
  simp only [Bool.decide_and, Bool.and_comm]

end Arguments

namespace Plan

open Arguments

/-- What stands between the assertions option and the archive to run. -/
theorem assembled_eq (plan : Plan) (library compiler archive : Path) :
    ∃ own behind, plan.assembled library compiler archive =
      [plan.java.bytes, own, assertionsOption] ++ plan.arguments.jvmOptions.map Utf8.encode ++
        Bytes.ofString "-jar" :: compiler.bytes :: behind :=
  ⟨_, _, rfl⟩

/-- **The runtime gets the options as they were written exactly if no white space is at their
ends**, and in any case it gets all of them, in order and trimmed. -/
theorem jvmOptions_verbatim_iff (inherited? : Option Bytes) {texts : List Text}
    (hlines : ∀ t ∈ texts, '\n' ∉ t) :
    (ofTokens inherited? (texts.map Utf8.encode)).jvmOptions =
      (markedOptions texts).map Text.trim ∧
    ((ofTokens inherited? (texts.map Utf8.encode)).jvmOptions = markedOptions texts ↔
      ∀ option ∈ markedOptions texts, Text.IsTrimmed option) ∧
    ∀ (plan : Plan) (currentDir : Except SystemError Path) (command : List Bytes),
      plan.arguments = .ofTokens inherited? (texts.map Utf8.encode) →
      plan.command currentDir = .ok command →
      ∃ (own : Bytes) (forwarded : List Bytes) (compiler : Path) (behind : List Bytes),
        plan.support.compiler.ResolvesTo currentDir compiler ∧
        command = [plan.java.bytes, own, assertionsOption] ++ forwarded ++
          Bytes.ofString "-jar" :: compiler.bytes :: behind ∧
        forwarded = (markedOptions texts).map (fun option => Utf8.encode option.trim) ∧
        (forwarded = (markedOptions texts).map Utf8.encode ↔
          ∀ option ∈ markedOptions texts, Text.IsTrimmed option) := by
  have hoptions := jvmOptions_ofTokens_encode inherited? hlines
  have hexact : (markedOptions texts).map Text.trim = markedOptions texts ↔
      ∀ option ∈ markedOptions texts, Text.IsTrimmed option := by
    have hmap := List.map_inj_left (l := markedOptions texts) (f := Text.trim) (g := id)
    rw [List.map_id] at hmap
    simpa only [id_eq, Text.trim_eq_self_iff] using hmap
  refine ⟨hoptions, ?_, ?_⟩
  · rw [hoptions]
    exact hexact
  · intro plan currentDir command harguments h
    obtain ⟨library, compiler, archive, _, hcompiler, _, rfl⟩ := command_eq_ok_iff.mp h
    obtain ⟨own, behind, hassembled⟩ := plan.assembled_eq library compiler archive
    refine ⟨own, _, compiler, behind, hcompiler, hassembled, ?_, ?_⟩
    · rw [harguments, hoptions, List.map_map]
      rfl
    · rw [harguments, hoptions, List.map_inj_right fun _ _ => Utf8.encode_injective]
      exact hexact

/-- White space inside an option stays; a mark with white space only, and an entry for the boot class
path, are no options. -/
theorem jvmOptions_verbatim_iff_spaces :
    let texts := ["-J-Dname=a b", "-J\u00a0", "-J-Xbootclasspath/p:x.jar", "-J-Xmx1g", "A.java"].map
      String.toList
    (∀ t ∈ texts, '\n' ∉ t) ∧
    (ofTokens none (texts.map Utf8.encode)).jvmOptions = ["-Dname=a b".toList, "-Xmx1g".toList] ∧
    ∃ own behind,
      (installed (.ofTokens none (texts.map Utf8.encode))).command (.error .noEntry) =
        .ok ([Bytes.ofString "java", own, assertionsOption, Bytes.ofString "-Dname=a b",
          Bytes.ofString "-Xmx1g", Bytes.ofString "-jar"] ++ behind) := by
  intro texts
  have hlines : ∀ t ∈ texts, '\n' ∉ t := by decide
  have hmarked : markedOptions texts = ["-Dname=a b".toList, "-Xmx1g".toList] := by decide
  have htrimmed : ∀ option ∈ markedOptions texts, Text.IsTrimmed option := by decide
  have h : (installed (.ofTokens none (texts.map Utf8.encode))).command (.error .noEntry) = .ok _ :=
    rfl
  obtain ⟨_, hexact, hcommand⟩ := jvmOptions_verbatim_iff none hlines
  obtain ⟨own, forwarded, compiler, behind, _, hwhole, _, hforwarded⟩ := hcommand _ _ _ rfl h
  refine ⟨hlines, (hexact.mpr htrimmed).trans hmarked, own, compiler.bytes :: behind, ?_⟩
  rw [h, hwhole, hforwarded.mpr htrimmed, hmarked]
  rfl

/-- A blank at the end of a property is gone when the runtime sees it. -/
theorem trimmed_property :
    ¬∀ (inherited? : Option Bytes) (texts : List Text), (∀ t ∈ texts, '\n' ∉ t) →
      (ofTokens inherited? (texts.map Utf8.encode)).jvmOptions = markedOptions texts := by
  intro h
  exact absurd (h none ["-J-Dseparator= ".toList] (by decide)) (by decide)

end Plan

end JavacLauncher
