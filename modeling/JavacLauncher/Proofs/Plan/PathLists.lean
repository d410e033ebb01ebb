import JavacLauncher.Proofs.Arguments.Extraction
import JavacLauncher.Proofs.Plan.Command
import JavacLauncher.Proofs.Text.Pieces
import JavacLauncher.Proofs.Text.Utf8

/-!
# Path lists taken apart

The runtime takes a path list apart at its separators, and an empty piece means the current directory
to it. So what matters about the launcher's two lists is which pieces they fall into. An entry that the
user gave may be a list itself; it falls into its own pieces, and joining brings in no others
(`splitOn_append_flatMap`).

An empty piece has to come from somewhere: from an empty entry, from a separator at one end of an
entry, or from two separators in a row (`nil_mem_splitOn_iff`). The archives are absolute paths and so
not empty. What the rule for the boot class path captures is never empty either, for the rule drops
what is empty once it is trimmed. That leaves the entries in which the user wrote an empty piece
(`splitOn_pathLists`). A class path may well have empty entries.
-/

namespace JavacLauncher

/-! ## Empty pieces -/

section Cut

variable {α : Type} [BEq α] [LawfulBEq α] {sep : α}

/-- A separator at an end, or two in a row: next to them there is an empty piece. -/
def HasEmptyPiece (sep : α) (l : List α) : Prop :=
  l.head? = some sep ∨ l.getLast? = some sep ∨ [sep, sep] <:+: l

/-- **Where empty pieces come from.** -/
theorem nil_mem_splitOn_iff {l : List α} :
    [] ∈ l.splitOn sep ↔ l = [] ∨ HasEmptyPiece sep l := by
  constructor
  · intro h
    obtain ⟨first, others, hpieces, hjoin⟩ := exists_splitOn_eq_cons sep l
    rw [hpieces] at h
    rcases List.mem_cons.mp h with rfl | h
    · -- nothing stands before the first separator
      cases others with
      | nil => exact Or.inl hjoin
      | cons next others => exact Or.inr (Or.inl (by rw [hjoin]; rfl))
    · obtain ⟨before, after, rfl⟩ := List.append_of_mem h
      rw [List.flatMap_append, List.flatMap_cons, ← List.append_assoc] at hjoin
      cases after with
      | nil => exact Or.inr (Or.inr (Or.inl (by rw [hjoin]; simp)))
      | cons next after =>
        refine Or.inr (Or.inr (Or.inr ⟨first ++ before.flatMap (sep :: ·),
          next ++ after.flatMap (sep :: ·), ?_⟩))
        rw [hjoin, List.append_assoc]
        rfl
  · rintro (rfl | h | h | ⟨front, back, rfl⟩)
    · exact List.mem_singleton_self []
    · obtain ⟨rest, rfl⟩ := List.head?_eq_some_iff.mp h
      rw [List.splitOn_cons_eq_if_modifyHead, if_pos (beq_self_eq_true sep)]
      exact List.mem_cons_self
    · obtain ⟨rest, rfl⟩ := List.getLast?_eq_some_iff.mp h
      rw [List.splitOn_append_cons_self]
      exact List.mem_append_right _ List.mem_cons_self
    · rw [List.append_assoc, List.cons_append, List.splitOn_append_cons_self, List.singleton_append,
        List.splitOn_cons_eq_if_modifyHead, if_pos (beq_self_eq_true sep)]
      exact List.mem_append_right _ List.mem_cons_self

end Cut

/-! ## What the user puts on the boot class path -/

namespace Arguments

/-- What the rule for the boot class path captures in each token, unless that is nothing. -/
def bootCaptures (tokens : List Bytes) : List Text :=
  (tokens.filterMap bootRule.capture?).filter fun captured => captured ≠ []

theorem bootClasspath_eq_bootCaptures (inherited? : Option Bytes) (tokens : List Bytes) :
    (ofTokens inherited? tokens).bootClasspath = bootCaptures tokens := by
  show (bootRule.extract tokens).matched = _
  rw [Rule.matched_extract]
  unfold bootCaptures
  simp [bootRule]

/-- A token with nothing but white space for an entry is none. -/
theorem bootCaptures_of_blank {token : Bytes} (h : bootRule.capture? token = some [])
    (front back : List Bytes) : bootCaptures (front ++ token :: back) = bootCaptures (front ++ back) := by
  unfold bootCaptures
  rw [List.filterMap_append, List.filterMap_cons, h, List.filter_append, List.filterMap_append,
    List.filter_append, List.filter_cons_of_neg (by simp)]

end Arguments

/-! ## The launcher's two lists -/

/-- The separator in a list of bytes. -/
def pathSeparatorByte : UInt8 := 0x3A

/-- A path that can be an entry of a path list: absolute, spelled as text, and a single piece. -/
structure Path.IsListable (p : Path) : Prop where
  isAbsolute : p.IsAbsolute
  isText : Utf8.IsText p.bytes
  separator_notMem : pathSeparatorByte ∉ p.bytes

namespace Path.IsListable

variable {p : Path} (h : p.IsListable)

include h

theorem encode_display : Utf8.encode p.display = p.bytes :=
  Utf8.encode_decodeLossy_eq_iff.mpr h.isText

theorem bytes_ne_nil : p.bytes ≠ [] := by
  intro hnil
  have habsolute := h.isAbsolute
  unfold IsAbsolute at habsolute
  rw [hnil] at habsolute
  cases habsolute

theorem display_ne_nil : p.display ≠ [] := by
  intro hnil
  have hbytes := h.encode_display
  rw [hnil] at hbytes
  exact h.bytes_ne_nil hbytes.symm

theorem pathSeparator_notMem : pathSeparator ∉ p.display := by
  intro hmem
  apply h.separator_notMem
  rw [← h.encode_display]
  exact List.mem_flatMap.mpr ⟨pathSeparator, hmem, List.mem_singleton_self _⟩

end Path.IsListable

namespace Plan

open Arguments

/-- A boot class path of two listable archives falls into them and the pieces of the user's entries. -/
theorem splitOn_bootClasspath {plan : Plan} (hlibrary : plan.support.library.IsListable)
    (hcompiler : plan.support.compiler.IsListable) :
    ([pathSeparator].intercalate ([plan.support.library.display, plan.support.compiler.display] ++
        plan.userBootClasspath?.toList)).splitOn pathSeparator =
      [plan.support.library.display, plan.support.compiler.display] ++
        plan.arguments.bootClasspath.flatMap (·.splitOn pathSeparator) := by
  have hlist := splitOn_append_flatMap pathSeparator plan.support.library.display
    (plan.support.compiler.display :: plan.arguments.bootClasspath)
  rw [intercalate_userBootClasspath, List.append_assoc, List.append_assoc, List.singleton_append]
  refine hlist.trans ?_
  rw [List.flatMap_cons, List.flatMap_cons,
    List.splitOn_eq_singleton hlibrary.pathSeparator_notMem,
    List.splitOn_eq_singleton hcompiler.pathSeparator_notMem]
  rfl

/-- A class path of a listable archive falls into it and the pieces of the user's entries. -/
theorem splitOn_classpathToken {archive : Path} (h : archive.IsListable) (entries : List Bytes) :
    (classpathToken archive.bytes entries).splitOn pathSeparatorByte =
      archive.bytes :: entries.flatMap (·.splitOn pathSeparatorByte) := by
  have hlist := splitOn_append_flatMap pathSeparatorByte archive.bytes entries
  refine hlist.trans ?_
  rw [List.flatMap_cons, List.splitOn_eq_singleton h.separator_notMem]
  rfl

/-- An empty piece of the user's boot class path is one that the user wrote. -/
theorem nil_mem_flatMap_bootCaptures_iff {tokens : List Bytes} :
    [] ∈ (bootCaptures tokens).flatMap (·.splitOn pathSeparator) ↔
      ∃ captured ∈ bootCaptures tokens, HasEmptyPiece pathSeparator captured := by
  rw [List.mem_flatMap]
  refine exists_congr fun captured => and_congr_right fun hmem => ?_
  have hne : captured ≠ [] := of_decide_eq_true (List.mem_filter.mp hmem).2
  rw [nil_mem_splitOn_iff]
  exact or_iff_right hne

/-- **The pieces of the two path lists** are the archives and the pieces that the user wrote. A blank
entry for the boot class path is none of them. -/
theorem splitOn_pathLists {inherited? : Option Bytes} {tokens : List Bytes} {plan : Plan}
    (harguments : plan.arguments = .ofTokens inherited? tokens)
    (hlibrary : plan.support.library.IsListable) (hcompiler : plan.support.compiler.IsListable)
    (harchive : plan.selfArchive.IsListable) (currentDir : Except SystemError Path) :
    ∃ (boot library compiler : Text) (classpath : Bytes),
      plan.bootClasspath currentDir = .ok boot ∧
      plan.classpath currentDir = .ok classpath ∧
      Utf8.encode library = plan.support.library.bytes ∧
      Utf8.encode compiler = plan.support.compiler.bytes ∧
      boot.splitOn pathSeparator =
        [library, compiler] ++ (bootCaptures tokens).flatMap (·.splitOn pathSeparator) ∧
      classpath.splitOn pathSeparatorByte = plan.selfArchive.bytes ::
        plan.arguments.classpath.flatMap (·.splitOn pathSeparatorByte) ∧
      ([] ∈ boot.splitOn pathSeparator ↔
        ∃ captured ∈ bootCaptures tokens, HasEmptyPiece pathSeparator captured) ∧
      ∀ front token back, tokens = front ++ token :: back →
        bootRule.capture? token = some [] →
        { plan with arguments := .ofTokens inherited? (front ++ back) }.bootClasspath currentDir =
          .ok boot := by
  have habsolute : plan.HasAbsoluteArchives :=
    ⟨hlibrary.isAbsolute, hcompiler.isAbsolute, harchive.isAbsolute⟩
  have hpieces := splitOn_bootClasspath hlibrary hcompiler
  have hcaptures : plan.arguments.bootClasspath = bootCaptures tokens := by
    rw [harguments, bootClasspath_eq_bootCaptures]
  rw [hcaptures] at hpieces
  refine ⟨_, plan.support.library.display, plan.support.compiler.display, _,
    habsolute.bootClasspath_eq currentDir, habsolute.classpath_eq currentDir,
    hlibrary.encode_display, hcompiler.encode_display, hpieces,
    splitOn_classpathToken harchive _, ?_, ?_⟩
  · rw [hpieces, List.mem_append, nil_mem_flatMap_bootCaptures_iff]
    refine or_iff_right ?_
    intro hmem
    rcases List.mem_cons.mp hmem with hnil | hmem
    · exact hlibrary.display_ne_nil hnil.symm
    · exact hcompiler.display_ne_nil (List.mem_singleton.mp hmem).symm
  · rintro front token back rfl hblank
    let without : Plan := { plan with arguments := .ofTokens inherited? (front ++ back) }
    have hwithout : without.HasAbsoluteArchives := ⟨habsolute.1, habsolute.2, habsolute.3⟩
    have hsame : without.arguments.bootClasspath = plan.arguments.bootClasspath := by
      rw [hcaptures, bootCaptures_of_blank hblank]
      exact bootClasspath_eq_bootCaptures inherited? (front ++ back)
    refine (hwithout.bootClasspath_eq currentDir).trans ?_
    unfold userBootClasspath?
    rw [hsame]

/-- A list for an entry, a blank entry, an entry that ends in a separator, and an empty class path. -/
theorem splitOn_pathLists_blank :
    let tokens := ["-Xbootclasspath/p:a.jar:b.jar", "-J-Xbootclasspath/p: \t", "-cp", "",
      "-Xbootclasspath/p:c.jar:"].map Bytes.ofString
    let plan := installed (.ofTokens none tokens)
    plan.support.library.IsListable ∧ plan.support.compiler.IsListable ∧
    plan.selfArchive.IsListable ∧
    ∃ (boot : Text) (classpath : Bytes),
      plan.bootClasspath (.error .noEntry) = .ok boot ∧
      plan.classpath (.error .noEntry) = .ok classpath ∧
      boot.splitOn pathSeparator = ["/opt/checker/jdk7.jar", "/opt/checker/javac.jar", "a.jar", "b.jar",
        "c.jar", ""].map String.toList ∧
      classpath.splitOn pathSeparatorByte = ["/opt/checker/checkers.jar", ""].map Bytes.ofString ∧
      [] ∈ boot.splitOn pathSeparator := by
  intro tokens plan
  have harguments : plan.arguments = .ofTokens none tokens := rfl
  have hlibrary : plan.support.library.IsListable := ⟨rfl, Utf8.isText_encode _, by decide⟩
  have hcompiler : plan.support.compiler.IsListable := ⟨rfl, Utf8.isText_encode _, by decide⟩
  have harchive : plan.selfArchive.IsListable := ⟨rfl, Utf8.isText_encode _, by decide⟩
  have hcaptures : bootCaptures tokens = ["a.jar:b.jar", "c.jar:"].map String.toList := by decide
  obtain ⟨boot, library, compiler, classpath, hboot, hclasspath, hlib, hcomp, hpieces, hentries,
    hempty, _⟩ := splitOn_pathLists harguments hlibrary hcompiler harchive (.error .noEntry)
  obtain rfl := Utf8.encode_injective hlib
  obtain rfl := Utf8.encode_injective hcomp
  refine ⟨hlibrary, hcompiler, harchive, boot, classpath, hboot, hclasspath, ?_, ?_, ?_⟩
  · rw [hpieces, hcaptures]
    rfl
  · rw [hentries]
    rfl
  · rw [hempty, hcaptures]
    exact ⟨"c.jar:".toList, by decide, Or.inr (Or.inl rfl)⟩

end Plan

end JavacLauncher
