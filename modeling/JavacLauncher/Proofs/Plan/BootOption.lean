import JavacLauncher.Proofs.Arguments.Extraction
import JavacLauncher.Proofs.Plan.Command
import JavacLauncher.Proofs.Text.Trim
import JavacLauncher.Proofs.Text.Utf8

/-!
# The option that puts archives in front of the runtime's library

The launcher's second token names the annotated library and the compiler, and then what the
user put on the boot class path. This module says how far one can rely on it.

A second option of the same name would come into the command line as a runtime option. The
rules see to it that a marked one is taken as an entry instead, but they look at the token
before it is trimmed, and what is handed on is trimmed. White space between the mark and the
option therefore hides it from the first rule and is gone after the second
(`HidesBootOption`). Such tokens are the only way (`bootOption_alone_iff`).

The archives are named through text, while the compiler that runs is named by its bytes. Both
agree exactly if the paths spell text (`bootToken_exact_iff`).
-/

namespace JavacLauncher

namespace Arguments

/-- A marked boot class path option that white space hides from the rule for such options. -/
def HidesBootOption (token : Bytes) : Prop :=
  ∃ blanks rest : Text, blanks ≠ [] ∧ Text.AllBlank blanks ∧ '\n' ∉ blanks ++ rest ∧
    token = Utf8.encode ("-J".toList ++ (blanks ++ ("-Xbootclasspath/p:".toList ++ rest)))

/-- What begins with white space does not begin with the option. -/
theorem not_bootOption_prefix {blanks : Text} (hne : blanks ≠ []) (hblank : Text.AllBlank blanks)
    (t : Text) : ¬"-Xbootclasspath/p:".toList <+: blanks ++ t := by
  rintro ⟨rest, h⟩
  cases blanks with
  | nil => exact absurd rfl hne
  | cons first more =>
    have hfirst : '-' = first := Option.some.inj (congrArg List.head? h)
    have hdash := hblank first List.mem_cons_self
    rw [← hfirst] at hdash
    exact absurd hdash (by decide)

/-- The tokens that hide the option are the runtime options that are one once they are trimmed. -/
theorem hidesBootOption_iff {token : Bytes} :
    HidesBootOption token ↔
      ∃ option, kind token = .runtime option ∧ "-Xbootclasspath/p:".toList <+: option.trim := by
  have hword : '\n' ∉ "-Xbootclasspath/p:".toList := by decide
  constructor
  · rintro ⟨blanks, rest, hne, hblank, hline, rfl⟩
    refine ⟨blanks ++ ("-Xbootclasspath/p:".toList ++ rest), ?_, ?_⟩
    · rw [kind_eq_runtime_iff]
      refine ⟨?_, rfl, not_bootOption_prefix hne hblank _⟩
      simp only [List.mem_append, not_or] at hline ⊢
      exact ⟨hline.1, hword, hline.2⟩
    · exact Text.prefix_trim hblank (by decide) rest
  · rintro ⟨option, hkind, rest, hrest⟩
    obtain ⟨hline, rfl, hplain⟩ := kind_eq_runtime_iff.mp hkind
    obtain ⟨lead, tail, hlead, _, hsplit⟩ := Text.exists_trim option
    have hoption : option = lead ++ ("-Xbootclasspath/p:".toList ++ (rest ++ tail)) := by
      rw [hsplit, ← hrest]
      simp only [List.append_assoc]
    refine ⟨lead, rest ++ tail, ?_, hlead, ?_, ?_⟩
    · rintro rfl
      exact hplain ⟨rest ++ tail, hoption.symm⟩
    · rw [hoption] at hline
      simp only [List.mem_append, not_or] at hline ⊢
      exact ⟨hline.1, hline.2.2⟩
    · rw [← hoption]

instance (token : Bytes) : Decidable (HidesBootOption token) :=
  decidable_of_iff (∃ option ∈ (kind token).runtime?, "-Xbootclasspath/p:".toList <+: option.trim)
    (by simp only [Option.mem_def, Kind.runtime?_eq_some_iff, hidesBootOption_iff])

example : HidesBootOption (Bytes.ofString "-J\t -Xbootclasspath/p:a.jar") := by decide

/-- A runtime option that is the boot class path option comes from a token that hides it. -/
theorem bootOption_mem_jvmOptions_iff (inherited? : Option Bytes) (tokens : List Bytes) :
    (∃ option ∈ (ofTokens inherited? tokens).jvmOptions, Plan.bootOption <+: option) ↔
      ∃ token ∈ tokens, HidesBootOption token := by
  rw [ofTokens_eq]
  simp only [List.mem_flatMap, mem_kept, mem_runtimeOptions, hidesBootOption_iff]
  constructor
  · rintro ⟨_, ⟨option, ⟨token, htoken, hkind⟩, rfl, _⟩, hprefix⟩
    exact ⟨token, htoken, option, hkind, hprefix⟩
  · rintro ⟨token, htoken, option, hkind, hprefix⟩
    refine ⟨option.trim, ⟨option, ⟨token, htoken, hkind⟩, rfl, ?_⟩, hprefix⟩
    intro hnil
    rw [hnil, List.prefix_nil] at hprefix
    exact absurd hprefix (by decide)

end Arguments

namespace Plan

open Arguments

/-! ## The only boot class path option -/

/-- Whether a token puts archives in front of the runtime's library. -/
def isBootToken (token : Bytes) : Bool := (Utf8.encode bootOption).isPrefixOf token

/-- The tokens between the program and what it runs: the launcher's two, and the runtime options. -/
def runtimePart (plan : Plan) (command : List Bytes) : List Bytes :=
  (command.drop 1).take (plan.arguments.jvmOptions.length + 2)

theorem isBootToken_bootToken (library compiler : Bytes) (entries : List Text) :
    isBootToken (bootToken library compiler entries) = true := by
  unfold isBootToken bootToken
  rw [List.isPrefixOf_iff_prefix]
  simp only [List.append_assoc]
  exact List.prefix_append _ _

theorem isBootToken_encode {option : Text} :
    isBootToken (Utf8.encode option) = true ↔ bootOption <+: option := by
  unfold isBootToken
  rw [List.isPrefixOf_iff_prefix, Utf8.encode_prefix_encode_iff]

theorem runtimePart_assembled (plan : Plan) (library compiler archive : Path) :
    plan.runtimePart (plan.assembled library compiler archive) =
      bootToken (Utf8.encode library.display) (Utf8.encode compiler.display)
        plan.arguments.bootClasspath :: assertionsOption ::
        plan.arguments.jvmOptions.map Utf8.encode := by
  unfold runtimePart assembled
  simp

/-- The launcher's option is the only one exactly if no runtime option is one. -/
theorem filter_runtimePart_eq_iff (plan : Plan) (library compiler archive : Path) :
    (plan.runtimePart (plan.assembled library compiler archive)).filter isBootToken =
        [bootToken (Utf8.encode library.display) (Utf8.encode compiler.display)
          plan.arguments.bootClasspath] ↔
      ∀ option ∈ plan.arguments.jvmOptions, ¬bootOption <+: option := by
  have hassertions : ¬isBootToken assertionsOption = true := by decide
  rw [runtimePart_assembled, List.filter_cons_of_pos (isBootToken_bootToken _ _ _),
    List.filter_cons_of_neg hassertions, List.cons.injEq, List.filter_eq_nil_iff]
  simp only [true_and, List.forall_mem_map, isBootToken_encode]

/-- **The launcher's option stands alone exactly if no token hides another one.** -/
theorem bootOption_alone_iff (inherited? : Option Bytes) (tokens : List Bytes) :
    ((∀ option ∈ (ofTokens inherited? tokens).jvmOptions, ¬bootOption <+: option) ↔
      ∀ token ∈ tokens, ¬HidesBootOption token) ∧
    ∀ (plan : Plan) (currentDir : Except SystemError Path) (command : List Bytes),
      plan.arguments = .ofTokens inherited? tokens → plan.command currentDir = .ok command →
      ∃ (library compiler : Path) (own : Bytes),
        plan.support.library.ResolvesTo currentDir library ∧
        plan.support.compiler.ResolvesTo currentDir compiler ∧
        own = bootToken (Utf8.encode library.display) (Utf8.encode compiler.display)
          plan.arguments.bootClasspath ∧
        command[1]? = some own ∧
        ((plan.runtimePart command).filter isBootToken = [own] ↔
          ∀ token ∈ tokens, ¬HidesBootOption token) := by
  have hexact : (∀ option ∈ (ofTokens inherited? tokens).jvmOptions, ¬bootOption <+: option) ↔
      ∀ token ∈ tokens, ¬HidesBootOption token := by
    have hmem := not_congr (bootOption_mem_jvmOptions_iff inherited? tokens)
    simpa only [not_exists, not_and] using hmem
  refine ⟨hexact, ?_⟩
  intro plan currentDir command harguments h
  obtain ⟨library, compiler, archive, hlibrary, hcompiler, _, rfl⟩ := command_eq_ok_iff.mp h
  refine ⟨library, compiler, _, hlibrary, hcompiler, rfl, rfl, ?_⟩
  rw [filter_runtimePart_eq_iff, harguments]
  exact hexact

/-- A boot class path option that is marked as it should be leaves the launcher's one alone. -/
theorem bootOption_alone_iff_marked :
    let tokens := ["-J-Xbootclasspath/p:a.jar", "-J-Xmx1g"].map Bytes.ofString
    let plan := installed (.ofTokens none tokens)
    (∀ token ∈ tokens, ¬HidesBootOption token) ∧
    ∃ command : List Bytes, plan.command (.error .noEntry) = .ok command ∧
      (plan.runtimePart command).filter isBootToken =
        [Bytes.ofString "-Xbootclasspath/p:/opt/checker/jdk7.jar:/opt/checker/javac.jar:a.jar"] := by
  intro tokens plan
  have harguments : plan.arguments = .ofTokens none tokens := rfl
  have h : plan.command (.error .noEntry) = .ok _ := rfl
  have hhidden : ∀ token ∈ tokens, ¬HidesBootOption token := by decide
  obtain ⟨library, compiler, own, _, _, _, hown, hiff⟩ :=
    (bootOption_alone_iff none tokens).2 plan _ _ harguments h
  obtain rfl := Option.some.inj hown
  exact ⟨hhidden, _, h, hiff.mpr hhidden⟩

/-- One blank hides the option from the first rule, and the trimmed option reaches the runtime. -/
theorem blank_uncovers_bootOption :
    ¬∀ (inherited? : Option Bytes) (tokens : List Bytes),
      ∀ option ∈ (ofTokens inherited? tokens).jvmOptions, ¬bootOption <+: option := by
  intro h
  exact h none [Bytes.ofString "-J -Xbootclasspath/p:evil.jar"]
    "-Xbootclasspath/p:evil.jar".toList (by decide) (by decide)

/-! ## The archives that the option names -/

/-- A list that names archives spells a text exactly if both archives' paths do. -/
theorem isText_bootToken_iff {library compiler : Bytes} {entries : List Text} :
    Utf8.IsText (bootToken library compiler entries) ↔
      Utf8.IsText library ∧ Utf8.IsText compiler := by
  have hcolon : (0x3A : UInt8).toNat < 0x80 := by decide
  have hsep (bs : Bytes) : Utf8.encode [pathSeparator] ++ bs = 0x3A :: bs := rfl
  have hrest : Utf8.IsText (compiler ++ entries.flatMap fun entry =>
      Utf8.encode (pathSeparator :: entry)) ↔ Utf8.IsText compiler := by
    cases entries with
    | nil => rw [List.flatMap_nil, List.append_nil]
    | cons entry entries =>
      rw [← encode_flatMap, List.flatMap_cons, List.cons_append, ← List.singleton_append,
        Utf8.encode_append, hsep, Utf8.isText_append_cons_iff hcolon]
      exact and_iff_left (Utf8.isText_encode _)
  unfold bootToken
  simp only [List.append_assoc]
  rw [Utf8.isText_encode_append_iff, hsep, Utf8.isText_append_cons_iff hcolon, hrest]

/-- **What the option names is what runs, exactly if the paths spell text.** -/
theorem bootToken_exact_iff {plan : Plan} {currentDir : Except SystemError Path}
    {command : List Bytes} (h : plan.command currentDir = .ok command) :
    ∃ library compiler : Path,
      plan.support.library.ResolvesTo currentDir library ∧
      plan.support.compiler.ResolvesTo currentDir compiler ∧
      command[plan.arguments.jvmOptions.length + 3]? = some (Bytes.ofString "-jar") ∧
      command[plan.arguments.jvmOptions.length + 4]? = some compiler.bytes ∧
      command[1]? = some (bootToken (Utf8.encode library.display) (Utf8.encode compiler.display)
        plan.arguments.bootClasspath) ∧
      (command[1]? = some (bootToken library.bytes compiler.bytes plan.arguments.bootClasspath) ↔
        Utf8.IsText library.bytes ∧ Utf8.IsText compiler.bytes) ∧
      (Utf8.encode compiler.display = compiler.bytes ↔ Utf8.IsText compiler.bytes) := by
  obtain ⟨library, compiler, archive, hlibrary, hcompiler, _, rfl⟩ := command_eq_ok_iff.mp h
  refine ⟨library, compiler, hlibrary, hcompiler, ?_, ?_, rfl, ?_, Utf8.encode_decodeLossy_eq_iff⟩
  · simp [assembled]
  · simp [assembled]
  · show some (bootToken _ _ _) = _ ↔ _
    rw [Option.some.injEq]
    constructor
    · intro hsame
      apply isText_bootToken_iff.mp
      rw [← hsame, isText_bootToken_iff]
      exact ⟨Utf8.isText_encode _, Utf8.isText_encode _⟩
    · rintro ⟨hlib, hcomp⟩
      rw [Path.display, Path.display, Utf8.encode_decodeLossy_eq_iff.mpr hlib,
        Utf8.encode_decodeLossy_eq_iff.mpr hcomp]

/-- Text need not be ASCII for the two names to agree. -/
theorem bootToken_exact_iff_umlaut :
    let compiler := Path.ofString "/opt/prüfer/javac.jar"
    let library := Path.ofString "/opt/prüfer/jdk7.jar"
    let plan := { installed (.ofTokens none []) with support := ⟨compiler, library⟩ }
    ∃ command : List Bytes, plan.command (.error .noEntry) = .ok command ∧
      command[1]? = some (bootToken library.bytes compiler.bytes []) ∧
      command[4]? = some compiler.bytes := by
  intro compiler library plan
  have h : plan.command (.error .noEntry) = .ok _ := rfl
  have htext : Utf8.IsText library.bytes ∧ Utf8.IsText compiler.bytes :=
    ⟨Utf8.isText_encode _, Utf8.isText_encode _⟩
  obtain ⟨library', compiler', hlibrary, hcompiler, _, hrun, _, hexact, _⟩ := bootToken_exact_iff h
  obtain rfl := hlibrary.eq_of_isAbsolute (by decide)
  obtain rfl := hcompiler.eq_of_isAbsolute (by decide)
  exact ⟨_, h, hexact.mpr htext, hrun⟩

/-- A compiler in a directory whose name is the byte `0xFF` runs, and another one is named. -/
theorem lossy_name_of_compiler :
    ¬∀ (plan : Plan) (currentDir : Except SystemError Path) (command : List Bytes),
      plan.command currentDir = .ok command →
      ∃ library compiler : Path,
        plan.support.library.ResolvesTo currentDir library ∧
        plan.support.compiler.ResolvesTo currentDir compiler ∧
        command[1]? =
          some (bootToken library.bytes compiler.bytes plan.arguments.bootClasspath) := by
  intro h
  let compiler : Path := ⟨[0x2F, 0xFF] ++ Bytes.ofString "/javac.jar"⟩
  let plan := { installed (.ofTokens none []) with
    support := ⟨compiler, .ofString "/opt/checker/jdk7.jar"⟩ }
  obtain ⟨library, compiler', hlibrary, hcompiler, hexact⟩ := h plan (.error .noEntry) _ rfl
  obtain rfl := hlibrary.eq_of_isAbsolute (by decide)
  obtain rfl := hcompiler.eq_of_isAbsolute (by decide)
  exact absurd hexact (by decide)

end Plan

end JavacLauncher
