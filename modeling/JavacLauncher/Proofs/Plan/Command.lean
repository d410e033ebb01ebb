import JavacLauncher.Plan
import JavacLauncher.Proofs.Arguments.Classpath
import JavacLauncher.Proofs.Path.Absolute

/-!
# The command line of a plan

`command` makes paths absolute in four places, and each of them may fail. All of them ask for
the same three archives, so the command line comes to this: the library, the compiler and the
launcher's own archive are made absolute, in this order, and `assembled` puts the tokens
together (`command_eq`). What a command line looks like is read off `assembled` alone.

The tokens of the launcher stand in front, the user's arguments for the compiler at the end
and nothing after them. Together with what is left of class path flags, this gives the safety
statement of the module: behind the launcher's class path there is no other one
(`classpath_not_overridden`).
-/

namespace JavacLauncher

theorem encode_flatMap {α : Type} (f : α → Text) (l : List α) :
    Utf8.encode (l.flatMap f) = l.flatMap fun a => Utf8.encode (f a) := by
  unfold Utf8.encode
  rw [List.flatMap_assoc]

theorem pathList_pair (currentDir : Except SystemError Path) (first second : Path)
    (previous? : Option Text) :
    pathList currentDir [first, second] previous? = do
      let first ← first.absolute currentDir
      let second ← second.absolute currentDir
      return [pathSeparator].intercalate ([first.display, second.display] ++ previous?.toList) := by
  unfold pathList
  rw [if_neg (List.cons_ne_nil _ _), List.mapM_cons, List.mapM_cons, List.mapM_nil]
  cases first.absolute currentDir with
  | error e => rfl
  | ok first => cases second.absolute currentDir <;> rfl

namespace Plan

/-! ## The tokens of a command line -/

/-- The option that puts two archives and then entries on the boot class path. -/
def bootToken (library compiler : Bytes) (entries : List Text) : Bytes :=
  Utf8.encode bootOption ++ library ++ Utf8.encode [pathSeparator] ++ compiler ++
    entries.flatMap fun entry => Utf8.encode (pathSeparator :: entry)

/-- The class path that begins with an archive. -/
def classpathToken (archive : Bytes) (entries : List Bytes) : Bytes :=
  archive ++ entries.flatMap (Utf8.encode [pathSeparator] ++ ·)

/-- The command line once the archives have absolute paths. -/
def assembled (plan : Plan) (library compiler archive : Path) : List Bytes :=
  plan.java.bytes ::
    bootToken (Utf8.encode library.display) (Utf8.encode compiler.display)
      plan.arguments.bootClasspath ::
    assertionsOption ::
    (plan.arguments.jvmOptions.map Utf8.encode ++
      Bytes.ofString "-jar" :: compiler.bytes ::
      Bytes.ofString "-classpath" :: classpathToken archive.bytes plan.arguments.classpath ::
      plan.arguments.toolOptions)

/-- The user's one list behind two archives is the user's entries one by one. -/
theorem intercalate_userBootClasspath (plan : Plan) (library compiler : Text) :
    [pathSeparator].intercalate ([library, compiler] ++ plan.userBootClasspath?.toList) =
      library ++ [pathSeparator] ++ compiler ++
        plan.arguments.bootClasspath.flatMap (pathSeparator :: ·) := by
  unfold userBootClasspath?
  rw [List.cons_append, intercalate_eq_append_flatMap]
  cases plan.arguments.bootClasspath with
  | nil => simp
  | cons entry entries =>
    dsimp only
    rw [intercalate_eq_append_flatMap]
    simp

theorem encode_bootClasspath (plan : Plan) (library compiler : Text) :
    Utf8.encode (bootOption ++
        [pathSeparator].intercalate ([library, compiler] ++ plan.userBootClasspath?.toList)) =
      bootToken (Utf8.encode library) (Utf8.encode compiler) plan.arguments.bootClasspath := by
  rw [intercalate_userBootClasspath]
  unfold bootToken
  simp only [Utf8.encode_append, encode_flatMap, List.append_assoc]

/-- **A command line is three absolute paths and an assembly.** -/
theorem command_eq (currentDir : Except SystemError Path) (plan : Plan) :
    plan.command currentDir = do
      let library ← plan.support.library.absolute currentDir
      let compiler ← plan.support.compiler.absolute currentDir
      let archive ← plan.selfArchive.absolute currentDir
      return plan.assembled library compiler archive := by
  unfold command bootClasspath classpath
  rw [pathList_pair]
  cases plan.support.library.absolute currentDir with
  | error e => rfl
  | ok library =>
    cases plan.support.compiler.absolute currentDir with
    | error e => rfl
    | ok compiler =>
      cases plan.selfArchive.absolute currentDir with
      | error e => rfl
      | ok archive =>
        have hboot := encode_bootClasspath plan library.display compiler.display
        refine congrArg Except.ok ?_
        rw [hboot]
        simp [assembled, classpathToken]

theorem command_eq_ok_iff {currentDir : Except SystemError Path} {plan : Plan}
    {command : List Bytes} :
    plan.command currentDir = .ok command ↔ ∃ library compiler archive : Path,
      plan.support.library.ResolvesTo currentDir library ∧
      plan.support.compiler.ResolvesTo currentDir compiler ∧
      plan.selfArchive.ResolvesTo currentDir archive ∧
      command = plan.assembled library compiler archive := by
  simp only [command_eq, ← Path.absolute_eq_ok_iff]
  constructor
  · intro h
    obtain ⟨library, hlibrary, h⟩ := bind_eq_ok_iff.mp h
    obtain ⟨compiler, hcompiler, h⟩ := bind_eq_ok_iff.mp h
    obtain ⟨archive, harchive, h⟩ := bind_eq_ok_iff.mp h
    exact ⟨library, compiler, archive, hlibrary, hcompiler, harchive, (Except.ok.inj h).symm⟩
  · rintro ⟨library, compiler, archive, hlibrary, hcompiler, harchive, rfl⟩
    rw [hlibrary, hcompiler, harchive]
    rfl

/-! ## Plans that need no current directory -/

/-- A plan that names its archives by absolute paths. -/
structure HasAbsoluteArchives (plan : Plan) : Prop where
  library : plan.support.library.IsAbsolute
  compiler : plan.support.compiler.IsAbsolute
  selfArchive : plan.selfArchive.IsAbsolute

namespace HasAbsoluteArchives

variable {plan : Plan} (h : plan.HasAbsoluteArchives) (currentDir : Except SystemError Path)

include h

theorem bootClasspath_eq : plan.bootClasspath currentDir =
    .ok ([pathSeparator].intercalate
      ([plan.support.library.display, plan.support.compiler.display] ++
        plan.userBootClasspath?.toList)) := by
  unfold bootClasspath
  rw [pathList_pair, Path.absolute_of_isAbsolute h.library, Path.absolute_of_isAbsolute h.compiler]
  rfl

theorem classpath_eq : plan.classpath currentDir =
    .ok (classpathToken plan.selfArchive.bytes plan.arguments.classpath) := by
  unfold classpath
  rw [Path.absolute_of_isAbsolute h.selfArchive]
  rfl

theorem command_eq : plan.command currentDir =
    .ok (plan.assembled plan.support.library plan.support.compiler plan.selfArchive) := by
  rw [Plan.command_eq, Path.absolute_of_isAbsolute h.library,
    Path.absolute_of_isAbsolute h.compiler, Path.absolute_of_isAbsolute h.selfArchive]
  rfl

end HasAbsoluteArchives

/-! ## The launcher's class path -/

/-- Behind a class path of at least one entry more, the archive stands first. -/
theorem classpathToken_eq {entries : List Bytes} (h : entries ≠ []) (archive : Bytes) :
    classpathToken archive entries =
      archive ++ Utf8.encode [pathSeparator] ++ (Utf8.encode [pathSeparator]).intercalate entries := by
  cases entries with
  | nil => exact absurd rfl h
  | cons entry entries =>
    unfold classpathToken
    rw [intercalate_eq_append_flatMap, List.flatMap_cons]
    simp only [List.append_assoc]

/-- The user's class path has an entry, if only the current directory. -/
theorem classpath_ofTokens_ne_nil (inherited? : Option Bytes) (tokens : List Bytes) :
    (Arguments.ofTokens inherited? tokens).classpath ≠ [] := by
  unfold Arguments.ofTokens Arguments.extractClasspath
  dsimp only
  cases (Arguments.takeClasspath _).1 with
  | none =>
    intro h
    exact absurd (congrArg List.length h) (by simp [Arguments.defaultClasspath])
  | some value => exact List.cons_ne_nil _ _

/-- **The class path cannot be overridden.** -/
theorem classpath_not_overridden {inherited? : Option Bytes} {tokens : List Bytes} {plan : Plan}
    {currentDir : Except SystemError Path} {command : List Bytes}
    (harguments : plan.arguments = .ofTokens inherited? tokens)
    (h : plan.command currentDir = .ok command) :
    ∃ (compiler archive : Path) (front behind : List Bytes),
      plan.support.compiler.ResolvesTo currentDir compiler ∧
      plan.selfArchive.ResolvesTo currentDir archive ∧
      front.length = plan.arguments.jvmOptions.length + 3 ∧
      command = front ++
        [Bytes.ofString "-jar", compiler.bytes, Bytes.ofString "-classpath",
          archive.bytes ++ Utf8.encode [pathSeparator] ++
            (Utf8.encode [pathSeparator]).intercalate plan.arguments.classpath] ++ behind ∧
      Arguments.FlagsOnlyLast behind := by
  obtain ⟨library, compiler, archive, _, hcompiler, harchive, rfl⟩ := command_eq_ok_iff.mp h
  have hentries : plan.arguments.classpath ≠ [] := by
    rw [harguments]
    exact classpath_ofTokens_ne_nil inherited? tokens
  refine ⟨compiler, archive, plan.java.bytes ::
    bootToken (Utf8.encode library.display) (Utf8.encode compiler.display)
      plan.arguments.bootClasspath :: assertionsOption ::
    plan.arguments.jvmOptions.map Utf8.encode, plan.arguments.toolOptions, hcompiler, harchive,
    ?_, ?_, ?_⟩
  · simp
  · rw [← classpathToken_eq hentries]
    simp [assembled]
  · rw [harguments]
    exact Arguments.flagsOnlyLast_takeClasspath _

/-- The plan of a launcher that is installed in one directory. -/
def installed (arguments : Arguments) : Plan where
  java := .ofString "java"
  selfArchive := .ofString "/opt/checker/checkers.jar"
  support := ⟨.ofString "/opt/checker/javac.jar", .ofString "/opt/checker/jdk7.jar"⟩
  arguments := arguments

/-- A class path, and then a flag with a runtime option in the place of its value. -/
theorem classpath_not_overridden_danglingFlag :
    let tokens := ["-cp", "a.jar", "-classpath", "-J-ea"].map Bytes.ofString
    let plan := installed (.ofTokens none tokens)
    ∃ (command front behind : List Bytes),
      plan.command (.error .noEntry) = .ok command ∧
      front.length = plan.arguments.jvmOptions.length + 3 ∧
      command = front ++ ["-jar", "/opt/checker/javac.jar", "-classpath",
        "/opt/checker/checkers.jar:a.jar"].map Bytes.ofString ++ behind ∧
      Arguments.FlagsOnlyLast behind := by
  intro tokens plan
  have harguments : plan.arguments = .ofTokens none tokens := rfl
  have h : plan.command (.error .noEntry) = .ok _ := rfl
  obtain ⟨compiler, archive, front, behind, hcompiler, harchive, hlength, hcommand, hbehind⟩ :=
    classpath_not_overridden harguments h
  obtain rfl := hcompiler.eq_of_isAbsolute (by decide)
  obtain rfl := harchive.eq_of_isAbsolute (by decide)
  exact ⟨_, front, behind, h, hlength, hcommand, hbehind⟩

end Plan

end JavacLauncher
