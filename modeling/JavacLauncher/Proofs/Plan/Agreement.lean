import JavacLauncher.Proofs.Install.Search
import JavacLauncher.Proofs.Plan.Command

/-!
# The whole command line and its parts

The boot class path and the class path of a plan can be asked for one by one, and the command line
holds both. It makes paths absolute in four places: two for the boot class path, one for the archive
that runs, one for the class path. Each of them can fail, and it fails if its path is relative and
there is no current directory to see it from (`failure?_absolute`).

What is asked for in a row fails with the first such path (`pathFault?_append`). The archive that runs
is one of the two on the boot class path, so asking for it again finds no new fault, and the command
line fails where one of its parts does, and with the same error as the first of them
(`failure?_command`). If none fails, it holds what the parts give (`command_agrees`).
-/

namespace JavacLauncher

/-! ## Relative paths without a current directory -/

/-- What is wrong with paths that have to be absolute: the first one that is relative, if there is no
current directory. -/
def pathFault? (currentDir : Except SystemError Path) (paths : List Path) : Option LaunchError :=
  match currentDir with
  | .ok _ => none
  | .error cause => (paths.find? fun p => ¬p.IsAbsolute).map (.system · cause)

theorem pathFault?_append (currentDir : Except SystemError Path) (front back : List Path) :
    pathFault? currentDir (front ++ back) =
      (pathFault? currentDir front).or (pathFault? currentDir back) := by
  cases currentDir with
  | ok dir => rfl
  | error cause =>
    unfold pathFault?
    dsimp only
    rw [List.find?_append, Option.map_or]

theorem exists_pathFault?_iff {currentDir : Except SystemError Path} {paths : List Path} :
    (∃ e, pathFault? currentDir paths = some e) ↔
      (∃ cause, currentDir = .error cause) ∧ ∃ path ∈ paths, ¬path.IsAbsolute := by
  cases currentDir with
  | ok dir => simp [pathFault?]
  | error cause =>
    unfold pathFault?
    rw [← Option.isSome_iff_exists, Option.isSome_map, List.find?_isSome]
    simp

theorem failure?_absolute (currentDir : Except SystemError Path) (p : Path) :
    failure? (p.absolute currentDir) = pathFault? currentDir [p] := by
  by_cases hp : p.IsAbsolute
  · rw [Path.absolute_of_isAbsolute hp]
    cases currentDir with
    | ok dir => rfl
    | error cause => simp [failure?, pathFault?, hp]
  · unfold Path.absolute
    rw [if_neg hp]
    cases currentDir with
    | ok dir => rfl
    | error cause => simp [failure?, pathFault?, hp]

namespace Plan

variable (currentDir : Except SystemError Path) (plan : Plan)

/-! ## The parts -/

theorem failure?_bootClasspath : failure? (plan.bootClasspath currentDir) =
    pathFault? currentDir [plan.support.library, plan.support.compiler] := by
  unfold bootClasspath
  rw [pathList_pair, failure?_bind_of_forall fun library => failure?_bind_pure _ _,
    failure?_absolute, failure?_absolute, ← pathFault?_append]
  rfl

theorem failure?_classpath :
    failure? (plan.classpath currentDir) = pathFault? currentDir [plan.selfArchive] := by
  unfold classpath
  rw [failure?_bind_pure, failure?_absolute]

/-! ## The whole -/

theorem failure?_command : failure? (plan.command currentDir) =
    pathFault? currentDir [plan.support.library, plan.support.compiler, plan.selfArchive] := by
  rw [command_eq, failure?_bind_of_forall fun library =>
    failure?_bind_of_forall fun compiler => failure?_bind_pure _ _]
  rw [failure?_absolute, failure?_absolute, failure?_absolute, ← pathFault?_append,
    ← pathFault?_append]
  rfl

/-- The boot class path names what the two archives resolve to. -/
theorem bootClasspath_eq_ok_iff {boot : Text} : plan.bootClasspath currentDir = .ok boot ↔
    ∃ library compiler : Path, plan.support.library.ResolvesTo currentDir library ∧
      plan.support.compiler.ResolvesTo currentDir compiler ∧
      boot = library.display ++ [pathSeparator] ++ compiler.display ++
        plan.arguments.bootClasspath.flatMap (pathSeparator :: ·) := by
  unfold bootClasspath
  rw [pathList_pair]
  simp only [← Path.absolute_eq_ok_iff, ← intercalate_userBootClasspath]
  constructor
  · intro h
    obtain ⟨library, hlibrary, h⟩ := bind_eq_ok_iff.mp h
    obtain ⟨compiler, hcompiler, h⟩ := bind_eq_ok_iff.mp h
    exact ⟨library, compiler, hlibrary, hcompiler, (Except.ok.inj h).symm⟩
  · rintro ⟨library, compiler, hlibrary, hcompiler, rfl⟩
    rw [hlibrary, hcompiler]
    rfl

/-- The class path begins with what the launcher's own archive resolves to. -/
theorem classpath_eq_ok_iff {classpath : Bytes} : plan.classpath currentDir = .ok classpath ↔
    ∃ archive : Path, plan.selfArchive.ResolvesTo currentDir archive ∧
      classpath = archive.bytes ++
        plan.arguments.classpath.flatMap (Utf8.encode [pathSeparator] ++ ·) := by
  unfold Plan.classpath
  simp only [← Path.absolute_eq_ok_iff]
  constructor
  · intro h
    obtain ⟨archive, harchive, h⟩ := bind_eq_ok_iff.mp h
    exact ⟨archive, harchive, (Except.ok.inj h).symm⟩
  · rintro ⟨archive, harchive, rfl⟩
    rw [harchive]
    rfl

/-- **The command line fails where one of its parts does**, with the first relative archive, and else
it holds what the parts give. The archives in it are absolute: as the plan names them, or behind the
current directory. -/
theorem command_agrees :
    failure? (plan.bootClasspath currentDir) =
      pathFault? currentDir [plan.support.library, plan.support.compiler] ∧
    failure? (plan.classpath currentDir) = pathFault? currentDir [plan.selfArchive] ∧
    failure? (plan.command currentDir) =
      pathFault? currentDir [plan.support.library, plan.support.compiler, plan.selfArchive] ∧
    ((∃ e, plan.command currentDir = .error e) ↔ (∃ cause, currentDir = .error cause) ∧
      ∃ path ∈ [plan.support.library, plan.support.compiler, plan.selfArchive],
        ¬path.IsAbsolute) ∧
    (∀ boot, plan.bootClasspath currentDir = .ok boot ↔
      ∃ library compiler : Path, plan.support.library.ResolvesTo currentDir library ∧
        plan.support.compiler.ResolvesTo currentDir compiler ∧
        boot = library.display ++ ":".toList ++ compiler.display ++
          plan.arguments.bootClasspath.flatMap (":".toList ++ ·)) ∧
    (∀ classpath, plan.classpath currentDir = .ok classpath ↔
      ∃ archive : Path, plan.selfArchive.ResolvesTo currentDir archive ∧
        classpath = archive.bytes ++ plan.arguments.classpath.flatMap (Bytes.ofString ":" ++ ·)) ∧
    ∀ command, plan.command currentDir = .ok command ↔
      ∃ (boot : Text) (classpath : Bytes) (compiler : Path),
        plan.bootClasspath currentDir = .ok boot ∧
        plan.classpath currentDir = .ok classpath ∧
        plan.support.compiler.ResolvesTo currentDir compiler ∧
        command = [plan.java.bytes, Utf8.encode ("-Xbootclasspath/p:".toList ++ boot),
            Bytes.ofString "-ea:com.sun.tools..."] ++
          plan.arguments.jvmOptions.map Utf8.encode ++
          [Bytes.ofString "-jar", compiler.bytes, Bytes.ofString "-classpath", classpath] ++
          plan.arguments.toolOptions ∧
        command.length =
          plan.arguments.jvmOptions.length + plan.arguments.toolOptions.length + 7 := by
  refine ⟨plan.failure?_bootClasspath currentDir, plan.failure?_classpath currentDir,
    plan.failure?_command currentDir, ?_, fun boot => plan.bootClasspath_eq_ok_iff currentDir,
    fun classpath => plan.classpath_eq_ok_iff currentDir, fun command => ?_⟩
  · rw [← exists_pathFault?_iff, ← failure?_command]
    simp only [failure?_eq_some_iff]
  · simp only [← Path.absolute_eq_ok_iff]
    unfold Plan.command
    constructor
    · intro h
      obtain ⟨boot, hboot, h⟩ := bind_eq_ok_iff.mp h
      obtain ⟨compiler, hcompiler, h⟩ := bind_eq_ok_iff.mp h
      obtain ⟨classpath, hclasspath, h⟩ := bind_eq_ok_iff.mp h
      obtain rfl := Except.ok.inj h
      refine ⟨boot, classpath, compiler, hboot, hclasspath, hcompiler, rfl, ?_⟩
      simp only [List.length_append, List.length_map, List.length_cons, List.length_nil]
      omega
    · rintro ⟨boot, classpath, compiler, hboot, hclasspath, hcompiler, rfl, _⟩
      rw [hboot, hcompiler, hclasspath]
      rfl

-- relative archives stand behind the current directory, with a slash between them
example : { installed (.ofTokens none []) with
      selfArchive := .ofString "checkers.jar"
      support := ⟨.ofString "binary/javac.jar", .ofString "/opt/checker/jdk7.jar"⟩ }.command
        (.ok (.ofString "/opt")) =
    .ok (["java", "-Xbootclasspath/p:/opt/checker/jdk7.jar:/opt/binary/javac.jar",
      "-ea:com.sun.tools...", "-jar", "/opt/binary/javac.jar", "-classpath",
      "/opt/checkers.jar:."].map Bytes.ofString) := rfl

-- the compiler is the first relative archive, and it is looked at before the launcher's own one
example : { installed (.ofTokens none []) with
      selfArchive := .ofString "checkers.jar"
      support := ⟨.ofString "javac.jar", .ofString "/opt/checker/jdk7.jar"⟩ }.command (.error .noEntry) =
    .error (.system (.ofString "javac.jar") .noEntry) := rfl

end Plan

end JavacLauncher
