import JavacLauncher.Proofs.Launch.Starts

/-!
# Which fault is reported

Many things may be wrong with a launch at once, and the user is told of one of them. To say of which,
each stage gets the fault that it has on its own (`fault`): an installation without search directories
has that fault under any version of the runtime, also under one that is not supported. The stages
stand in the order in which the launch does them, and the fault that is reported is the first one
(`launch_first_fault`).

The order of the stages is not the order of the calls. Choosing the annotated library is part of
finding the support files, which comes after the archive was located, although the version was known
before; so a bad location hides an unsupported version, and that one hides an empty search path.
-/

namespace JavacLauncher

namespace Launch

variable {σ : Type}

/-- What may fail in a launch, in the order in which it is done. -/
inductive Stage where
  /-- Asking the runtime for its version, if none is set, and reading the version. -/
  | version
  /-- Finding the launcher's own archive. -/
  | archive
  /-- Choosing the annotated library for the version. -/
  | library
  /-- Having directories to search. -/
  | searchPath
  /-- Finding the support files. -/
  | files
  /-- Building the command line. -/
  | command
  /-- Starting the compiler. -/
  | start
  deriving DecidableEq, Repr

/-- The stages before the compiler is started. -/
def Stage.preparations : List Stage := [version, archive, library, searchPath, files, command]

/-- All stages, in their order. -/
def Stage.all : List Stage := preparations ++ [start]

variable (host : Host σ) (config : Config) (tokens : List Bytes) (classpath? : Option Bytes) (s : σ)

/-- The version of the runtime. -/
def version : Except LaunchError Version :=
  (detectVersion host (javaCommand config.javaHome) config.javaVersion s).1

/-- The installation around the launcher's own archive. -/
def layout : Except LaunchError Layout := do
  let location ← config.selfArchiveLocation host (asked host config s)
  Layout.ofLocation (host.currentDir (asked host config s)) location config.searchPaths

/-- What is wrong with a stage, whatever is wrong with the others. A stage has no fault where
something is missing that an earlier stage should have given. -/
def fault : Stage → Option LaunchError
  | .version => failure? (version host config s)
  | .archive =>
    match config.selfArchiveLocation host (asked host config s) with
    | .error e => some e
    | .ok location =>
      match Location.locate (host.currentDir (asked host config s)) location with
      | .error e => some e
      | .ok archive => if archive.parent? = none then some (.unrecognizedLocation location) else none
  | .library => (version host config s).toOption.bind fun v => failure? v.annotatedLibrary
  | .searchPath => if config.searchPaths = [] then some .emptyPathSet else none
  | .files => do
    let v ← (version host config s).toOption
    let library ← v.annotatedLibrary.toOption
    let layout ← (layout host config s).toOption
    layout.missingFault? (host.isPresent (asked host config s)) [config.compilerArchive, library]
  | .command => do
    let plan ← (plan host config tokens classpath? s).1.toOption
    failure? (plan.command (host.currentDir (asked host config s)))
  | .start =>
    match attempt? host config tokens classpath? s with
    | some (.error cause) =>
      some (.execution ((javaCommand config.javaHome).display ++ ": ".toList ++ cause.message))
    | _ => none

/-- The fault that is met first. -/
def firstFault (stages : List Stage) : Option LaunchError :=
  stages.findSome? (fault host config tokens classpath? s)

theorem firstFault_cons (stage : Stage) (later : List Stage) :
    firstFault host config tokens classpath? s (stage :: later) =
      (fault host config tokens classpath? s stage).or
        (firstFault host config tokens classpath? s later) := by
  unfold firstFault
  rw [List.findSome?_cons]
  cases fault host config tokens classpath? s stage <;> rfl

theorem firstFault_nil : firstFault host config tokens classpath? s [] = none := rfl

theorem firstFault_singleton (stage : Stage) :
    firstFault host config tokens classpath? s [stage] =
      fault host config tokens classpath? s stage := by
  rw [firstFault_cons, firstFault_nil, Option.or_none]

theorem firstFault_append (earlier later : List Stage) :
    firstFault host config tokens classpath? s (earlier ++ later) =
      (firstFault host config tokens classpath? s earlier).or
        (firstFault host config tokens classpath? s later) := List.findSome?_append

theorem failure?_layout :
    failure? (layout host config s) = fault host config tokens classpath? s .archive := by
  unfold layout fault
  cases config.selfArchiveLocation host (asked host config s) with
  | error e => rfl
  | ok location =>
    show failure? (Layout.ofLocation _ location _) = _
    unfold Layout.ofLocation
    dsimp only
    cases Location.locate (host.currentDir (asked host config s)) location with
    | error e => rfl
    | ok archive =>
      dsimp only [bind, Except.bind]
      cases archive.parent? <;> rfl

/-- There are as many directories to search as there are entries. -/
theorem searchDirs_eq_nil_iff {layout : Layout} (h : Launch.layout host config s = .ok layout) :
    layout.searchDirs = [] ↔ config.searchPaths = [] := by
  unfold Launch.layout at h
  obtain ⟨location, _, hlayout⟩ := bind_eq_ok_iff.mp h
  obtain ⟨_, _, _, _, rfl⟩ := Layout.ofLocation_eq_ok hlayout
  exact List.map_eq_nil_iff

/-- A plan is made from a version, a layout and the support files in it. -/
theorem fst_plan :
    (plan host config tokens classpath? s).1 = do
      let v ← version host config s
      let layout ← layout host config s
      let support ← layout.supportFiles (host.isPresent (asked host config s))
        config.compilerArchive v
      return ⟨javaCommand config.javaHome, layout.selfArchive, support,
        .ofTokens classpath? tokens⟩ := by
  unfold plan version layout asked
  rcases detectVersion host (javaCommand config.javaHome) config.javaVersion s with ⟨e | v, after⟩
  · rfl
  · dsimp only [planFor, bind, Except.bind]
    cases config.selfArchiveLocation host after <;> rfl

/-- Making a plan goes through the first five stages. -/
theorem failure?_plan :
    failure? (plan host config tokens classpath? s).1 =
      firstFault host config tokens classpath? s
        [.version, .archive, .library, .searchPath, .files] := by
  have harchive := failure?_layout host config tokens classpath? s
  rw [fst_plan, failure?_bind]
  simp only [firstFault_cons, firstFault_nil, Option.or_none, ← harchive]
  simp only [fault]
  cases version host config s with
  | error e => rfl
  | ok v =>
    simp only [Except.toOption, Option.bind_some]
    rw [failure?_bind]
    -- the version is known, but no library is chosen before there is a layout
    cases hlayout : layout host config s with
    | error e => rfl
    | ok layout =>
      -- the search looks at its directories, the stage at the settings
      have hdirs := searchDirs_eq_nil_iff host config s hlayout
      simp only [Except.toOption, Option.bind_some]
      rw [failure?_bind_pure, Layout.failure?_supportFiles]
      simp only [hdirs, Option.bind_eq_bind, Option.bind_some]
      cases v.annotatedLibrary <;> rfl

/-- Building a command line goes through all stages but the last one. -/
theorem failure?_built :
    failure? (built host config tokens classpath? s) =
      firstFault host config tokens classpath? s Stage.preparations := by
  unfold built
  rw [failure?_bind, failure?_plan]
  show _ = firstFault _ _ _ _ _ ([.version, .archive, .library, .searchPath, .files] ++ [.command])
  rw [firstFault_append, firstFault_singleton]
  rfl

/-- How the compiler ended, if it was started. -/
def child? : Option Outcome := (attempt? host config tokens classpath? s).bind Except.toOption

theorem failure?_start :
    ((built host config tokens classpath? s).toOption.bind fun command =>
        failure? (ended config (host.run (started config.invocation command) (asked host config s)).1)) =
      fault host config tokens classpath? s .start := by
  unfold fault
  rw [attempt?_eq]
  cases built host config tokens classpath? s with
  | error e => rfl
  | ok command =>
    dsimp only [Except.toOption, Option.bind_some, Option.map_some]
    cases (host.run (started config.invocation command) (asked host config s)).1 <;> rfl

/-- A launch goes through all stages. -/
theorem failure?_launch :
    failure? (launch host config tokens classpath? s).1 =
      firstFault host config tokens classpath? s Stage.all := by
  rw [fst_launch, failure?_bind, failure?_built, failure?_start, Stage.all, firstFault_append,
    firstFault_singleton]

/-- The compiler is started exactly if nothing is wrong before. -/
theorem compilerStarts_eq_nil_iff :
    compilerStarts host config tokens classpath? s = [] ↔
      firstFault host config tokens classpath? s Stage.preparations ≠ none := by
  rw [← failure?_built, compilerStarts_eq]
  cases built host config tokens classpath? s <;> simp [failure?]

/-- A launch ends well exactly if the compiler was started and ended, and then with its code. -/
theorem toOption_launch :
    (launch host config tokens classpath? s).1.toOption =
      (child? host config tokens classpath? s).map fun
        | .exited code => code.toNat
        | .killed signal => 128 + signal.toNat := by
  rw [fst_launch]
  unfold child?
  rw [attempt?_eq]
  cases built host config tokens classpath? s with
  | error e => rfl
  | ok command =>
    simp only [bind, Except.bind, Except.toOption, Option.map_some, Option.bind_some]
    rcases (host.run (started config.invocation command) (asked host config s)).1 with
      cause | ⟨code | signal⟩ <;> rfl

theorem exitCode_eq (result : Except LaunchError Nat) : exitCode result = result.toOption.getD 1 := by
  cases result <;> rfl

/-- Reading settings starts nothing. -/
theorem run_recorded (log : List Start) :
    run host.recorded tokens (s, log) =
      match Config.load host s with
      | .error e => (.error e, s, log)
      | .ok config =>
        launch host.recorded config tokens (host.valueOf? s "CLASSPATH".toList) (s, log) := by
  unfold run
  show (match Config.load host s with | .error e => _ | .ok config => _) = _
  cases Config.load host s <;> rfl

-- the shell is handed the whole command in one line, and is killed
example :
    let host := { Snapshot.host with
      run := fun command s => (.ok (.killed 9), { s with commands := s.commands ++ [command] }) }
    let machine : Snapshot := {
      environment := [("CHECKER_LAUNCHER_SELF_ARCHIVE".toList, Bytes.ofString "/opt/c.jar"),
        ("CHECKER_LAUNCHER_JAVA_VERSION".toList, Bytes.ofString "1.7.0"),
        ("CHECKER_LAUNCHER_INVOCATION".toList, Bytes.ofString "shell")]
      currentDir := .error .noEntry
      program := .error .noEntry
      files := [(.ofString "/opt/./javac.jar", .ok []), (.ofString "/opt/./jdk7.jar", .ok [])]
      greeting := []
      commands := [] }
    let (result, after) := run host [Bytes.ofString "A.java"] machine
    exitCode result = 137 ∧
      after.commands = [[Bytes.ofString "sh", Bytes.ofString "-c",
        Bytes.ofString "\"java\" \"-Xbootclasspath/p:/opt/./jdk7.jar:/opt/./javac.jar\" " ++
        Bytes.ofString "\"-ea:com.sun.tools...\" \"-jar\" \"/opt/./javac.jar\" " ++
        Bytes.ofString "\"-classpath\" \"/opt/c.jar:.\" \"A.java\""]] := by
  decide +kernel

/-- Three things are wrong here. The location is the first one that is looked at. -/
example :
    let machine : Snapshot := ⟨[], .ok (.ofString "/opt"), .error .noEntry, [], [], []⟩
    let config : Config := { Config.default with
      selfArchive := some "checker/../..".toList
      javaVersion := some "1.9.0".toList
      searchPaths := [] }
    firstFault Snapshot.host config [] none machine Stage.all =
        some (.unrecognizedLocation "checker/../..".toList) ∧
      fault Snapshot.host config [] none machine .library =
        some (.unsupportedVersion "1.9".toList) ∧
      fault Snapshot.host config [] none machine .searchPath = some .emptyPathSet := by
  decide

end Launch

end JavacLauncher
