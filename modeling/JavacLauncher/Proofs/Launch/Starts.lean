import JavacLauncher.Proofs.Launch.Planned

/-!
# What a launch starts

Any machine can be made to write down what is started on it (`Host.recorded`), and the launcher cannot
tell: it asks the same questions and gets the same answers. So a launch on the recording machine is the
launch, and a list of its starts.

The list is short. Asking for the version is the only start before there is a command line, and it
happens exactly if no version is set. Starting the compiler is the only one afterwards, and it happens
exactly if there is a command line (`launch_recorded`). The stages in between look at the machine and
leave it alone, so all of them see it as asking for the version left it (`asked`).
-/

namespace JavacLauncher

variable {σ : Type}

/-- A process that was started. -/
inductive Start where
  /-- What it wrote was collected. -/
  | collected (command : List Bytes)
  /-- It wrote on the launcher's own streams. -/
  | attached (command : List Bytes)
  deriving DecidableEq, Repr

/-- The command of a start, the program first. -/
def Start.command : Start → List Bytes
  | collected command => command
  | attached command => command

/-- The machine `host` with a list of all processes started on it, the last one at the end. A start
that fails is a start too. -/
def Host.recorded (host : Host σ) : Host (σ × List Start) where
  currentDir s := host.currentDir s.1
  isPresent s := host.isPresent s.1
  isFile s := host.isFile s.1
  read s := host.read s.1
  valueOf? s := host.valueOf? s.1
  accountHome? s := host.accountHome? s.1
  program s := host.program s.1
  collect command s :=
    let (result, after) := host.collect command s.1
    (result, after, s.2 ++ [.collected command])
  run command s :=
    let (result, after) := host.run command s.1
    (result, after, s.2 ++ [.attached command])

theorem Host.collect_recorded (host : Host σ) (command : List Bytes) (s : σ) (log : List Start) :
    host.recorded.collect command (s, log) =
      ((host.collect command s).1, (host.collect command s).2, log ++ [.collected command]) := rfl

theorem Host.run_recorded (host : Host σ) (command : List Bytes) (s : σ) (log : List Start) :
    host.recorded.run command (s, log) =
      ((host.run command s).1, (host.run command s).2, log ++ [.attached command]) := rfl

namespace Launch

variable (host : Host σ) (config : Config) (tokens : List Bytes) (classpath? : Option Bytes)
  (s : σ) (log : List Start)

/-- The state in which asking for the version leaves the machine, if it is asked at all. -/
def asked : σ := (detectVersion host (javaCommand config.javaHome) config.javaVersion s).2

/-- The command line that the launch comes to. -/
def built : Except LaunchError (List Bytes) := do
  let plan ← (plan host config tokens classpath? s).1
  plan.command (host.currentDir (asked host config s))

/-- The runtime is asked for its version exactly if none is set. -/
def versionStarts : List Start :=
  match config.javaVersion with
  | some _ => []
  | none => [.collected [(javaCommand config.javaHome).bytes, Bytes.ofString "-version"]]

/-- The compiler is started exactly if there is a command line: by its arguments, or by a shell that is
handed all of them quoted in one line. -/
def compilerStarts : List Start :=
  match built host config tokens classpath? s, config.invocation with
  | .error _, _ => []
  | .ok command, .spawn => [.attached command]
  | .ok command, .shell =>
    [.attached [Bytes.ofString "sh", Bytes.ofString "-c",
      Utf8.encode (CommandLine.ofArguments (command.map Utf8.decodeLossy))]]

/-- What the machine answers to the start of the compiler, if it comes to that. -/
def attempt? : Option (Except SystemError Outcome) :=
  (compilerStarts host config tokens classpath? s).head?.map fun start =>
    (host.run start.command (asked host config s)).1

/-- What comes of an attempt to start the compiler. A failure names the runtime. -/
def ended : Except SystemError Outcome → Except LaunchError Nat
  | .ok outcome => .ok outcome.code
  | .error cause =>
    .error (.execution ((javaCommand config.javaHome).display ++ ": ".toList ++ cause.message))

/-! ## What a launch is made of -/

theorem snd_plan : (plan host config tokens classpath? s).2 = asked host config s := by
  unfold plan asked
  rcases detectVersion host (javaCommand config.javaHome) config.javaVersion s with
    ⟨e | version, after⟩ <;> rfl

/-- A launch builds a command line and executes it where the version was asked for. -/
theorem launch_eq :
    launch host config tokens classpath? s =
      match built host config tokens classpath? s with
      | .ok command => execute host config.invocation command (asked host config s)
      | .error e => (.error e, asked host config s) := by
  unfold launch built
  rw [← snd_plan host config tokens classpath? s]
  rcases plan host config tokens classpath? s with ⟨e | plan, after⟩
  · rfl
  · dsimp only [bind, Except.bind]
    cases plan.command (host.currentDir after) <;> rfl

/-- A command line begins with the runtime. -/
theorem head_of_built {command : List Bytes}
    (h : built host config tokens classpath? s = .ok command) :
    ∃ others, command = (javaCommand config.javaHome).bytes :: others := by
  unfold built at h
  obtain ⟨plan, hplan, hcommand⟩ := bind_eq_ok_iff.mp h
  have hpair : Launch.plan host config tokens classpath? s = (.ok plan, asked host config s) :=
    Prod.ext hplan (snd_plan host config tokens classpath? s)
  obtain ⟨_, _, hfor⟩ := plan_eq_ok hpair
  obtain ⟨_, _, _, _, _, _, rfl⟩ := planFor_eq_ok hfor
  obtain ⟨_, _, _, _, _, _, rfl⟩ := Plan.command_eq_ok_iff.mp hcommand
  exact ⟨_, rfl⟩

theorem execute_eq (others : List Bytes) :
    let command := (javaCommand config.javaHome).bytes :: others
    execute host config.invocation command (asked host config s) =
      (ended config (host.run (started config.invocation command) (asked host config s)).1,
        (host.run (started config.invocation command) (asked host config s)).2) := by
  intro command
  unfold execute ended
  dsimp only [command]
  rcases host.run (started config.invocation command) (asked host config s) with
    ⟨cause | outcome, after⟩ <;> rfl

/-- The start is the one that the way of starting asks for. -/
theorem compilerStarts_eq :
    compilerStarts host config tokens classpath? s =
      match built host config tokens classpath? s with
      | .ok command => [.attached (started config.invocation command)]
      | .error _ => [] := by
  unfold compilerStarts started
  cases built host config tokens classpath? s with
  | error e => rfl
  | ok command => cases config.invocation <;> rfl

/-- A launch ends with the first failure, or as the compiler ends. -/
theorem fst_launch :
    (launch host config tokens classpath? s).1 =
      (built host config tokens classpath? s >>= fun command =>
        ended config (host.run (started config.invocation command) (asked host config s)).1) := by
  rw [launch_eq]
  cases hbuilt : built host config tokens classpath? s with
  | error e => rfl
  | ok command =>
    -- an empty command line would be refused without a start
    obtain ⟨others, rfl⟩ := head_of_built host config tokens classpath? s hbuilt
    exact congrArg Prod.fst (execute_eq host config s others)

theorem attempt?_eq :
    attempt? host config tokens classpath? s =
      (built host config tokens classpath? s).toOption.map fun command =>
        (host.run (started config.invocation command) (asked host config s)).1 := by
  unfold attempt?
  rw [compilerStarts_eq]
  cases built host config tokens classpath? s <;> rfl

/-! ## On a machine that writes down what is started -/

theorem askVersion_recorded (java : Path) :
    askVersion host.recorded java (s, log) =
      ((askVersion host java s).1, (askVersion host java s).2,
        log ++ [.collected [java.bytes, Bytes.ofString "-version"]]) := by
  unfold askVersion
  rw [Host.collect_recorded]
  rcases host.collect [java.bytes, Bytes.ofString "-version"] s with ⟨cause | out, after⟩ <;> rfl

theorem detectVersion_recorded :
    detectVersion host.recorded (javaCommand config.javaHome) config.javaVersion (s, log) =
      ((detectVersion host (javaCommand config.javaHome) config.javaVersion s).1,
        asked host config s, log ++ versionStarts config) := by
  unfold asked versionStarts detectVersion
  cases config.javaVersion with
  | some t => rw [List.append_nil]
  | none =>
    dsimp only
    rw [askVersion_recorded]
    rcases askVersion host (javaCommand config.javaHome) s with ⟨e | t, after⟩ <;> rfl

theorem asked_recorded :
    asked host.recorded config (s, log) = (asked host config s, log ++ versionStarts config) := by
  unfold asked
  rw [detectVersion_recorded]
  rfl

theorem plan_recorded :
    (plan host.recorded config tokens classpath? (s, log)).1 =
      (plan host config tokens classpath? s).1 := by
  unfold plan
  rw [detectVersion_recorded]
  unfold asked
  rcases detectVersion host (javaCommand config.javaHome) config.javaVersion s with
    ⟨e | version, after⟩ <;> rfl

theorem built_recorded :
    built host.recorded config tokens classpath? (s, log) = built host config tokens classpath? s := by
  unfold built
  rw [plan_recorded, asked_recorded]
  rfl

theorem execute_recorded (invocation : Invocation) (program : Bytes) (others : List Bytes) :
    execute host.recorded invocation (program :: others) (s, log) =
      ((execute host invocation (program :: others) s).1,
        (execute host invocation (program :: others) s).2,
        log ++ [.attached (started invocation (program :: others))]) := by
  unfold execute
  dsimp only
  rw [Host.run_recorded]
  rcases host.run (started invocation (program :: others)) s with ⟨cause | outcome, after⟩ <;> rfl

/-- **A launch starts what it has to and nothing else.** -/
theorem launch_recorded :
    launch host.recorded config tokens classpath? (s, log) =
      ((launch host config tokens classpath? s).1, (launch host config tokens classpath? s).2,
        log ++ versionStarts config ++ compilerStarts host config tokens classpath? s) := by
  rw [launch_eq, launch_eq, built_recorded, asked_recorded, compilerStarts_eq]
  cases hbuilt : built host config tokens classpath? s with
  | error e => rw [List.append_nil]
  | ok command =>
    obtain ⟨others, rfl⟩ := head_of_built host config tokens classpath? s hbuilt
    dsimp only
    rw [execute_recorded]

end Launch
end JavacLauncher
