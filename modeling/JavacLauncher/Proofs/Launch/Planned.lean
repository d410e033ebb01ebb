import JavacLauncher.Launch
import JavacLauncher.Proofs.Install.Search
import JavacLauncher.Proofs.Plan.Command
import JavacLauncher.Snapshot

/-!
# What a plan promises

A plan is made in one directory and used in another one: the runtime may be asked for its version
in between, and whoever runs the plan may have gone elsewhere. The command line makes paths
absolute once more and would ask for the current directory then. It never comes to that. The
archives of a plan have absolute paths already, whatever the settings say, so the plan means the
same everywhere, and also where there is no current directory any more (`plan_anywhere`).
-/

namespace JavacLauncher.Launch

variable {σ : Type} {host : Host σ} {config : Config} {tokens : List Bytes}
  {classpath? : Option Bytes} {s s' : σ} {plan : Plan}

/-- A plan is made in the state in which asking for the version leaves the machine. -/
theorem plan_eq_ok (h : Launch.plan host config tokens classpath? s = (.ok plan, s')) :
    ∃ version, detectVersion host (javaCommand config.javaHome) config.javaVersion s =
        (.ok version, s') ∧
      planFor host config version tokens classpath? s' = .ok plan := by
  unfold Launch.plan at h
  split at h
  · rename_i version after hversion
    obtain ⟨hplan, rfl⟩ := Prod.mk.inj h
    exact ⟨version, hversion, hplan⟩
  · cases h

/-- A plan is a layout, the support files that lie in it, and the arguments. -/
theorem planFor_eq_ok {version : Version}
    (h : planFor host config version tokens classpath? s = .ok plan) :
    ∃ location layout support, config.selfArchiveLocation host s = .ok location ∧
      Layout.ofLocation (host.currentDir s) location config.searchPaths = .ok layout ∧
      layout.supportFiles (host.isPresent s) config.compilerArchive version = .ok support ∧
      plan = ⟨javaCommand config.javaHome, layout.selfArchive, support,
        .ofTokens classpath? tokens⟩ := by
  unfold planFor at h
  obtain ⟨location, hlocation, h⟩ := bind_eq_ok_iff.mp h
  obtain ⟨layout, hlayout, h⟩ := bind_eq_ok_iff.mp h
  obtain ⟨support, hsupport, h⟩ := bind_eq_ok_iff.mp h
  exact ⟨location, layout, support, hlocation, hlayout, hsupport, (Except.ok.inj h).symm⟩

/-- The archives that a plan names: its own one is reduced, the others were there. -/
theorem archives_of_planFor {version : Version}
    (hdir : ∀ dir, host.currentDir s = .ok dir → dir.IsAbsolute)
    (h : planFor host config version tokens classpath? s = .ok plan) :
    plan.selfArchive.IsReducedFile ∧
    (plan.support.compiler.IsAbsolute ∧ host.isPresent s plan.support.compiler = true) ∧
    (plan.support.library.IsAbsolute ∧ host.isPresent s plan.support.library = true) := by
  obtain ⟨location, layout, support, _, hlayout, hsupport, rfl⟩ := planFor_eq_ok h
  obtain ⟨harchive, hdirs⟩ := Layout.isReducedFile_of_ofLocation hdir hlayout
  obtain ⟨library, _, hcompiler, hlibrary⟩ := Layout.supportFiles_eq_ok hsupport
  exact ⟨harchive, ⟨hcompiler.isAbsolute hdirs, hcompiler.isPresent⟩,
    hlibrary.isAbsolute hdirs, hlibrary.isPresent⟩

/-- **A plan means the same in every directory.** Its own archive is a reduced path below the
root, its support files were there when it was made, and no use of it asks where it is used. -/
theorem plan_anywhere (hdir : ∀ dir, host.currentDir s' = .ok dir → dir.IsAbsolute)
    (h : Launch.plan host config tokens classpath? s = (.ok plan, s')) :
    plan.selfArchive.IsReducedFile ∧
    (plan.support.compiler.IsAbsolute ∧ host.isPresent s' plan.support.compiler = true) ∧
    (plan.support.library.IsAbsolute ∧ host.isPresent s' plan.support.library = true) ∧
    ∃ (boot : Text) (classpath : Bytes) (command : List Bytes),
      ∀ currentDir : Except SystemError Path,
        plan.bootClasspath currentDir = .ok boot ∧
        plan.classpath currentDir = .ok classpath ∧
        plan.command currentDir = .ok command := by
  obtain ⟨_, _, hplan⟩ := plan_eq_ok h
  obtain ⟨harchive, hcompiler, hlibrary⟩ := archives_of_planFor hdir hplan
  have habsolute : plan.HasAbsoluteArchives := ⟨hlibrary.1, hcompiler.1, harchive.isAbsolute⟩
  exact ⟨harchive, hcompiler, hlibrary, _, _, _, fun currentDir =>
    ⟨habsolute.bootClasspath_eq currentDir, habsolute.classpath_eq currentDir,
      habsolute.command_eq currentDir⟩⟩

/-- The archive is given by a relative path with spare parts, and the plan is used from nowhere. -/
theorem plan_anywhere_relative :
    let machine : Snapshot := {
      environment := []
      currentDir := .ok (.ofString "/opt/checker/bin")
      program := .error .noEntry
      files := [(.ofString "/opt/checker/../javac.jar", .ok []),
        (.ofString "/opt/checker/lib/jdk7.jar", .ok [])]
      greeting := Bytes.ofString "java version \"1.7.0_80\"\n"
      commands := [] }
    let config : Config := { Config.default with
      selfArchive := some "..//lib/./../checkers.jar".toList
      searchPaths := ["..".toList, "/opt/checker/lib".toList] }
    ∃ plan : Plan,
      Launch.plan Snapshot.host config [] none machine = (.ok plan, machine) ∧
      plan.selfArchive = .ofString "/opt/checker/checkers.jar" ∧
      plan.selfArchive.IsReducedFile ∧
      plan.classpath (.error .noEntry) = .ok (Bytes.ofString "/opt/checker/checkers.jar:.") ∧
      plan.command (.error .noEntry) = plan.command (.ok (.ofString "/")) := by
  intro machine config
  have hdir : ∀ dir, Snapshot.host.currentDir machine = .ok dir → dir.IsAbsolute := by
    intro dir h
    obtain rfl := Except.ok.inj h
    decide
  have h : Launch.plan Snapshot.host config [] none machine = (.ok _, machine) := rfl
  obtain ⟨hreduced, _, _, boot, classpath, command, hall⟩ := plan_anywhere hdir h
  obtain ⟨_, hclasspath, hnowhere⟩ := hall (.error .noEntry)
  obtain rfl := Except.ok.inj hclasspath
  obtain ⟨_, _, hroot⟩ := hall (.ok (.ofString "/"))
  exact ⟨_, h, rfl, hreduced, hclasspath, hnowhere.trans hroot.symm⟩

end JavacLauncher.Launch
