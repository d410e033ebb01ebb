import JavacLauncher.Machine.Host
import JavacLauncher.Proofs.Config.Precedence

/-!
# A file of settings that is not there

The places where a file may be are looked into first, and only a regular file that is there is taken
from them. So the file that is chosen can be missing in one way only: the environment names it
(`named_of_absent`). A named file is read without looking first, and reading what is not there fails.
The settings are therefore the defaults under the environment as long as no file is named, and
otherwise loading ends with the failure to read the file, also if its name is empty (`load_of_absent`).

What a machine says about its files has to fit together for this: a regular file is there, and nothing
can be read where nothing is. Both machines do so, the one in memory because it answers all three
questions by following the path.
-/

namespace JavacLauncher

/-! ## Answers that fit together -/

/-- What a machine says about a path fits together. -/
structure Host.IsCoherent {σ : Type} (host : Host σ) : Prop where
  isPresent_of_isFile : ∀ {s : σ} {p : Path}, host.isFile s p = true → host.isPresent s p = true
  read_of_absent : ∀ {s : σ} {p : Path},
    host.isPresent s p = false → ∃ cause, host.read s p = .error cause

namespace Machine

/-- Where a path does not lead to anything, there is nothing to look at. -/
theorem look_of_absent {m : Machine} {p : Path} (h : m.isPresent p = false) :
    ∃ cause, m.tree.look m.standpoint p = .error cause := by
  unfold isPresent at h
  unfold FileTree.look
  cases hresolve : m.tree.resolve true m.standpoint p with
  | error cause => exact ⟨cause, rfl⟩
  | ok found =>
    rw [hresolve] at h
    cases h

theorem isCoherent_host : host.IsCoherent where
  isPresent_of_isFile := by
    intro m p hfile
    by_contra habsent
    obtain ⟨cause, hlook⟩ := look_of_absent (Bool.eq_false_iff.mpr habsent)
    have hnone : m.isFile p = false := by
      unfold isFile
      rw [hlook]
    exact Bool.false_ne_true (hnone.symm.trans hfile)
  read_of_absent := by
    intro m p habsent
    obtain ⟨cause, hlook⟩ := look_of_absent habsent
    refine ⟨cause, ?_⟩
    change m.fileContent p = _
    unfold fileContent FileTree.readFile
    rw [hlook]
    rfl

end Machine

theorem Snapshot.isCoherent_host : Snapshot.host.IsCoherent where
  isPresent_of_isFile := id
  read_of_absent := by
    intro s p habsent
    change (s.file p).toOption.isSome = false at habsent
    change ∃ cause, s.file p = .error cause
    cases hfile : s.file p with
    | error cause => exact ⟨cause, rfl⟩
    | ok content =>
      rw [hfile] at habsent
      cases habsent

namespace Config

variable {σ : Type} {host : Host σ} {s : σ}

/-- **Only a file that the environment names can be chosen and missing.** -/
theorem named_of_absent (hhost : host.IsCoherent) {path : Path} (hsource : Source host s (some path))
    (habsent : host.isPresent s path = false) : host.valueOf? s fileVariable = some path.bytes := by
  have hno : host.isFile s path ≠ true := fun hfile =>
    Bool.false_ne_true (habsent.symm.trans (hhost.isPresent_of_isFile hfile))
  cases hsource with
  | named hset => exact hset
  | besideProgram _ hbeside =>
    obtain ⟨_, _, _, hfile⟩ := hbeside
    exact absurd hfile hno
  | ofUser _ _ huser =>
    obtain ⟨_, _, _, hfile⟩ := huser
    exact absurd hfile hno

theorem load_of_base_eq_error {e : LaunchError} (h : base host s = .error e) :
    load host s = .error e := by
  unfold load
  rw [h]
  rfl

/-- A file that cannot be read ends the loading, with the file and the cause. -/
theorem load_of_read_eq_error {path : Path} {cause : SystemError}
    (hsource : Source host s (some path)) (hread : host.read s path = .error cause) :
    load host s = .error (.system path cause) := by
  refine load_of_base_eq_error ?_
  rw [base_eq, ← (source_iff host s).mp hsource]
  dsimp only
  unfold ofFile
  rw [hread]

/-- Without a file there are the defaults under the environment. -/
theorem load_of_no_source (hsource : Source host s none) (haccepted : Accepted (textVariable? host s)) :
    load host s = .ok (default.overridden (textVariable? host s)) := by
  have hbase : base host s = .ok default := by rw [base_eq, ← (source_iff host s).mp hsource]
  rcases load_cases host s hbase with ⟨_, hload⟩ | ⟨hrefused, _⟩
  · exact hload
  · exact absurd haccepted hrefused

/--
**A missing file of settings is none, unless the environment names it.**

Where the file that is chosen is missing, whatever it is, loading gives the defaults under the
environment if and only if no file is named. A named file that is missing is an error, which tells its
name and why it could not be read.
-/
theorem load_of_absent (hhost : host.IsCoherent)
    (habsent : ∀ path, Source host s (some path) → host.isPresent s path = false)
    (haccepted : Accepted (textVariable? host s)) :
    ∃ c, default.override (textVariable? host s) = (c, .ok ()) ∧
      (load host s = .ok c ↔ host.valueOf? s fileVariable = none) ∧
      ∀ name, host.valueOf? s fileVariable = some name →
        ∃ cause, host.read s ⟨name⟩ = .error cause ∧
          load host s = .error (.system ⟨name⟩ cause) := by
  have hnamed : ∀ name, host.valueOf? s fileVariable = some name →
      ∃ cause, host.read s ⟨name⟩ = .error cause ∧
        load host s = .error (.system ⟨name⟩ cause) := by
    intro name hname
    obtain ⟨cause, hread⟩ := hhost.read_of_absent (habsent _ (.named hname))
    exact ⟨cause, hread, load_of_read_eq_error (.named hname) hread⟩
  refine ⟨_, override_of_accepted _ _ haccepted, ?_, hnamed⟩
  -- a named file gives an error, so settings come from no file at all
  constructor
  · intro hload
    cases hname : host.valueOf? s fileVariable with
    | none => rfl
    | some name =>
      obtain ⟨_, -, herror⟩ := hnamed name hname
      rw [hload] at herror
      cases herror
  · intro hunset
    have hnowhere : Source host s none := by
      rw [source_iff]
      cases hsource : source? host s with
      | none => rfl
      | some path =>
        have hchosen := (source_iff host s).mpr hsource.symm
        -- a file in one of the usual places would not have been missing
        have hset := named_of_absent hhost hchosen (habsent path hchosen)
        rw [hunset] at hset
        cases hset
    exact load_of_no_source hnowhere haccepted

/-- Both usual places are empty, and two variables are set. -/
theorem load_of_absent_unnamed :
    let machine : Snapshot := {
      environment := [("HOME".toList, Bytes.ofString "/home/user"),
        (javaVersionVariable, Bytes.ofString "1.7.0_80"),
        (invocationVariable, Bytes.ofString "shell")]
      currentDir := .error .noEntry
      program := .ok (.ofString "/opt/checker-javac")
      files := []
      greeting := []
      commands := [] }
    (∀ path, Source Snapshot.host machine (some path) →
      Snapshot.host.isPresent machine path = false) ∧
    Accepted (textVariable? Snapshot.host machine) ∧
    load Snapshot.host machine = .ok { default with
      javaVersion := some "1.7.0_80".toList
      invocation := .shell } := by
  intro machine
  have habsent : ∀ path, Source Snapshot.host machine (some path) →
      Snapshot.host.isPresent machine path = false := fun path _ => rfl
  have haccepted : Accepted (textVariable? Snapshot.host machine) := by decide +kernel
  refine ⟨habsent, haccepted, ?_⟩
  obtain ⟨c, hc, hload, -⟩ := load_of_absent Snapshot.isCoherent_host habsent haccepted
  rw [hload.mpr rfl]
  have hdefaults : default.override (textVariable? Snapshot.host machine) =
      ({ default with javaVersion := some "1.7.0_80".toList, invocation := .shell }, .ok ()) := by
    decide +kernel
  rw [(Prod.mk.inj (hc.symm.trans hdefaults)).1]

/-- The chosen file is missing, the invocation is not set, and yet there are no settings. -/
theorem missing_named_file_refused :
    let path : Path := .ofString "/none.json"
    let machine : Snapshot := {
      environment := [(fileVariable, path.bytes)]
      currentDir := .error .noEntry
      program := .ok (.ofString "/opt/checker-javac")
      files := []
      greeting := []
      commands := [] }
    Source Snapshot.host machine (some path) ∧
    (∀ other, Source Snapshot.host machine (some other) →
      Snapshot.host.isPresent machine other = false) ∧
    textVariable? Snapshot.host machine invocationVariable = none ∧
    default.override (textVariable? Snapshot.host machine) = (default, .ok ()) ∧
    load Snapshot.host machine = .error (.system path .noEntry) ∧
    load Snapshot.host machine ≠ .ok default := by
  intro path machine
  have hload : load Snapshot.host machine = .error (.system path .noEntry) := rfl
  refine ⟨.named rfl, fun other _ => rfl, rfl, by decide +kernel, hload, ?_⟩
  rw [hload]
  exact nofun

end Config

end JavacLauncher
