import JavacLauncher.Proofs.Config.Fields
import JavacLauncher.Proofs.Config.Overrides
import JavacLauncher.Proofs.Path.Parent
import JavacLauncher.Snapshot

/-!
# Which source of a setting wins

Settings come from three places: defaults, at most one file, and the environment. Which file is said
here by a relation that has one constructor for each place where a file may be (`Source`); there is
always exactly one answer (`source_iff`). The directories of the program and of the user are said by
relations too, so that nothing here rests on how the launcher finds them. A file named in the
environment is read whatever the other places hold, and if there is none there is no falling back to
them.

What the file does not give is the default (`ofJson?_given`), and what the environment gives wins over
both, except for the home (`overridden`). Here the pieces are put together (`load_precedence`). The
environment holds bytes. For the overrides only texts count, so a variable with other bytes is as good
as unset; the name of the file may be any bytes.
-/

namespace JavacLauncher.Config

variable {σ : Type} (host : Host σ) (s : σ)

/-! ## Places -/

/-- The directory in which the launcher's program lies. -/
def ProgramIn (dir : Path) : Prop := ∃ program, host.program s = .ok program ∧ program.EndsIn dir

/-- The user's home. -/
inductive Home : Path → Prop where
  /-- The one in the environment, unless it is empty. -/
  | named {home : Bytes} : host.valueOf? s "HOME".toList = some home → home ≠ [] → Home ⟨home⟩
  /-- The one that the machine keeps. -/
  | kept {home : Path} :
      (∀ empty, host.valueOf? s "HOME".toList = some empty → empty = []) →
      host.accountHome? s = some home → Home home

/-- The user's directory for settings. -/
inductive UserDirectory : Path → Prop where
  /-- The one in the environment, if it is named from the root. -/
  | named {dir : Bytes} :
      host.valueOf? s "XDG_CONFIG_HOME".toList = some dir → (Path.mk dir).IsAbsolute →
      UserDirectory ⟨dir⟩
  /-- The one in the user's home. -/
  | inHome {home : Path} :
      (∀ dir, host.valueOf? s "XDG_CONFIG_HOME".toList = some dir → ¬ (Path.mk dir).IsAbsolute) →
      Home host s home → UserDirectory (home.join (.ofString ".config"))

/-- The regular file `launcher.json` beside the launcher's program. -/
def BesideProgram (path : Path) : Prop :=
  ∃ dir, ProgramIn host s dir ∧ path = dir.join (.ofString "launcher.json") ∧
    host.isFile s path = true

/-- The regular file `launcher.json` in the user's directory for the launcher. -/
def OfUser (path : Path) : Prop :=
  ∃ dir, UserDirectory host s dir ∧
    path = (dir.join (.ofString "checker-launcher")).join (.ofString "launcher.json") ∧
    host.isFile s path = true

/-- The file that settings are read from, if there is one. -/
inductive Source : Option Path → Prop where
  /-- The file that the environment names, whether there is one or not. -/
  | named {path : Bytes} :
      host.valueOf? s "CHECKER_LAUNCHER_CONFIG".toList = some path → Source (some ⟨path⟩)
  | besideProgram {path : Path} :
      host.valueOf? s "CHECKER_LAUNCHER_CONFIG".toList = none → BesideProgram host s path → Source (some path)
  | ofUser {path : Path} :
      host.valueOf? s "CHECKER_LAUNCHER_CONFIG".toList = none → (∀ other, ¬ BesideProgram host s other) →
      OfUser host s path → Source (some path)
  | nowhere :
      host.valueOf? s "CHECKER_LAUNCHER_CONFIG".toList = none → (∀ other, ¬ BesideProgram host s other) →
      (∀ other, ¬ OfUser host s other) → Source none

/-- A program that lies nowhere has no directory to look in. -/
theorem programDirectory_eq_ok_iff {dir : Path} :
    programDirectory host s = .ok dir ↔ ProgramIn host s dir := by
  unfold programDirectory ProgramIn
  cases hprogram : host.program s with
  | error cause => simp
  | ok program =>
    simp only [Except.ok.injEq, exists_eq_left', ← Path.parent?_eq_some_iff]
    cases program.parent? <;> simp

theorem home?_eq_some_iff {home : Path} : home? host s = some home ↔ Home host s home := by
  unfold home?
  constructor
  · intro h
    split at h
    · rename_i b bs hset
      obtain rfl := Option.some.inj h
      exact .named hset (List.cons_ne_nil b bs)
    · rename_i hempty
      refine .kept (fun home hset => ?_) h
      cases home with
      | nil => rfl
      | cons b bs => exact absurd hset (hempty b bs)
  · intro h
    cases h with
    | @named home hset hne =>
      obtain ⟨b, bs, rfl⟩ := List.exists_cons_of_ne_nil hne
      rw [hset]
    | kept hempty haccount =>
      split
      · rename_i b bs hset
        exact absurd (hempty _ hset) (List.cons_ne_nil b bs)
      · exact haccount

theorem settingsDirectory?_eq_some_iff {dir : Path} :
    settingsDirectory? host s = some dir ↔ UserDirectory host s dir := by
  unfold settingsDirectory?
  constructor
  · intro h
    split at h
    · rename_i named hnamed
      obtain ⟨hset, habsolute⟩ := Option.filter_eq_some_iff.mp hnamed
      obtain rfl := Option.some.inj h
      exact .named hset (by simpa using habsolute)
    · rename_i hnone
      obtain ⟨home, hhome, rfl⟩ := Option.map_eq_some_iff.mp h
      refine .inHome (fun dir hset habsolute => ?_) ((home?_eq_some_iff host s).mp hhome)
      rw [hset] at hnone
      simp [habsolute] at hnone
  · intro h
    cases h with
    | named hset habsolute => rw [hset, Option.filter_some, if_pos (decide_eq_true habsolute)]
    | inHome hrelative hhome =>
      have hnone : ((host.valueOf? s "XDG_CONFIG_HOME".toList).filter fun dir =>
          (Path.mk dir).IsAbsolute) = none := by
        simpa using hrelative
      rw [hnone, (home?_eq_some_iff host s).mpr hhome]
      rfl

/-! ## Looking in the places -/

/-- A place that has at most one candidate: the candidate, if it is a regular file. -/
theorem find?_map_toList {candidate? : Option Path} {f : Path → Path} {path : Path} :
    (candidate?.toList.map f).find? (host.isFile s) = some path ↔
      ∃ dir, candidate? = some dir ∧ path = f dir ∧ host.isFile s path = true := by
  cases candidate? with
  | none => simp
  | some dir =>
    simp only [Option.toList_some, List.map_singleton, List.find?_singleton, Option.some.injEq,
      exists_eq_left']
    constructor
    · intro h
      obtain ⟨hfile, hpath⟩ := Option.ite_none_right_eq_some.mp h
      obtain rfl := Option.some.inj hpath
      exact ⟨rfl, hfile⟩
    · rintro ⟨rfl, hfile⟩
      rw [if_pos hfile]

/-- The file beside the program, if there is one. -/
def besideProgram? : Option Path :=
  ((programDirectory host s).toOption.toList.map (·.join fileName)).find? (host.isFile s)

/-- The file of the user, if there is one. -/
def ofUser? : Option Path :=
  ((settingsDirectory? host s).toList.map fun dir => (dir.join directoryName).join fileName).find?
    (host.isFile s)

theorem besideProgram?_eq_some_iff {path : Path} :
    besideProgram? host s = some path ↔ BesideProgram host s path := by
  have hdir (dir : Path) : (programDirectory host s).toOption = some dir ↔ ProgramIn host s dir := by
    rw [← programDirectory_eq_ok_iff]
    cases programDirectory host s <;> simp [Except.toOption]
  unfold besideProgram? BesideProgram
  rw [find?_map_toList]
  simp only [hdir]
  rfl

theorem ofUser?_eq_some_iff {path : Path} : ofUser? host s = some path ↔ OfUser host s path := by
  unfold ofUser? OfUser
  rw [find?_map_toList]
  simp only [settingsDirectory?_eq_some_iff]
  rfl

theorem besideProgram?_eq_none_iff :
    besideProgram? host s = none ↔ ∀ path, ¬ BesideProgram host s path := by
  simp only [Option.eq_none_iff_forall_ne_some, ne_eq, besideProgram?_eq_some_iff]

theorem ofUser?_eq_none_iff : ofUser? host s = none ↔ ∀ path, ¬ OfUser host s path := by
  simp only [Option.eq_none_iff_forall_ne_some, ne_eq, ofUser?_eq_some_iff]

/-- The file in the first place that has one. -/
def source? : Option Path :=
  match host.valueOf? s fileVariable with
  | some path => some ⟨path⟩
  | none => (besideProgram? host s).or (ofUser? host s)

/-- **There is exactly one answer to where the settings are read from.** -/
theorem source_iff {file : Option Path} : Source host s file ↔ file = source? host s := by
  unfold source? fileVariable
  constructor
  · intro h
    cases h with
    | named hset => rw [hset]
    | besideProgram hunset hbeside =>
      rw [hunset, (besideProgram?_eq_some_iff host s).mpr hbeside]
      rfl
    | ofUser hunset hbeside huser =>
      rw [hunset, (besideProgram?_eq_none_iff host s).mpr hbeside,
        (ofUser?_eq_some_iff host s).mpr huser]
      rfl
    | nowhere hunset hbeside huser =>
      rw [hunset, (besideProgram?_eq_none_iff host s).mpr hbeside,
        (ofUser?_eq_none_iff host s).mpr huser]
      rfl
  · rintro rfl
    cases hvalue : host.valueOf? s "CHECKER_LAUNCHER_CONFIG".toList with
    | some path => exact .named hvalue
    | none =>
      cases hbeside : besideProgram? host s with
      | some path => exact .besideProgram hvalue ((besideProgram?_eq_some_iff host s).mp hbeside)
      | none =>
        have hnone := (besideProgram?_eq_none_iff host s).mp hbeside
        cases huser : ofUser? host s with
        | some path => exact .ofUser hvalue hnone ((ofUser?_eq_some_iff host s).mp huser)
        | none => exact .nowhere hvalue hnone ((ofUser?_eq_none_iff host s).mp huser)

theorem base_eq :
    base host s = match source? host s with
      | some path => ofFile host s path
      | none => .ok default := by
  unfold base source? defaultFiles
  cases host.valueOf? s fileVariable with
  | some path => rfl
  | none =>
    -- the first of both places, or else the second
    dsimp only
    rw [List.find?_append]
    rfl

/-! ## What is read there -/

/-- The settings `c` are what the file `path` holds: each setting as it is given there, or else its
default. -/
def ReadFrom (c : Config) (path : Path) : Prop :=
  ∃ text json, host.read s path = .ok (Utf8.encode text) ∧ Json.read? text = some json ∧
    ∀ setting, c.TakenFrom default setting (given? json setting)

/-- The settings before the environment is looked at. -/
def BasedOn (c : Config) : Option Path → Prop
  | some path => ReadFrom host s c path
  | none => c = default

theorem parse_eq_ok {t : Text} {c : Config} (h : parse t = .ok c) :
    ∃ json, Json.read? t = some json ∧ ofJson? json = some c := by
  unfold parse at h
  split at h
  · rename_i config hconfig
    obtain rfl := Except.ok.inj h
    exact Option.bind_eq_some_iff.mp hconfig
  · cases h

theorem readFrom_of_ofFile {path : Path} {c : Config} (h : ofFile host s path = .ok c) :
    ReadFrom host s c path := by
  unfold ofFile at h
  split at h
  · cases h
  · rename_i content hread
    split at h
    · rename_i text htext
      obtain rfl := Utf8.decode?_eq_some_iff.mp htext
      obtain ⟨json, hjson, hconfig⟩ := parse_eq_ok h
      exact ⟨text, json, hread, hjson, ofJson?_given hconfig⟩
    · cases h

/-! ## Files and environment -/

/-- A variable counts as text if it holds the bytes of one. -/
theorem textVariable?_eq_some_iff {name t : Text} :
    textVariable? host s name = some t ↔ host.valueOf? s name = some (Utf8.encode t) := by
  unfold textVariable?
  rw [Option.bind_eq_some_iff]
  constructor
  · rintro ⟨content, hvalue, htext⟩
    rw [hvalue, Utf8.decode?_eq_some_iff.mp htext]
  · intro h
    exact ⟨Utf8.encode t, h, Utf8.decode?_encode t⟩

/-- Loading is one step from the settings in the file. -/
theorem load_cases {c : Config} (hbase : base host s = .ok c) :
    (Accepted (textVariable? host s) ∧
      load host s = .ok (c.overridden (textVariable? host s))) ∨
    (¬ Accepted (textVariable? host s) ∧
      ∃ reason, load host s = .error (.invalidConfig reason)) := by
  unfold load
  rw [hbase]
  dsimp only [bind, Except.bind]
  rcases override_cases (textVariable? host s) c with ⟨h, hstep⟩ | ⟨h, reason, hstep⟩
  · rw [hstep]
    exact .inl ⟨h, rfl⟩
  · rw [hstep]
    exact .inr ⟨h, reason, rfl⟩

variable {host s}

/-- Settings whose file can be read are based on it. -/
theorem exists_basedOn (hread : ∀ path, Source host s (some path) → ∃ c, ofFile host s path = .ok c) :
    ∃ c, base host s = .ok c ∧ BasedOn host s c (source? host s) := by
  rw [base_eq]
  cases hsource : source? host s with
  | none => exact ⟨default, rfl, rfl⟩
  | some path =>
    obtain ⟨c, hc⟩ := hread path ((source_iff host s).mpr hsource.symm)
    exact ⟨c, hc, readFrom_of_ofFile host s hc⟩

/--
**The environment wins over the file, and the file over the defaults; the home is the other way
round.**

There is exactly one place that the file comes from. If it can be read, then only an invocation that
spells no mode can make loading fail, and it always does. Variables whose bytes are no text are no
overrides.
-/
theorem load_precedence
    (hread : ∀ path, Source host s (some path) → ∃ c, ofFile host s path = .ok c) :
    ∃ file c, (∀ other, Source host s other ↔ other = file) ∧ BasedOn host s c file ∧
      let valueOf? := textVariable? host s
      (∀ name t, valueOf? name = some t ↔ host.valueOf? s name = some (Utf8.encode t)) ∧
      ((∃ reason, load host s = .error (.invalidConfig reason)) ↔ ¬ Accepted valueOf?) ∧
      (Accepted valueOf? → load host s = .ok {
        selfArchive := (valueOf? "CHECKER_LAUNCHER_SELF_ARCHIVE".toList).or c.selfArchive
        searchPaths := c.searchPaths
        compilerArchive := c.compilerArchive
        javaHome := c.javaHome.or
          (((valueOf? "JAVA_HOME".toList).filter fun home => ¬ Text.AllBlank home).map .ofText)
        javaVersion := (valueOf? "CHECKER_LAUNCHER_JAVA_VERSION".toList).or c.javaVersion
        invocation :=
          ((valueOf? "CHECKER_LAUNCHER_INVOCATION".toList).bind Invocation.spelled?).getD
            c.invocation }) := by
  obtain ⟨c, hbase, hbased⟩ := exists_basedOn hread
  refine ⟨source? host s, c, fun other => source_iff host s, hbased,
    fun name t => textVariable?_eq_some_iff host s, ?_⟩
  rcases load_cases host s hbase with ⟨haccepted, hload⟩ | ⟨hrefused, reason, hload⟩
  · rw [hload]
    refine ⟨⟨?_, fun hrefused => absurd haccepted hrefused⟩, fun _ => ?_⟩
    · rintro ⟨reason, herror⟩
      cases herror
    · unfold overridden offeredHome? offeredMode?
      rw [if_pos haccepted]
      rfl
  · rw [hload]
    exact ⟨⟨fun _ => hrefused, fun _ => ⟨reason, rfl⟩⟩, fun haccepted => absurd haccepted hrefused⟩

/-- The file beside the program leaves most settings out, and the user's own file does not count. Neither
does the version in the environment, which is no text. -/
theorem load_precedence_besideProgram :
    let path : Path := .ofString "/opt/checker/launcher.json"
    let machine : Snapshot := {
      environment := [("HOME".toList, Bytes.ofString "/home/user"),
        ("CHECKER_LAUNCHER_SELF_ARCHIVE".toList, Bytes.ofString "/opt/checkers.jar"),
        ("CHECKER_LAUNCHER_JAVA_VERSION".toList, [0xFF]),
        ("CHECKER_LAUNCHER_INVOCATION".toList, Bytes.ofString " Shell"),
        ("JAVA_HOME".toList, Bytes.ofString "/opt/jdk7")]
      currentDir := .error .noEntry
      program := .ok (.ofString "/opt/checker/checker-javac")
      files := [
        (path, .ok (Bytes.ofString
          "\x7b\"java_version\": \"1.6\", \"self_archive\": \"checkers.jar\"\x7d")),
        (.ofString "/home/user/.config/checker-launcher/launcher.json",
          .ok (Bytes.ofString "\x7b\"search_paths\": []\x7d"))]
      greeting := []
      commands := [] }
    Source Snapshot.host machine (some path) ∧
    (∃ c, BasedOn Snapshot.host machine c (some path) ∧
      c.searchPaths = default.searchPaths ∧ c.javaVersion = some "1.6".toList) ∧
    load Snapshot.host machine = .ok { default with
      selfArchive := some "/opt/checkers.jar".toList
      javaHome := some (.ofString "/opt/jdk7")
      javaVersion := some "1.6".toList
      invocation := .shell } := by
  intro path machine
  have hprogram : ProgramIn Snapshot.host machine (.ofString "/opt/checker") :=
    ⟨_, rfl, Path.parent?_eq_some_iff.mp (by decide)⟩
  have hbeside : Source Snapshot.host machine (some path) := .besideProgram rfl ⟨_, hprogram, rfl, rfl⟩
  have hread : ∀ other, Source Snapshot.host machine (some other) →
      ∃ c, ofFile Snapshot.host machine other = .ok c := by
    intro other hother
    -- the file beside the program is the only source
    obtain rfl : other = path :=
      Option.some.inj (((source_iff _ _).mp hother).trans ((source_iff _ _).mp hbeside).symm)
    have hok : (ofFile Snapshot.host machine path).toOption.isSome := by decide +kernel
    cases hfile : ofFile Snapshot.host machine path with
    | ok c => exact ⟨c, rfl⟩
    | error e =>
      rw [hfile] at hok
      cases hok
  have haccepted : Accepted (textVariable? Snapshot.host machine) := by decide +kernel
  have hload : load Snapshot.host machine = .ok { default with
      selfArchive := some "/opt/checkers.jar".toList
      javaHome := some (.ofString "/opt/jdk7")
      javaVersion := some "1.6".toList
      invocation := .shell } := by decide +kernel
  obtain ⟨file, c, hsource, hbased, _, _, hwins⟩ := load_precedence hread
  obtain rfl := (hsource _).mp hbeside
  -- the two ways to say what is loaded tell what the file gave
  have hsame := Except.ok.inj ((hwins haccepted).symm.trans hload)
  have hpaths := congrArg Config.searchPaths hsame
  have hunset : textVariable? Snapshot.host machine
      "CHECKER_LAUNCHER_JAVA_VERSION".toList = none := by decide +kernel
  have hversion := congrArg Config.javaVersion hsame
  dsimp only at hversion
  rw [hunset, Option.none_or] at hversion
  exact ⟨hbeside, ⟨c, hbased, hpaths, hversion⟩, hload⟩

-- a named file is read whatever its name, and the one beside the program is not looked at
example :
    let path : Path := ⟨[0x2F, 0xFF]⟩
    let machine : Snapshot := {
      environment := [("CHECKER_LAUNCHER_CONFIG".toList, path.bytes)]
      currentDir := .error .noEntry
      program := .ok (.ofString "/opt/checker-javac")
      files := [
        (path, .ok (Bytes.ofString "\x7b\"java_version\": \"1.6\"\x7d")),
        (.ofString "/opt/launcher.json", .ok (Bytes.ofString "\x7b\"search_paths\": []\x7d"))]
      greeting := []
      commands := [] }
    load Snapshot.host machine = .ok { default with javaVersion := some "1.6".toList } := by
  decide +kernel

end JavacLauncher.Config
