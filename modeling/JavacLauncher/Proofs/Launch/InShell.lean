import JavacLauncher.Machine.Host
import JavacLauncher.Proofs.Shell.Start
import JavacLauncher.Proofs.Text.Utf8

/-!
# A shell on the way

The machine in memory is a host like any other, and on it both ways of starting can be followed to the
program that is started in the end. Without a shell that is one step (`execute_spawn`). With a shell,
the machine looks for `sh` along the search path and finds its own shell behind that name (`Finds`).
The shell is handed the line as bytes, each of which it takes for a character; as quotes, blanks and
backslashes are bytes of their own in UTF-8, the bytes of a line for texts are a line for the bytes of
the texts (`ofText_ofArguments`). So it reads the arguments back and gives its place to their program.

What the program is given is the same in both ways: the path, the arguments, the descriptors and the
place to stand. With a shell on the way it has the shell's variables around it, two steps fewer to go,
and one program fewer that it may start through others (`execute_shell`).
-/

namespace JavacLauncher

/-! ## Lines as octets -/

namespace Octets

open CommandLine ShellWords

/-- The bytes of a text, each as the character of its number. -/
def ofText (t : Text) : Text := ofBytes (Utf8.encode t)

theorem ofText_append (s t : Text) : ofText (s ++ t) = ofText s ++ ofText t := by
  rw [ofText, Utf8.encode_append]
  exact List.map_append

theorem ofText_flatMap {α : Type} (f : α → Text) (l : List α) :
    ofText (l.flatMap f) = l.flatMap fun a => ofText (f a) := by
  induction l with
  | nil => rfl
  | cons a l ih => rw [List.flatMap_cons, ofText_append, ih, List.flatMap_cons]

/-- An ASCII character is one octet. -/
theorem ofText_cons {c : Char} (h : c.toNat < 0x80) (t : Text) : ofText (c :: t) = c :: ofText t := by
  have hbyte : (UInt8.ofNat c.toNat).toNat = c.toNat := Utf8.toNat_ofNat_of_lt (by omega)
  simp [ofText, Utf8.encode_cons, ofBytes, Utf8.utf8EncodeChar_of_lt h, hbyte]

/-- An ASCII character stands among the octets only for itself. -/
theorem mem_ofText_iff {c : Char} (h : c.toNat < 0x80) {t : Text} : c ∈ ofText t ↔ c ∈ t := by
  have hbyte : (UInt8.ofNat c.toNat).toNat = c.toNat := Utf8.toNat_ofNat_of_lt (by omega)
  have hmem := Utf8.mem_encode_iff (b := UInt8.ofNat c.toNat) (by omega) (t := t)
  rw [hbyte, Char.ofNat_toNat] at hmem
  rw [← hmem, ofText, ofBytes, List.mem_map]
  constructor
  · rintro ⟨b, hb, rfl⟩
    have hlt := b.toNat_lt
    have hchar : (Char.ofNat b.toNat).toNat = b.toNat := Utf8.toNat_ofNat_of_valid (Or.inl (by omega))
    rwa [hchar, UInt8.ofNat_toNat]
  · intro hb
    exact ⟨_, hb, by rw [hbyte, Char.ofNat_toNat]⟩

/-- What needs no more than quotes as text needs no more as octets. -/
theorem isQuotable_of_mem_ofText {t : Text} (h : ∀ c ∈ t, IsQuotable c) :
    ∀ c ∈ ofText t, IsQuotable c := by
  intro c hc
  refine ⟨?_, ?_, ?_, ?_⟩ <;> rintro rfl
  · exact (h _ ((mem_ofText_iff (by decide)).1 hc)).ne_backslash rfl
  · exact (h _ ((mem_ofText_iff (by decide)).1 hc)).ne_dollar rfl
  · exact (h _ ((mem_ofText_iff (by decide)).1 hc)).ne_backquote rfl
  · exact (h _ ((mem_ofText_iff (by decide)).1 hc)).ne_nul rfl

/-- What the line has for a character is what it has for the octets of the character. -/
theorem ofText_escape (c : Char) :
    ofText (if c = '"' then ['\\', '"'] else [c]) =
      (ofText [c]).flatMap fun c => if c = '"' then ['\\', '"'] else [c] := by
  by_cases hquote : c = '"'
  · subst hquote
    rfl
  · have hnone : ∀ d ∈ ofText [c], d ≠ '"' := by
      rintro d hd rfl
      exact hquote (List.mem_singleton.1 ((mem_ofText_iff (by decide)).1 hd)).symm
    rw [if_neg hquote]
    generalize ofText [c] = octets at hnone
    induction octets with
    | nil => rfl
    | cons d octets ih =>
      obtain ⟨hd, hoctets⟩ := List.forall_mem_cons.1 hnone
      rw [List.flatMap_cons, if_neg hd, ← ih hoctets, List.singleton_append]

theorem ofText_quote (arg : Text) : ofText (quote arg) = quote (ofText arg) := by
  have hinner : ofText (arg.flatMap fun c => if c = '"' then ['\\', '"'] else [c]) =
      (ofText arg).flatMap fun c => if c = '"' then ['\\', '"'] else [c] := by
    have harg : ofText arg = arg.flatMap fun c => ofText [c] := by
      rw [← ofText_flatMap, List.flatMap_singleton']
    rw [ofText_flatMap, harg, List.flatMap_assoc]
    simp only [ofText_escape]
  rw [quote, List.cons_append, ofText_cons (by decide), ofText_append, hinner, ofText_cons (by decide)]
  rfl

/-- **The octets of a line are a line for the octets of the arguments.** -/
theorem ofText_ofArguments (args : List Text) :
    ofText (ofArguments args) = ofArguments (args.map ofText) := by
  cases args with
  | nil => rfl
  | cons first others =>
    have hother (arg : Text) : ofText ([' '] ++ quote arg) = [' '] ++ quote (ofText arg) := by
      rw [ofText_append, ofText_cons (by decide), ofText_quote]
      rfl
    simp only [ofArguments, List.map_cons, intercalate_eq_append_flatMap, List.flatMap_map,
      ofText_append, ofText_quote, ofText_flatMap, hother]

end Octets

/-! ## From a name to a program -/

namespace Exec

variable {p : Process} {m m' : Machine} {argv : List Text} {o : Outcome}

/-- Of the files that a name may mean, those that are missing are passed over, and the first one that
is there is a program of the system. -/
inductive Finds (t : FileTree) (at_ : Standpoint) (program : Text) : List Text → Text → Prop where
  | here {path : Text} {paths : List Text} {node : Node}
      (look : t.look at_ (Process.pathOf path) = .ok node) (kind : node.kind = .program program)
      (mode : node.isExecutable = true) : Finds t at_ program (path :: paths) path
  | behind {path found : Text} {paths : List Text} {e : SystemError}
      (look : t.look at_ (Process.pathOf path) = .error e) (missing : e = .noEntry ∨ e = .notDirectory)
      (rest : Finds t at_ program paths found) : Finds t at_ program (path :: paths) found

/-- The shell behind a link in the second directory of a search path. -/
example :
    let bin : Place := ["usr", "bin"].map Bytes.ofString
    let dash : Node := ⟨.program "dash".toList, 0o755, 0⟩
    let sh : Node := ⟨.link (Bytes.ofString "dash"), 0o777, 0⟩
    let t := ((FileTree.empty.insertDirectories bin).insert (bin ++ [Bytes.ofString "dash"]) dash).insert
      (bin ++ [Bytes.ofString "sh"]) sh
    Finds t FileTree.rootStandpoint "dash".toList (["/opt/sh", "/usr/bin/sh"].map String.toList)
      "/usr/bin/sh".toList := by
  intro bin dash sh t
  have hlook : t.look FileTree.rootStandpoint (Process.pathOf "/usr/bin/sh".toList) = .ok dash := rfl
  exact .behind (e := .noEntry) rfl (.inl rfl) (.here hlook rfl (by simp [Node.isExecutable, dash]))

theorem run_bind_pure {α β : Type} {x : Action α} {f : α → Action β} {a : α} (h : x.run m = (a, m')) :
    (x >>= f).run m = (f a).run m' := by
  rw [StateT.run_bind, h]
  rfl

theorem run_look {path : Text} {result : Except SystemError Node}
    (h : m.tree.look p.standpoint (Process.pathOf path) = result) : (p.look path).run m = (result, m) :=
  congrArg (·, m) h

section

variable {programs : Programs}

/-- A program of the system runs, and the machine counts it among the running ones meanwhile. -/
theorem run_file {program path : Text} {node : Node}
    (hlook : m.tree.look p.standpoint (Process.pathOf path) = .ok node)
    (hkind : node.kind = .program program) (hmode : node.isExecutable = true) (hfits : fits p argv = true)
    (hrun : (programs program p argv).run { m with processes := p.id :: m.processes } = (o, m'))
    (n : Nat) :
    (file programs (n + 1) p path argv).run m =
      (.ok o, { m' with processes := m'.processes.erase p.id }) := by
  have hcounted : (Machine.whileRunning p.id (programs program p argv)).run m =
      (o, { m' with processes := m'.processes.erase p.id }) :=
    (run_bind_pure rfl).trans (run_bind_pure hrun)
  rw [file, run_bind_pure (run_look hlook)]
  simp only [hkind, hmode, hfits, Bool.not_true, if_neg Bool.false_ne_true]
  exact run_bind_pure hcounted

/-- What is missing is not started. -/
theorem run_file_missing {path : Text} {e : SystemError}
    (hlook : m.tree.look p.standpoint (Process.pathOf path) = .error e) (n : Nat) :
    (file programs (n + 1) p path argv).run m = (.error e, m) := by
  rw [file, run_bind_pure (run_look hlook)]
  rfl

/-- The search ends at the program that is found. -/
theorem run_firstOf {n : Nat} {program path : Text} {paths : List Text}
    (h : Finds m.tree p.standpoint program paths path) (hfits : fits p argv = true)
    (hrun : (programs program p argv).run { m with processes := p.id :: m.processes } = (o, m'))
    (worst : SystemError) :
    (firstOf (file programs (n + 1)) p argv worst paths).run m =
      (.ok o, { m' with processes := m'.processes.erase p.id }) := by
  induction h generalizing worst with
  | here look kind mode =>
    rw [firstOf, run_bind_pure (run_file look kind mode hfits hrun n)]
    rfl
  | behind look missing rest ih =>
    rw [firstOf, run_bind_pure (run_file_missing look n)]
    dsimp only
    rw [if_pos missing]
    exact ih _

end

/-- A path is taken as it is. -/
theorem run_named_path (start : Starter) {name : Text} (h : '/' ∈ name) (args : List Text) :
    (named start p (name :: args)).run m = (start p name (name :: args)).run m := by
  have hne : name ≠ [] := List.ne_nil_of_mem h
  unfold named candidates
  dsimp only
  rw [if_neg hne, if_pos h, firstOf]
  rcases hstart : (start p name (name :: args)).run m with ⟨e | o, m'⟩
  · rw [run_bind_pure hstart]
    dsimp only
    -- the last refusal is the one that is reported, whichever it is
    split
    · rfl
    · split <;> rfl
  · rw [run_bind_pure hstart]
    rfl

/-- The process of a program that the launcher starts. -/
def launched (m : Machine) : Process where
  standpoint := m.standpoint
  environment := m.environment.map fun e => (Octets.ofBytes e.1, Octets.ofBytes e.2)
  descriptors := [(0, Machine.inputStream), (1, Machine.outputStream), (2, Machine.errorStream)]
  id := m.nextProcess
  parent := 1
  mask := initialMask
  ignored := []
  niceness := 0
  limits := []

/-- The machine with the process that the launcher starts. -/
def withLaunched (m : Machine) : Machine := { m with nextProcess := m.nextProcess + 1 }

/-- The machine on which the shell that the launcher starts begins. -/
def shellBegun (m : Machine) : Machine :=
  { withLaunched m with processes := m.nextProcess :: m.processes, budget := m.budget - 1 }

/-- The process of a program to which that shell gives its place. -/
def behindShell (m : Machine) : Process :=
  { launched m with environment := (Shell.Session.begin (shellBegun m) (launched m)).environment }

theorem run_run {argv : List Bytes} (h : ∀ arg ∈ argv, 0 ∉ arg) :
    (Machine.run argv).run m =
      (named start (launched m) (argv.map Octets.ofBytes)).run (withLaunched m) := by
  have hnul : ¬ argv.any (·.contains 0) = true := by simpa using h
  rw [Machine.run, command, if_neg hnul]
  rfl

/-- The machine has a shell behind the name that shells go by there, and reaching it takes a step. -/
theorem run_programs_shell {n k : Nat} (hbudget : m.budget = k + 1)
    (h : (Shell.program (file (programs n) scriptLimit) false p argv).run { m with budget := k } =
      (o, m')) :
    (programs (n + 1) "dash".toList p argv).run m = (o, m') := by
  have hstep : Machine.step.run m = (true, { m with budget := k }) := Shell.step_of_budget hbudget
  rw [programs, run_bind_pure hstep]
  exact h

end Exec

namespace Launch

open Exec Octets CommandLine ShellWords

variable {m m' : Machine} {name : Text} {args : List Text} {o : Outcome}

/-- The bytes of texts are started as the octets of the texts. -/
theorem map_ofBytes_encode (texts : List Text) :
    (texts.map Utf8.encode).map Octets.ofBytes = texts.map ofText := List.map_map

theorem zero_notMem_encode {t : Text} (h : '\x00' ∉ t) : 0 ∉ Utf8.encode t := fun hmem =>
  h ((Utf8.mem_encode_iff (b := 0) (by decide)).1 hmem)

/-- **Without a shell, the program is started from its path.** -/
theorem execute_spawn (hname : '/' ∈ name) (hargs : ∀ arg ∈ name :: args, '\x00' ∉ arg)
    (h : (file (programs depth) scriptLimit (launched m) (ofText name) ((name :: args).map ofText)).run
      (withLaunched m) = (.ok o, m')) :
    execute Machine.host .spawn ((name :: args).map Utf8.encode) m = (.ok o.code, m') := by
  have hnul : ∀ arg ∈ (name :: args).map Utf8.encode, 0 ∉ arg := by
    simpa using fun arg harg => zero_notMem_encode (hargs arg harg)
  have hrun : (Machine.run ((name :: args).map Utf8.encode)).run m = (.ok o, m') := by
    rw [run_run hnul, map_ofBytes_encode, List.map_cons,
      run_named_path _ ((mem_ofText_iff (by decide)).2 hname)]
    exact h
  have hhost : Machine.host.run (started .spawn ((name :: args).map Utf8.encode)) m = (.ok o, m') := hrun
  rw [List.map_cons, execute, ← List.map_cons, hhost]

theorem started_shell (texts : List Text) :
    started .shell (texts.map Utf8.encode) =
      [Bytes.ofString "sh", Bytes.ofString "-c", Utf8.encode (ofArguments texts)] := by
  rw [started, List.map_map]
  exact congrArg (fun texts => [_, _, Utf8.encode (ofArguments texts)])
    (List.map_id'' Utf8.decodeLossy_encode texts)

/-- **With a shell on the way, the same program is started with the same arguments.** -/
theorem execute_shell {path : Text} {k : Nat}
    (hshell : Finds m.tree m.standpoint "dash".toList (candidates (launched m) "sh".toList) path)
    (hplace : m.tree.isGone m.standpoint = false) (hsignals : m.signals = [])
    (hbudget : m.budget = k + 2) (hname : '/' ∈ name)
    (hargs : ∀ arg ∈ name :: args, ∀ c ∈ arg, IsQuotable c)
    (hfits : fits (launched m) ["sh".toList, "-c".toList, ofText (ofArguments (name :: args))] = true)
    (h : (file (programs (depth - 1)) scriptLimit (behindShell m) (ofText name)
        ((name :: args).map ofText)).run { shellBegun m with budget := k } = (.ok o, m')) :
    execute Machine.host .shell ((name :: args).map Utf8.encode) m =
      (.ok o.code, { m' with processes := m'.processes.erase m.nextProcess }) := by
  let line := ofArguments (name :: args)
  have hwords : ofText line = ofArguments (ofText name :: args.map ofText) :=
    ofText_ofArguments (name :: args)
  have hlength : (ofText line).length < Shell.Parse.rounds := by
    have hroom := (Bool.and_eq_true_iff.1 hfits).1
    have hline := List.all_eq_true.1 hroom (ofText line) (by simp [line])
    have hlt : (ofText line).length < argumentLimit := of_decide_eq_true hline
    exact Nat.lt_trans hlt (by decide)
  have hplace' : (shellBegun m).tree.isGone (launched m).standpoint = false := hplace
  have hbudget' : (shellBegun m).budget = k + 1 := by
    rw [shellBegun, hbudget]
    rfl
  have hprogram : (Shell.program (file (programs (depth - 1)) scriptLimit) false (launched m)
      ["sh".toList, "-c".toList, ofText line]).run (shellBegun m) = (o, m') := by
    rw [hwords] at hlength ⊢
    have hslash : '/' ∈ ofText name := (mem_ofText_iff (by decide)).2 hname
    have hquotable : ∀ arg ∈ ofText name :: args.map ofText, ∀ c ∈ arg, IsQuotable c := by
      simpa using fun arg harg => isQuotable_of_mem_ofText (hargs arg harg)
    exact Shell.program_ofArguments _ hplace' hsignals hbudget' hslash hquotable hlength h
  have hfound : (firstOf start (launched m) ["sh".toList, "-c".toList, ofText line] .noEntry
      (candidates (launched m) "sh".toList)).run (withLaunched m) =
      (.ok o, { m' with processes := m'.processes.erase m.nextProcess }) := by
    have hshell' : Finds (withLaunched m).tree (launched m).standpoint "dash".toList
        (candidates (launched m) "sh".toList) path := hshell
    refine run_firstOf hshell' hfits (run_programs_shell (k := k + 1) hbudget ?_) _
    rw [shellBegun, hbudget] at hprogram
    exact hprogram
  have hrun : (Machine.run (started .shell ((name :: args).map Utf8.encode))).run m =
      (.ok o, { m' with processes := m'.processes.erase m.nextProcess }) := by
    have hnul : ∀ arg ∈ [Bytes.ofString "sh", Bytes.ofString "-c", Utf8.encode line], 0 ∉ arg := by
      have hline := zero_notMem_encode (Shell.nul_notMem_ofArguments hargs)
      simpa using ⟨by decide, by decide, hline⟩
    rw [started_shell, run_run hnul]
    exact hfound
  have hhost : Machine.host.run (started .shell ((name :: args).map Utf8.encode)) m = (.ok o, _) := hrun
  rw [List.map_cons, execute, ← List.map_cons, hhost]

end Launch
end JavacLauncher
