import JavacLauncher.Proofs.Shell.Line
import JavacLauncher.Shell.Program

/-!
# The shell gives its place to the program

A shell that is handed the line for a command has nothing else to do. It reads one simple command
(`readLine_ofArguments`), whose words come to the arguments as they are (`run_expandFields_quoted`),
finds that the first one is a path and no command of its own, and, because nothing comes after
the command, starts the program in its own place. The program ends the shell by a jump that carries
its outcome (`run_runProgram`), and no level between the program and the shell's end changes what it
carries: descriptors and variables are put back on the way, no trap is waiting, and
nothing is left to read.

So the shell ends as the program ends, on the machine that the program leaves
(`program_ofArguments`). Of the program's surroundings the shell changes the environment
only, and the steps that processes may still take, by one.
-/

namespace JavacLauncher.Shell

open JavacLauncher.CommandLine JavacLauncher.ShellWords

/-! ## Running one thing after another -/

namespace Run

variable {α β : Type} {s s' s'' : Session}

theorem run_bind_ok {x : Run α} {f : α → Run β} {a : α} (h : x.run.run s = pure (.ok a, s')) :
    (x >>= f).run.run s = (f a).run.run s' := by
  simp [ExceptT.run_bind, StateT.run_bind, h]

theorem run_bind_error {x : Run α} {f : α → Run β} {j : Jump}
    (h : x.run.run s = pure (.error j, s')) : (x >>= f).run.run s = pure (.error j, s') := by
  simp [ExceptT.run_bind, StateT.run_bind, h]

theorem run_get_bind (f : Session → Run β) : (get >>= f).run.run s = (f s).run.run s := rfl

theorem run_set_bind (f : PUnit → Run β) : (set s' >>= f).run.run s = (f ⟨⟩).run.run s' := rfl

theorem run_modify_bind (g : Session → Session) (f : PUnit → Run β) :
    (modify g >>= f).run.run s = (f ⟨⟩).run.run (g s) := rfl

theorem run_act_bind (a : Action α) (f : α → Run β) :
    (act a >>= f).run.run s = (f (a s.machine).1).run.run { s with machine := (a s.machine).2 } := rfl

theorem run_tryCatch_error {x : Run α} {f : Jump → Run α} {j : Jump}
    (h : x.run.run s = pure (.error j, s')) : (tryCatch x f).run.run s = (f j).run.run s' := by
  simp [ExceptT.run_tryCatch, StateT.run_bind, h]

/-- What is to be done at the end is done before a jump goes on. -/
theorem run_ensuring_error {x : Run α} {finish : Run Unit} {j : Jump}
    (h : x.run.run s = pure (.error j, s')) (hfinish : finish.run.run s' = pure (.ok (), s'')) :
    (ensuring x finish).run.run s = pure (.error j, s'') := by
  have hcaught : (tryCatch (do return Sum.inl (← x)) fun j => return Sum.inr j : Run (α ⊕ Jump)).run.run
      s = pure (.ok (.inr j), s') := by
    rw [run_tryCatch_error (run_bind_error h)]
    rfl
  rw [ensuring, run_bind_ok hcaught, run_bind_ok hfinish]
  rfl

theorem run_mapM {f : α → Run β} {g : α → β} {l : List α}
    (h : ∀ a ∈ l, (f a).run.run s = pure (.ok (g a), s)) :
    (l.mapM f).run.run s = pure (.ok (l.map g), s) := by
  induction l with
  | nil => rfl
  | cons a l ih =>
    obtain ⟨ha, hl⟩ := List.forall_mem_cons.mp h
    rw [List.mapM_cons, run_bind_ok ha, run_bind_ok (ih hl)]
    rfl

end Run

/-! ## What quoted words come to -/

section

variable (ev : Evaluator)

/-- What a quoted argument comes to before it is split: quotes with nothing in them leave a trace. -/
def segmentOf (arg : Text) : Segment := if arg = [] then .trace else .fixed true arg

theorem marked_fixed (isQuoted : Bool) (t : Text) :
    (Segment.fixed isQuoted t).marked = mark isQuoted t := by
  unfold Segment.marked Segment.fixed mark
  rw [List.filterMap_map]
  exact List.filterMap_eq_map (f := fun c => (c, isQuoted)) ▸ rfl

theorem unmark_mark (isQuoted : Bool) (t : Text) : unmark (mark isQuoted t) = t := by
  unfold unmark mark
  rw [List.map_map]
  exact List.map_id t

theorem isPattern_mark (t : Text) : isPattern (mark true t) = false := by
  simp [isPattern, mark]

/-- A quoted argument is one field, even if it is empty. -/
theorem marked_ofSegments (separators arg : Text) :
    (Fields.ofSegments separators [segmentOf arg]).map Fields.marked = [mark true arg] := by
  cases arg with
  | nil => rfl
  | cons c arg =>
    simp [Fields.ofSegments, segmentOf, Fields.addSegment, Fields.empty, Fields.marked, Segment.fixed]
    exact marked_fixed true (c :: arg)

theorem run_wordSegments_quoted (n : Nat) (arg : Text) (s : Session) :
    (wordSegments ev (n + 1) .full [.quoted arg]).run.run s = pure (.ok [segmentOf arg], s) := by
  have hhomes : Word.withHomes (homeOf? s) Setting.full.tilde true [.quoted arg] = [.quoted arg] := rfl
  rw [wordSegments, Run.run_get_bind, hhomes]
  cases arg <;> rfl

/-- A quoted argument is neither split nor matched against file names. -/
theorem run_expandFields_quoted {s : Session} (hplain : s.isExtended = false) (arg : Text) :
    (expandFields ev [.quoted arg]).run.run s = pure (.ok [arg], s) := by
  have hfields : (expandFields.fields ev [.quoted arg]).run.run s = pure (.ok [arg], s) := by
    rw [expandFields.fields, wordDepth, Run.run_bind_ok (run_wordSegments_quoted ev 199 arg s),
      Run.run_get_bind, marked_ofSegments]
    simp [isPattern_mark, unmark_mark]
  rw [expandFields, Run.run_get_bind]
  simp [hplain, hfields]

end

/-! ## The characters of a line -/

theorem mem_inside {arg : Text} {others : List Text} {c : Char} (h : c ∈ inside arg others) :
    c = '"' ∨ c = '\\' ∨ c ∈ arg ∨ c ∈ behind others := by
  induction arg with
  | nil =>
    rw [inside_nil] at h
    grind
  | cons d arg ih =>
    by_cases hquote : d = '"'
    · subst hquote
      rw [inside_quote] at h
      grind
    · rw [inside_cons hquote] at h
      grind

theorem mem_behind {others : List Text} {c : Char} (h : c ∈ behind others) :
    c = ' ' ∨ c = '"' ∨ c = '\\' ∨ ∃ arg ∈ others, c ∈ arg := by
  induction others with
  | nil => exact absurd h List.not_mem_nil
  | cons arg others ih =>
    rw [behind_cons] at h
    have hinside := @mem_inside arg others c
    grind

theorem nul_notMem_ofArguments {args : List Text} (h : ∀ arg ∈ args, ∀ c ∈ arg, IsQuotable c) :
    '\x00' ∉ ofArguments args := by
  intro hmem
  cases args with
  | nil => exact absurd hmem List.not_mem_nil
  | cons first others =>
    have hbehind : '\x00' ∈ behind (first :: others) := by
      rw [ofArguments_cons] at hmem
      rw [behind_cons]
      exact List.mem_cons_of_mem _ hmem
    obtain hnul | hnul | hnul | ⟨arg, harg, hnul⟩ := mem_behind hbehind
    · exact absurd hnul (by decide)
    · exact absurd hnul (by decide)
    · exact absurd hnul (by decide)
    · exact (h arg harg _ hnul).ne_nul rfl

/-! ## A shell with nothing else to do -/

/-- A shell that has just begun: nothing is defined, nothing is awaited, and no signal is on its way. -/
structure Session.IsFresh (s : Session) : Prop where
  isPlain : s.isExtended = false
  functions : s.functions = []
  traps : s.traps = []
  arrived : s.arrived = []
  jobs : s.jobs = []
  options : s.options = []
  signals : s.machine.signals = []

theorem Session.IsFresh.has {s : Session} (hs : s.IsFresh) (letter : Char) : s.has letter = false := by
  rw [Session.has, hs.options]
  rfl

/-- The shell as a program leaves it that has taken its place. -/
def Session.endedBy (s : Session) (o : Outcome) (m : Machine) : Session :=
  { s with machine := m, traps := [], status := codeOf o }

/-- What is known of a shell whose place a program has taken. -/
structure Session.EndedBy (s : Session) (o : Outcome) (m : Machine) : Prop where
  machine : s.machine = m
  status : s.status = codeOf o
  traps : s.traps = []
  jobs : s.jobs = []

/-- How a shell goes on whose place a program has taken. -/
def jumpOf : Outcome → Jump
  | .exited _ => .exit
  | .killed n => .killed n.toNat

theorem slash_notMem_names : ∀ name ∈ Builtin.names false, '/' ∉ name := by decide

theorem lookup_eq_none_of_notMem {α β : Type} [BEq α] [LawfulBEq α] {a : α} {l : List (α × β)}
    (h : a ∉ l.map (·.1)) : l.lookup a = none := by
  rw [List.lookup_eq_none_iff]
  intro p hp
  rw [bne_iff_ne]
  rintro rfl
  exact h (List.mem_map_of_mem hp)

/-- A path is no command of the shell itself. -/
theorem isOwn_of_slash {name : Text} (h : '/' ∈ name) : Builtin.isOwn false name = false := by
  have hnames : name ∉ Builtin.names false := fun hmem => slash_notMem_names name hmem h
  simp only [Builtin.names, List.mem_append, not_or, if_neg Bool.false_ne_true, List.map_append,
    List.mem_singleton] at hnames
  obtain ⟨⟨⟨hcontrol, -⟩, htype⟩, hshared, hplain⟩ := hnames
  simp only [Builtin.isOwn, Builtin.body?, hcontrol, htype, lookup_eq_none_of_notMem hshared,
    lookup_eq_none_of_notMem hplain]
  rfl

section

variable (ev : Evaluator) (starter : Starter) {s : Session} {o : Outcome} {m : Machine}

theorem run_replaceBy (s : Session) (o : Outcome) :
    (replaceBy o).run.run s = pure (.error (jumpOf o), { s with traps := [], status := codeOf o }) := by
  cases o <;> rfl

theorem run_startFirst {p : Process} {name : Text} {args : List Text}
    (h : starter p name (name :: args) s.machine = (.ok o, m)) :
    (startFirst starter p name args .noEntry [name]).run.run s =
      pure (.ok (.ok o), { s with machine := m }) := by
  have hfile : (startFile starter p name name args).run.run s =
      pure (.ok (.ok o), { s with machine := m }) := by
    rw [startFile, Run.run_get_bind, Run.run_act_bind, h]
    rfl
  rw [startFirst, Run.run_bind_ok hfile]
  rfl

/-- A program that is started last takes the place of the shell. -/
theorem run_runProgram (hs : s.IsFresh) {name : Text} (hname : '/' ∈ name) (args : List Text)
    (h : starter { s.process with environment := s.environment } name (name :: args) s.machine =
      (.ok o, m)) :
    (runProgram starter true name args).run.run s = pure (.error (jumpOf o), s.endedBy o m) := by
  have hpaths : pathsOf s name = .ok [name] := by rw [pathsOf, if_pos hname]
  have hlocated : ¬ ('/' ∉ name ∧ name ∉ s.located) := fun h => h.1 hname
  have htraps : (s.traps.all fun e => decide (e.2 = [])) = true := by
    rw [hs.traps]
    rfl
  rw [runProgram, Run.run_get_bind, hpaths]
  simp only [if_neg hlocated]
  rw [Run.run_get_bind]
  simp only [htraps, hs.isPlain, Bool.and_true, if_true, if_neg Bool.false_ne_true]
  rw [pure_bind, Run.run_bind_ok (run_startFirst starter h)]
  exact run_replaceBy _ _

/-- The words of the command come to its arguments, and the first one names a program. -/
theorem run_headOf (hs : s.IsFresh) {name : Text} (hname : '/' ∈ name) (args : List Text) :
    (headOf ev ((name :: args).map fun arg => [.quoted arg])).run.run s =
      pure (.ok ⟨name :: args, 0, [], .program, false, false, none⟩, s) := by
  have htake : (takeFields ev ((name :: args).map fun arg => [.quoted arg])).run.run s =
      pure (.ok ([name], args.map fun arg => [.quoted arg]), s) := by
    rw [List.map_cons, takeFields, Run.run_bind_ok (run_expandFields_quoted ev hs.isPlain name)]
    rfl
  have hfind (rest : List Word) :
      (Head.find ev 100 ⟨[name], 0, rest, .nothing, false, false, none⟩).run.run s =
        pure (.ok ⟨[name], 0, rest, .program, false, false, none⟩, s) := by
    have hfunction : s.functions.lookup name = none := by
      rw [hs.functions]
      rfl
    rw [Head.find, Run.run_get_bind]
    simp [hfunction, hs.isPlain, isOwn_of_slash hname]
  rw [headOf, Run.run_bind_ok htake, Run.run_bind_ok (hfind _), Run.run_get_bind]
  simp only [Bool.false_eq_true, false_and, if_false]
  rw [List.mapM_map]
  have hmore : (args.mapM fun arg => expandFields ev [.quoted arg]).run.run s =
      pure (.ok (args.map fun arg => [arg]), s) :=
    Run.run_mapM fun arg _ => run_expandFields_quoted ev hs.isPlain arg
  refine (Run.run_bind_ok hmore).trans ?_
  rw [← List.flatMap_def, List.flatMap_singleton']
  rfl

theorem run_showCommand (h : s.has 'x' = false) (stream? : Option Nat) (lines : List Text) :
    (showCommand ev stream? lines).run.run s = pure (.ok (), s) := by
  rw [showCommand, Run.run_get_bind, if_neg (by simp [h])]
  rfl

theorem run_letTimePass (h : s.jobs = []) (name : Text) :
    (letTimePass name).run.run s = pure (.ok (), s) := by
  unfold letTimePass
  split
  · rw [Run.run_get_bind, if_neg (by simp [h])]
    rfl
  · rfl

theorem run_keepingDescriptors_error {body : Run Unit} {s' : Session} {j : Jump}
    (h : body.run.run s = pure (.error j, s')) :
    (keepingDescriptors body).run.run s =
      pure (.error j,
        { s' with process := { s'.process with descriptors := s.process.descriptors } }) := by
  rw [keepingDescriptors, Run.run_get_bind]
  exact Run.run_ensuring_error h rfl

theorem run_runSimple (hs : s.IsFresh) {name : Text} (hname : '/' ∈ name) (args : List Text)
    (h : starter { s.process with environment := s.environment } name (name :: args) s.machine =
      (.ok o, m)) :
    ∃ s', (runSimple starter ev ⟨false, true⟩ [] ((name :: args).map fun arg => [.quoted arg]) []).run.run
        s = pure (.error (jumpOf o), s') ∧ s'.EndedBy o m := by
  rw [runSimple, Run.run_get_bind, Run.run_set_bind]
  generalize hs₁ : ({ s with
    substituted := 0, command? := if s.isExtended then none else s.command? } : Session) = s₁
  have hfresh : s₁.IsFresh := by
    subst hs₁
    exact ⟨hs.isPlain, hs.functions, hs.traps, hs.arrived, hs.jobs, hs.options, hs.signals⟩
  have hstart : starter { s₁.process with environment := s₁.environment } name (name :: args)
      s₁.machine = (.ok o, m) := by
    subst hs₁
    exact h
  rw [Run.run_bind_ok (run_headOf ev hfresh hname args)]
  let s₂ : Session := { s₁ with saved := [] :: s₁.saved }
  have hs₂ : s₂.IsFresh := ⟨hfresh.isPlain, hfresh.functions, hfresh.traps, hfresh.arrived,
    hfresh.jobs, hfresh.options, hfresh.signals⟩
  have htarget : (runTarget starter ev ⟨false, true⟩
      ⟨name :: args, 0, [], .program, false, false, none⟩ false name args).run.run s₂ =
      pure (.error (jumpOf o), s₂.endedBy o m) := by
    rw [runTarget, Run.run_bind_ok (run_letTimePass hs₂.jobs name), if_neg Bool.false_ne_true]
    exact run_runProgram starter hs₂ hname args hstart
  have hopened : (expandRedirects ev []).run.run s₂ = pure (.ok [], s₂) := rfl
  have htargets : (openTargets ev []).run.run s₂ = pure (.ok true, s₂) := rfl
  have hassigned : (applyAll ev true false []).run.run s₂ = pure (.ok [], s₂) := rfl
  simp only [hs.isPlain, Bool.false_and, Bool.not_false, Bool.and_true, if_neg Bool.false_ne_true,
    Option.getD_none, List.drop_zero, List.headD_cons, List.tail_cons]
  -- the jump passes by what puts descriptors and variables back
  let s₃ : Session := { s₂.endedBy o m with process := s₁.process, saved := s₁.saved }
  refine ⟨s₃, Run.run_bind_error ?_, rfl, rfl, rfl, hfresh.jobs⟩
  rw [keepingVariables, if_pos rfl, Run.run_modify_bind]
  refine Run.run_ensuring_error
    (run_keepingDescriptors_error (?_ : _ = pure (Except.error (jumpOf o), s₂.endedBy o m))) ?_
  · change StateT.run (ExceptT.run _) s₂ = _
    rw [Run.run_bind_ok hopened, Run.run_bind_ok htargets, if_pos rfl, Run.run_bind_ok hassigned,
      Run.run_bind_ok (run_showCommand ev (hs₂.has 'x') _ _)]
    exact Run.run_bind_error htarget
  · rfl

theorem run_takeSignals (h : s.machine.signals = []) : takeSignals.run.run s = pure (.ok (), s) := by
  rw [takeSignals, Run.run_get_bind, if_neg (by simp [h])]
  rfl

theorem run_runTraps (hs : s.IsFresh) : (runTraps ev).run.run s = pure (.ok (), s) := by
  rw [runTraps, Run.run_bind_ok (run_takeSignals hs.signals), Run.run_get_bind,
    if_neg (by simp [hs.arrived])]
  rfl

theorem run_runScriptFor (h : s.traps = []) (event : Nat) (isTakenOver : Bool) :
    (runScriptFor ev event isTakenOver).run.run s = pure (.ok (), s) := by
  have hscript : s.traps.lookup event = none := by
    rw [h]
    rfl
  rw [runScriptFor, Run.run_get_bind, hscript]
  rfl

theorem step_of_budget {m : Machine} {n : Nat} (h : m.budget = n + 1) :
    Machine.step m = (true, { m with budget := n }) := by
  cases m
  cases h
  rfl

theorem run_evaluate (hs : s.IsFresh) {k : Nat} (hbudget : s.machine.budget = k + 1) {name : Text}
    (hname : '/' ∈ name) (args : List Text) (n line : Nat)
    (h : starter { s.process with environment := s.environment } name (name :: args)
      { s.machine with budget := k } = (.ok o, m)) :
    ∃ s', (evaluate starter (n + 1) ⟨false, true⟩ (commandOf line (name :: args))).run.run s =
      pure (.error (jumpOf o), s') ∧ s'.EndedBy o m := by
  let s₁ : Session := { s with machine := { s.machine with budget := k }, line := line }
  have hs₁ : s₁.IsFresh :=
    ⟨hs.isPlain, hs.functions, hs.traps, hs.arrived, hs.jobs, hs.options, hs.signals⟩
  obtain ⟨s', hrun, hended⟩ := run_runSimple (evaluate starter n) starter hs₁ hname args h
  refine ⟨s', ?_, hended⟩
  have hone : (evaluateOne starter (evaluate starter n) ⟨false, true⟩
      (commandOf line (name :: args))).run.run s =
      pure (.error (jumpOf o), s') := by
    rw [commandOf, evaluateOne, Run.run_act_bind, step_of_budget hbudget]
    simp only [Bool.not_true, if_neg Bool.false_ne_true]
    have hline : (atLine line).run.run { s with machine := { s.machine with budget := k } } =
        pure (.ok (), s₁) := rfl
    refine (Run.run_bind_ok hline).trans ?_
    rw [Run.run_get_bind, Run.run_bind_ok (run_runScriptFor _ hs₁.traps _ _)]
    exact Run.run_bind_error hrun
  rw [evaluate, Run.run_get_bind, if_neg (by simp [hs.has 'n']), Run.run_bind_ok (run_runTraps _ hs)]
  exact Run.run_bind_error hone

/-- A jump out of the last line of a text ends the text. -/
theorem run_runLines_error {flags : Flags} {t : Text} {n : Nat} {r r' : Reader} {hasRun : Bool}
    {c : Command} {s' : Session} {j : Jump} (hplain : s.isExtended = false)
    (hread : { r with documents := s.documents, aliases := s.aliases }.readLine =
      .ok (some (some c), r'))
    (hpushed : r'.isPushedBack = true) (htoken : r'.token = .endOfText)
    (h : (ev flags c).run.run { s with documents := r'.documents } = pure (.error j, s')) :
    (runLines ev flags t (n + 1) r hasRun).run.run s = pure (.error j, s') := by
  have haliases : (if s.isExtended ∧ !s.hasExtra "expand_aliases" then [] else s.aliases) = s.aliases :=
    if_neg (by simp [hplain])
  rw [runLines, Run.run_get_bind]
  simp only [haliases, hread]
  rw [Run.run_modify_bind]
  simp only [hpushed, htoken, decide_true, Bool.and_true]
  rw [Run.run_get_bind, if_neg (by simp [hplain])]
  exact Run.run_bind_error h

/-- A text that is the line for a command is run to the end of the shell. -/
theorem run_runText (hs : s.IsFresh) {k : Nat} (hbudget : s.machine.budget = k + 1) {name : Text}
    (hname : '/' ∈ name) {args : List Text} (hargs : ∀ arg ∈ name :: args, ∀ c ∈ arg, IsQuotable c)
    (hlength : (ofArguments (name :: args)).length < Parse.rounds) (n : Nat)
    (h : starter { s.process with environment := s.environment } name (name :: args)
      { s.machine with budget := k } = (.ok o, m)) :
    ∃ s', (runText (evaluate starter (n + 1)) ⟨false, true⟩ (ofArguments (name :: args))).run.run s =
      pure (.error (jumpOf o), s') ∧ s'.EndedBy o m := by
  obtain ⟨r, hread, hpushed, htoken, -⟩ :=
    readLine_ofArguments (List.cons_ne_nil name args) hargs hlength s.documents s.aliases
  have hs₁ : { s with documents := r.documents }.IsFresh :=
    ⟨hs.isPlain, hs.functions, hs.traps, hs.arrived, hs.jobs, hs.options, hs.signals⟩
  obtain ⟨s', hrun, hended⟩ := run_evaluate starter hs₁ hbudget hname args n (1 + name.count '\n') h
  refine ⟨s', ?_, hended⟩
  have hnul : (ofArguments (name :: args)).filter (· ≠ '\x00') = ofArguments (name :: args) := by
    rw [List.filter_eq_self]
    intro c hc
    exact decide_eq_true fun hzero => nul_notMem_ofArguments hargs (hzero ▸ hc)
  rw [runText, runTextFrom, Run.run_get_bind, hnul, hs.isPlain]
  exact run_runLines_error (n := 999999999) _ hs.isPlain hread hpushed htoken hrun

theorem run_runAwaitedJobs (h : s.jobs = []) : runAwaitedJobs.run.run s = pure (.ok (), s) := by
  rw [runAwaitedJobs, Run.run_get_bind, h]
  rfl

/-- A shell whose place a program has taken ends as the program has ended. -/
theorem run_finish {body : Run Unit} {s' : Session}
    (h : body.run.run s = pure (.error (jumpOf o), s')) (hended : s'.EndedBy o m) :
    (finish ev body).run.run s = pure (.ok o, s') := by
  have hcaught : (tryCatch (do body; return none) fun j => return some j : Run (Option Jump)).run.run s =
      pure (.ok (some (jumpOf o)), s') := by
    rw [Run.run_tryCatch_error (Run.run_bind_error h)]
    rfl
  have htraps : s'.traps.lookup 0 = none := by
    rw [hended.traps]
    rfl
  rw [finish, Run.run_bind_ok hcaught]
  cases o with
  | exited code =>
    simp only [jumpOf]
    rw [Run.run_get_bind, Run.run_get_bind, htraps, pure_bind, hended.status]
    simp [codeOf, Outcome.code]
  | killed n =>
    simp [jumpOf]

/-- Only the program's outcome and the machine that it leaves come out of the shell. -/
theorem run_runToEnd {body : Run Unit} {s' : Session}
    (h : body.run.run s = pure (.error (jumpOf o), s')) (hended : s'.EndedBy o m) (m₀ : Machine) :
    (runToEnd ev s body).run m₀ = (o, m) := by
  have hrun : (do
      let o ← finish ev (do body; takeSignals)
      runAwaitedJobs
      return o : Run Outcome).run s = (.ok o, s') :=
    (Run.run_bind_ok (run_finish ev (Run.run_bind_error h) hended)).trans
      (Run.run_bind_ok (run_runAwaitedJobs hended.jobs))
  unfold runToEnd
  simp only [hrun]
  rw [← hended.machine]
  rfl

end

/-! ## The shell as a program -/

/-- A session that differs from another one in its variables and its directory only. -/
def Session.SameButVariables (s s' : Session) : Prop :=
  ∃ bindings directory, s' = { s with bindings := bindings, directory := directory }

namespace Session.SameButVariables

theorem refl (s : Session) : s.SameButVariables s := ⟨_, _, rfl⟩

theorem trans {s s' s'' : Session} (h : s.SameButVariables s') (h' : s'.SameButVariables s'') :
    s.SameButVariables s'' := by
  obtain ⟨_, _, rfl⟩ := h
  obtain ⟨_, _, rfl⟩ := h'
  exact ⟨_, _, rfl⟩

theorem isExtended {s s' : Session} (h : s.SameButVariables s') : s'.isExtended = s.isExtended := by
  obtain ⟨_, _, rfl⟩ := h
  rfl

theorem putVariable (s : Session) (v : Variable) : s.SameButVariables (s.putVariable v) := by
  unfold Session.putVariable
  split <;> exact ⟨_, _, rfl⟩

theorem putText (s : Session) (name value : Text) : s.SameButVariables (s.putText name value) :=
  putVariable s _

theorem share (s : Session) (name : Text) : s.SameButVariables (s.share name) := putVariable s _

theorem foldl {α : Type} {f : Session → α → Session}
    (h : ∀ (s : Session) a, s.SameButVariables (f s a))
    (l : List α) (s : Session) : s.SameButVariables (l.foldl f s) := by
  induction l generalizing s with
  | nil => exact refl s
  | cons a l ih => exact (h s a).trans (ih (f s a))

end Session.SameButVariables

theorem sameButVariables_withVariables {s : Session} (hplain : s.isExtended = false) :
    s.SameButVariables s.withVariables := by
  let values := initialValues s.isExtended s.process
  let s₁ := values.foldl (fun s e => s.putText e.1 e.2) s
  have h₁ : s.SameButVariables s₁ := .foldl (fun s e => .putText s e.1 e.2) values s
  let given := s.process.environment.filter fun e => isName e.1
  let s₂ := given.foldl
    (fun s e => (if e.1 ∈ ownNames then s else s.putText e.1 e.2).share e.1) s₁
  have h₂ : s₁.SameButVariables s₂ := by
    refine .foldl (fun s e => ?_) given s₁
    split
    · exact .share s e.1
    · exact (Session.SameButVariables.putText s e.1 e.2).trans (.share _ e.1)
  let directory := (initialDirectory s₂.machine s.process).getD []
  let s₃ := ({ s₂ with directory := directory }.putText "PWD".toList directory).share "PWD".toList
  have h₃ : s₂.SameButVariables s₃ :=
    (Session.SameButVariables.trans ⟨_, _, rfl⟩ (.putText _ _ _)).trans (.share _ _)
  have h : s.SameButVariables s₃ := (h₁.trans h₂).trans h₃
  have hlast : ¬ s₃.isExtended = true := by
    rw [h.isExtended, hplain]
    exact Bool.false_ne_true
  have heq : s.withVariables = s₃ := if_neg hlast
  rw [heq]
  exact h

/-- The session of a shell that is told its commands on its command line. -/
def Session.begin (m : Machine) (p : Process) : Session := (Session.start false m p).withVariables

theorem readLineOptions_quote (n : Nat) (t : Text) (letters : List Char) (hasText readsInput : Bool) :
    readLineOptions false (n + 1) ⟨letters, hasText, readsInput, ['"' :: t]⟩ =
      .ok ⟨letters, hasText, readsInput, ['"' :: t]⟩ := by
  cases t <;> simp [readLineOptions]

theorem read_text (t : Text) :
    CommandLine.read false ["sh".toList, "-c".toList, '"' :: t] =
      .ok ⟨[], "sh".toList, .text ('"' :: t), []⟩ := by
  have hoptions : readLineOptions false 4 ⟨[], false, false, ["-c".toList, '"' :: t]⟩ =
      .ok ⟨[], true, false, ['"' :: t]⟩ := readLineOptions_quote 2 t [] true false
  rw [CommandLine.read]
  simp only [List.length_cons, List.length_nil, List.tail_cons]
  rw [hoptions]
  rfl

/-- A shell that is told its commands on its command line begins afresh. -/
theorem isFresh_begin {m : Machine} (h : m.signals = []) (p : Process) :
    (Session.begin m p).IsFresh ∧ (Session.begin m p).machine = m ∧ (Session.begin m p).process = p := by
  obtain ⟨bindings, directory, hbegin⟩ :=
    sameButVariables_withVariables (s := Session.start false m p) rfl
  rw [Session.begin, hbegin]
  exact ⟨⟨rfl, rfl, rfl, rfl, rfl, rfl, h⟩, rfl, rfl⟩

/-- **The shell ends as the program of its line ends.** -/
theorem program_ofArguments (starter : Starter) {p : Process} {m m' : Machine} {k : Nat}
    (hplace : m.tree.isGone p.standpoint = false) (hsignals : m.signals = [])
    (hbudget : m.budget = k + 1) {name : Text} (hname : '/' ∈ name) {args : List Text}
    (hargs : ∀ arg ∈ name :: args, ∀ c ∈ arg, IsQuotable c)
    (hlength : (ofArguments (name :: args)).length < Parse.rounds) {o : Outcome}
    (h : starter { p with environment := (Session.begin m p).environment } name (name :: args)
      { m with budget := k } = (.ok o, m')) :
    (program starter false p ["sh".toList, "-c".toList, ofArguments (name :: args)]).run m = (o, m') := by
  have hread := read_text (inside name args)
  rw [← ofArguments_cons] at hread
  obtain ⟨hfresh, hmachine, hprocess⟩ := isFresh_begin hsignals p
  let s : Session := { Session.begin m p with
    options := [] ++ (Session.begin m p).options, name := "sh".toList, positional := [], line := 1,
    sources := [] }
  have hs : s.IsFresh :=
    ⟨hfresh.isPlain, hfresh.functions, hfresh.traps, hfresh.arrived, hfresh.jobs, hfresh.options,
      hfresh.signals⟩
  have hbudget' : s.machine.budget = k + 1 := by
    rw [← hbudget, ← hmachine]
  have hstart : starter { s.process with environment := s.environment } name (name :: args)
      { s.machine with budget := k } = (.ok o, m') := by
    have hs' : s.process = p ∧ s.machine = m := ⟨hprocess, hmachine⟩
    rw [hs'.1, hs'.2]
    exact h
  obtain ⟨s', hrun, hended⟩ := run_runText starter hs hbudget' hname hargs hlength 11999 hstart
  have hgone : ¬ (m.tree.isGone p.standpoint ∧ (initialDirectory m p).isNone) := by simp [hplace]
  rw [program]
  simp only [hread]
  rw [runShell, StateT.run_bind, StateT.run_get, pure_bind, if_neg hgone, StateT.run_bind,
    StateT.run_get, pure_bind]
  exact run_runToEnd _ hrun hended _

end JavacLauncher.Shell
