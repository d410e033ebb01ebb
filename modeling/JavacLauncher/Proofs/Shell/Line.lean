import JavacLauncher.Proofs.Shell.Words

/-!
# The line as a command of the shell

The reader of commands looks one token ahead: it takes a token, gives it back, and lets the next
inner reader take it again, from the list of commands down to the simple command and back.
`Reader.atWord` is the reader in front of a word that was given back, `Reader.atEnd` the one in front of
the end of the line.
A reader of commands `ReadsLine` if it takes the first one to the second one and makes of the line
the simple command whose words are the quoted arguments. The simple command does, by induction
over the arguments behind the first one (`readsLine_simple`), and every reader around it hands
on what the one within it has read.

So the line is one command and nothing is left of it (`readLine_ofArguments`).
-/

namespace JavacLauncher.Shell

open JavacLauncher.CommandLine JavacLauncher.ShellWords

/-- The command that is read from the line for arguments. -/
def commandOf (line : Nat) (args : List Text) : Command :=
  .simple line [] (args.map fun arg => [.quoted arg]) []

variable {inner : ListKind → Parse (Option (Option Command))} {r : Reader}

/-! ## Tokens -/

namespace Reader

/-- The reader behind a quoted word. -/
def tookWord (r : Reader) (arg : Text) : Reader :=
  { r.down (arg.count '\n') with word := [.quoted arg], isQuoted := true, token := .word }

/-- The reader with the last token given back. -/
def gaveBack (r : Reader) : Reader := { r with checks := .none, isPushedBack := true }

/-- The reader with the last token taken. -/
def took (r : Reader) : Reader := { r with checks := .none, isPushedBack := false }

/-- The reader in front of a quoted word that was given back; `t` follows the word. -/
def atWord (r : Reader) (arg t : Text) : Reader := (r.tookWord arg).gaveBack.before t

/-- The reader in front of the end of the text, which was given back. -/
def atEnd (r : Reader) : Reader := { r with token := .endOfText }.gaveBack.before []

@[simp] theorem gaveBack_atWord (r : Reader) (arg t : Text) :
    (r.atWord arg t).gaveBack = r.atWord arg t := rfl

@[simp] theorem gaveBack_atEnd (r : Reader) : r.atEnd.gaveBack = r.atEnd := rfl

end Reader

@[simp] theorem run_pushBack_took (r : Reader) :
    Parse.pushBack.run r.took = pure ((), r.gaveBack) := rfl

theorem run_takeVisible_quote (r : Reader) (t : Text) :
    takeVisible.run (r.before ('"' :: t)) = pure (some '"', r.before t) := by
  rw [takeVisible, Parse.rounds]
  refine Parse.run_loop_inr ?_ 999999999
  simp [Parse.run_takeJoined (Parse.isPlain_cons (show '"' ≠ '\\' by decide) t)]

theorem run_takeVisible_blank (r : Reader) (t : Text) :
    takeVisible.run (r.before (' ' :: '"' :: t)) = pure (some '"', r.before t) := by
  rw [takeVisible, Parse.rounds]
  refine Eq.trans (Parse.run_loop_inl (?_ : _ = pure (Sum.inl (), r.before ('"' :: t))) 999999999)
    (Parse.run_loop_inr ?_ 999999998)
  · simp [Parse.run_takeJoined (Parse.isPlain_cons (show ' ' ≠ '\\' by decide) ('"' :: t))]
  · simp [Parse.run_takeJoined (Parse.isPlain_cons (show '"' ≠ '\\' by decide) t)]

theorem run_takeVisible_nil (r : Reader) :
    takeVisible.run (r.before []) = pure (none, r.before []) := by
  rw [takeVisible, Parse.rounds]
  refine Parse.run_loop_inr ?_ 999999999
  simp [Parse.run_takeJoined Parse.isPlain_nil]

section

variable {readNext : Parse Token}

/-- A quoted argument is a token, with or without a blank in front of it. -/
theorem run_readBareToken_word {t arg : Text} (h : ∀ c ∈ arg, IsQuotable c)
    (hlength : arg.length + 3 ≤ Parse.rounds) {others : List Text} (hr : r.isPushedBack = false)
    (ht : t = '"' :: inside arg others ∨ t = ' ' :: '"' :: inside arg others) :
    (readBareToken inner readNext).run (r.before t) =
      pure (.word, (r.tookWord arg).before (behind others)) := by
  have hvisible : takeVisible.run (r.before t) = pure (some '"', r.before (inside arg others)) := by
    obtain rfl | rfl := ht
    · exact run_takeVisible_quote r _
    · exact run_takeVisible_blank r _
  have hword : Word.ofSymbols (.mark :: (arg.map symbolOf ++ [.mark])) = [.quoted arg] :=
    ofSymbols_quoted arg
  simp [readBareToken, bareText?, noteToken, hr, hvisible, run_scan h hlength others, hword]
  rfl

theorem run_readBareToken_nil (hr : r.isPushedBack = false) :
    (readBareToken inner readNext).run (r.before []) =
      pure (.endOfText, { r with token := .endOfText }.before []) := by
  simp [readBareToken, noteToken, hr, run_takeVisible_nil]
  rfl

theorem run_readBareToken_pushedBack (hr : r.isPushedBack = true) :
    (readBareToken inner readNext).run r = pure (r.token, { r with isPushedBack := false }) := by
  simp [readBareToken, hr]

end

/-- A token that no line end, alias or reserved word changes is the next one. -/
theorem run_nextToken {r' : Reader} {token : Token}
    (h : ∀ readNext, (readBareToken inner readNext).run r = pure (token, r'))
    (hlines : r.checks.skipsLines = false) (htoken : token = .word → bareText? r'.word = none) :
    (nextToken inner).run r = pure (token, { r' with checks := .none }) := by
  rw [nextToken, Reader.nesting]
  unfold readToken
  simp only [StateT.run_bind, StateT.run_get, pure_bind, Parse.rounds]
  refine Parse.run_loop_inr ?_ 999999999
  simp [h, hlines, Parse.check]
  split
  · rename_i hword
    rw [htoken rfl] at hword
    cases hword
  · rfl

theorem run_nextToken_word {t arg : Text} (h : ∀ c ∈ arg, IsQuotable c)
    (hlength : arg.length + 3 ≤ Parse.rounds) {others : List Text} (hr : r.isPushedBack = false)
    (hlines : r.checks.skipsLines = false)
    (ht : t = '"' :: inside arg others ∨ t = ' ' :: '"' :: inside arg others) :
    (nextToken inner).run (r.before t) =
      pure (.word, (r.tookWord arg).took.before (behind others)) := by
  rw [run_nextToken (fun _ => run_readBareToken_word h hlength hr ht) hlines fun _ => rfl]
  simp [Reader.tookWord, Reader.took, Reader.before, Reader.down, hr]

theorem run_nextToken_nil (hr : r.isPushedBack = false) (hlines : r.checks.skipsLines = false) :
    (nextToken inner).run (r.before []) =
      pure (.endOfText, { r with token := .endOfText }.took.before []) := by
  rw [run_nextToken (fun _ => run_readBareToken_nil hr) hlines nofun]
  simp [Reader.took, Reader.before, hr]

theorem run_nextToken_pushedBack (hr : r.isPushedBack = true) (hlines : r.checks.skipsLines = false)
    (htoken : r.token = .word → bareText? r.word = none) :
    (nextToken inner).run r = pure (r.token, r.took) :=
  run_nextToken (fun _ => run_readBareToken_pushedBack hr) hlines htoken

@[simp] theorem run_nextToken_atWord (r : Reader) (arg t : Text) :
    (nextToken inner).run (r.atWord arg t) = pure (.word, (r.atWord arg t).took) :=
  run_nextToken_pushedBack (r := r.atWord arg t) rfl rfl fun _ => rfl

@[simp] theorem run_nextToken_atEnd (r : Reader) :
    (nextToken inner).run r.atEnd = pure (.endOfText, r.atEnd.took) :=
  run_nextToken_pushedBack (r := r.atEnd) rfl rfl nofun

/-! ## The simple command -/

section

variable {command : Parse Command} {line : Nat}

/-- The first word is no assignment, because it is quoted. -/
theorem run_readSimplePart_first (r : Reader) (arg t : Text) :
    (readSimplePart inner command line false ⟨[], [], [], true⟩).run (r.atWord arg t) =
      pure (.inl ⟨[], [[.quoted arg]], [], false⟩, (r.tookWord arg).took.before t) := by
  have hcheck : (Parse.check .aliases).run (r.atWord arg t) =
      pure ((), { r.atWord arg t with checks := .aliases }) := rfl
  have hnext : (nextToken inner).run { r.atWord arg t with checks := .aliases } = pure (.word, _) :=
    run_nextToken_pushedBack rfl rfl fun _ => rfl
  simp only [readSimplePart]
  simp [hcheck, hnext]
  rfl

theorem run_readSimplePart_other {arg : Text} (h : ∀ c ∈ arg, IsQuotable c)
    (hlength : arg.length + 3 ≤ Parse.rounds) (others : List Text) (words : List Word)
    (hr : r.isPushedBack = false) :
    (readSimplePart inner command line false ⟨[], words, [], false⟩).run
        (r.before (behind (arg :: others))) =
      pure (.inl ⟨[], [.quoted arg] :: words, [], false⟩,
        (r.tookWord arg).took.before (behind others)) := by
  have hcheck : (Parse.check .none).run (r.before (behind (arg :: others))) =
      pure ((), { r with checks := .none }.before (behind (arg :: others))) := rfl
  have hnext : (nextToken inner).run ({ r with checks := .none }.before (behind (arg :: others))) = _ :=
    run_nextToken_word h hlength hr rfl (.inr (behind_cons arg others))
  simp only [readSimplePart, if_neg Bool.false_ne_true, StateT.run_bind, hcheck, hnext, pure_bind]
  simp
  rfl

theorem run_readSimplePart_nil (words : List Word) (hr : r.isPushedBack = false) :
    (readSimplePart inner command line false ⟨[], words, [], false⟩).run (r.before []) =
      pure (.inr (.simple line [] words.reverse []), r.atEnd) := by
  have hcheck : (Parse.check .none).run (r.before []) =
      pure ((), { r with checks := .none }.before []) := rfl
  have hnext : (nextToken inner).run ({ r with checks := .none }.before []) = _ :=
    run_nextToken_nil hr rfl
  simp [readSimplePart, Parse.pushBack, hcheck, hnext]
  rfl

variable (inner command line) in
/-- Behind the first word each argument is a word more, up to the end of the line. -/
theorem run_readSimpleParts {others : List Text} (h : ∀ arg ∈ others, ∀ c ∈ arg, IsQuotable c)
    (hlength : ∀ arg ∈ others, arg.length + 3 ≤ Parse.rounds) (n : Nat) (words : List Word)
    (hr : r.isPushedBack = false) :
    ∃ r' : Reader,
      (Parse.loop (readSimplePart inner command line false) (n + 1 + others.length)
          ⟨[], words, [], false⟩).run (r.before (behind others)) =
        pure (.simple line [] (words.reverse ++ others.map fun arg => [.quoted arg]) [], r'.atEnd) ∧
      r'.documents = r.documents ∧ r'.pending = r.pending := by
  induction others generalizing r words with
  | nil =>
    refine ⟨r, ?_, rfl, rfl⟩
    rw [List.map_nil, List.append_nil]
    exact Parse.run_loop_inr (run_readSimplePart_nil words hr) n
  | cons arg others ih =>
    obtain ⟨harg, hothers⟩ := List.forall_mem_cons.mp h
    obtain ⟨hshort, hlength⟩ := List.forall_mem_cons.mp hlength
    obtain ⟨r', hrun, hkept⟩ :=
      ih hothers hlength ([.quoted arg] :: words) (r := (r.tookWord arg).took) rfl
    refine ⟨r', ?_, hkept⟩
    rw [List.length_cons, ← Nat.add_assoc,
      Parse.run_loop_inl (run_readSimplePart_other harg hshort others words hr), hrun]
    simp

end

/-! ## From the simple command to the list of commands -/

/-- An action reads a line, whose first word was given back, to its end, as the command of the line. -/
def Parse.ReadsLine (p : Parse Command) (r : Reader) (first : Text) (others : List Text) : Prop :=
  ∃ r' : Reader,
    p.run (r.atWord first (behind others)) =
      pure (commandOf (r.line + first.count '\n') (first :: others), r'.atEnd) ∧
    r'.documents = r.documents ∧ r'.pending = r.pending

section

variable {first : Text} {others : List Text}

theorem readsLine_simple {command : Parse Command} (h : ∀ arg ∈ others, ∀ c ∈ arg, IsQuotable c)
    (hlength : ∀ arg ∈ others, arg.length + 3 ≤ Parse.rounds)
    (hcount : others.length + 2 ≤ Parse.rounds) (hplain : r.isExtended = false) :
    (readSimple inner command).ReadsLine r first others := by
  obtain ⟨n, hn⟩ := Nat.exists_eq_add_of_le hcount
  have hrounds : Parse.rounds = (n + 1 + others.length) + 1 := by omega
  have hline : (r.atWord first (behind others)).line = r.line + first.count '\n' := rfl
  have hdialect : (r.atWord first (behind others)).isExtended = false := hplain
  obtain ⟨r', hrun, hkept⟩ :=
    run_readSimpleParts inner command (r.line + first.count '\n') h hlength n [[.quoted first]]
      (r := (r.tookWord first).took) rfl
  refine ⟨r', ?_, hkept⟩
  rw [readSimple, StateT.run_bind, StateT.run_get, pure_bind, hline, hdialect, hrounds,
    Parse.run_loop_inl (run_readSimplePart_first r first _)]
  exact hrun

theorem Parse.ReadsLine.command {n : Nat}
    (h : (readSimple inner (readCommand inner n)).ReadsLine r first others) :
    (readCommand inner (n + 1)).ReadsLine r first others := by
  obtain ⟨r', hrun, hkept⟩ := h
  refine ⟨r', ?_, hkept⟩
  rw [readCommand]
  simp [hrun]

theorem Parse.ReadsLine.stages (h : (readCommand inner Reader.nesting).ReadsLine r first others) :
    (readStages inner).ReadsLine r first others := by
  obtain ⟨r', hrun, hkept⟩ := h
  refine ⟨r', ?_, hkept⟩
  rw [readStages]
  simp only [StateT.run_bind, hrun, pure_bind, Parse.rounds]
  rw [show (1000000000 : Nat) = 999999999 + 1 from rfl, Parse.loop]
  simp

theorem Parse.ReadsLine.pipeline (h : (readStages inner).ReadsLine r first others) (n : Nat) :
    (readPipeline inner (n + 1)).ReadsLine r first others := by
  obtain ⟨r', hrun, hkept⟩ := h
  refine ⟨r', ?_, hkept⟩
  rw [readPipeline]
  simp [hrun]

theorem Parse.ReadsLine.conditional
    (h : (readPipeline inner Reader.nesting).ReadsLine r first others) :
    (readConditional inner).ReadsLine r first others := by
  obtain ⟨r', hrun, hkept⟩ := h
  refine ⟨r', ?_, hkept⟩
  rw [readConditional]
  simp only [StateT.run_bind, hrun, pure_bind, Parse.rounds]
  refine Parse.run_loop_inr ?_ 999999999
  simp

theorem run_readDocuments_nil {readNext : Parse Token} (h : r.pending = []) :
    (readDocuments inner readNext).run r = pure ((), r) := by
  simp [readDocuments, h]
  rw [← h]

/-- The line is a list of one command, and the end of the text was given back behind it. -/
theorem run_readListOn_line (h : ∀ arg ∈ first :: others, ∀ c ∈ arg, IsQuotable c)
    (hlength : ∀ arg ∈ first :: others, arg.length + 3 ≤ Parse.rounds)
    (hcount : others.length + 2 ≤ Parse.rounds) (hr : r.isPushedBack = false)
    (hplain : r.isExtended = false) (hpending : r.pending = []) :
    ∃ r' : Reader,
      (readListOn inner .line).run (r.before ('"' :: inside first others)) =
        pure (some (some (commandOf (r.line + first.count '\n') (first :: others))), r') ∧
      r'.isPushedBack = true ∧ r'.token = .endOfText ∧ r'.documents = r.documents := by
  obtain ⟨hfirst, hothers⟩ := List.forall_mem_cons.mp h
  obtain ⟨hshort, hlength⟩ := List.forall_mem_cons.mp hlength
  have hsimple : (readSimple inner (readCommand inner 999)).ReadsLine r first others :=
    readsLine_simple hothers hlength hcount hplain
  obtain ⟨r', hrun, hdocuments, hkept⟩ := (hsimple.command.stages.pipeline 999).conditional
  refine ⟨{ r'.atEnd.took with isPushedBack := true, token := .endOfText }, ?_, rfl, rfl, hdocuments⟩
  have hcheck : (Parse.check .commands).run (r.before ('"' :: inside first others)) =
      pure ((), { r with checks := .commands }.before ('"' :: inside first others)) := rfl
  have hnext : (nextToken inner).run
      ({ r with checks := .commands }.before ('"' :: inside first others)) =
      pure (.word, (r.atWord first (behind others)).took) :=
    run_nextToken_word (r := { r with checks := .commands }) hfirst hshort hr rfl (.inl rfl)
  have hdocuments : (readDocuments inner (nextToken inner)).run r'.atEnd.took =
      pure ((), r'.atEnd.took) := run_readDocuments_nil (hkept.trans hpending)
  rw [readListOn]
  refine Parse.run_loop_inr ?_ 999999999
  simp [Parse.pushBackEnd, Command.ofReversed?, hcheck, hnext, hrun, hdocuments]

end

/-! ## The whole line -/

theorem length_le_inside (arg : Text) (others : List Text) :
    arg.length + 1 + (behind others).length ≤ (inside arg others).length := by
  induction arg with
  | nil => simp [Nat.add_comm]
  | cons c arg ih =>
    by_cases hquote : c = '"'
    · subst hquote
      simp only [inside_quote, List.length_cons]
      omega
    · simp only [inside_cons hquote, List.length_cons]
      omega

/-- There are rounds enough for each argument, and for all of them. -/
theorem length_le_behind (others : List Text) :
    others.length ≤ (behind others).length ∧
    ∀ arg ∈ others, arg.length + 3 ≤ (behind others).length := by
  induction others with
  | nil => exact ⟨Nat.zero_le _, nofun⟩
  | cons arg others ih =>
    have hinside := length_le_inside arg others
    simp only [behind_cons, List.length_cons, List.forall_mem_cons]
    refine ⟨by omega, by omega, fun other hother => ?_⟩
    have hbehind := ih.2 other hother
    omega

/-- **The shell reads the line for arguments as one command, which is its words.** -/
theorem readLine_ofArguments {args : List Text} (hne : args ≠ [])
    (h : ∀ arg ∈ args, ∀ c ∈ arg, IsQuotable c)
    (hlength : (ofArguments args).length < Parse.rounds) (documents : Array Word)
    (aliases : List (Text × Text)) :
    ∃ r : Reader,
      { Reader.ofText false documents (ofArguments args) with aliases := aliases }.readLine =
        .ok (some (some (commandOf (1 + (args.headD []).count '\n') args)), r) ∧
      r.isPushedBack = true ∧ r.token = .endOfText ∧ r.documents = documents := by
  cases args with
  | nil => exact absurd rfl hne
  | cons first others =>
    rw [ofArguments_cons, List.length_cons] at hlength
    have hinside := length_le_inside first others
    obtain ⟨hcount, hothers⟩ := length_le_behind others
    have hshort : ∀ arg ∈ first :: others, arg.length + 3 ≤ Parse.rounds := by
      rw [List.forall_mem_cons]
      refine ⟨by omega, fun arg harg => ?_⟩
      have hbehind := hothers arg harg
      omega
    rw [ofArguments_cons]
    exact run_readListOn_line (r := { Reader.ofText false documents [] with aliases := aliases })
      h hshort (by omega) rfl rfl rfl

end JavacLauncher.Shell
