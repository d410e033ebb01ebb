import JavacLauncher.Proofs.Invocation.Line
import JavacLauncher.Proofs.Invocation.ShellWords
import JavacLauncher.Shell.Parser

/-!
# Arguments as words of the shell

The machine's shell reads a line character by character, by the rules of the level it stands on. The
line for a list of arguments never opens more than one level: a double quote changes the rules, each
character of the argument becomes one symbol (`run_scanChar_quoted`), a quote of the argument's own
comes with the backslash that the line gives it (`run_scanChar_escaped`), and the closing quote
brings the rules back. What the symbols make is one word with one quoted part, which is the argument
(`ofSymbols_quoted`), also if there is nothing between the quotes.

Reading goes on by rounds, of which there are only so many. A round is taken for each character, so
an argument must be shorter than the rounds allow (`run_scan`).
-/

namespace JavacLauncher.Shell

open JavacLauncher.CommandLine JavacLauncher.ShellWords

/-! ## Taking characters -/

namespace Reader

/-- The reader in front of a text, with no alias being read. -/
def before (r : Reader) (t : Text) : Reader := { r with sources := [⟨t, none, false⟩], spent := [] }

/-- The reader so many lines further down. -/
def down (r : Reader) (lines : Nat) : Reader := { r with line := r.line + lines }

@[simp] theorem before_isPushedBack (r : Reader) (t : Text) :
    (r.before t).isPushedBack = r.isPushedBack := rfl

@[simp] theorem before_isExtended (r : Reader) (t : Text) :
    (r.before t).isExtended = r.isExtended := rfl

@[simp] theorem before_checks (r : Reader) (t : Text) : (r.before t).checks = r.checks := rfl

theorem down_zero (r : Reader) : r.down 0 = r := rfl

theorem down_down (r : Reader) (m n : Nat) : (r.down m).down n = r.down (m + n) := by
  simp [down, Nat.add_assoc]

end Reader

namespace Parse

variable {α β : Type} {r r' : Reader} {t : Text}

@[simp] theorem run_take (r : Reader) (t : Text) :
    take.run (r.before t) = pure (t.head?, r.before t.tail) := by
  cases t <;> rfl

@[simp] theorem run_giveBack_none (r : Reader) : (giveBack none).run r = pure ((), r) := rfl

@[simp] theorem run_giveBack_some (r : Reader) (c : Char) (t : Text) :
    (giveBack (some c)).run (r.before t) = pure ((), r.before (c :: t)) := rfl

@[simp] theorem run_giveBack_head? (r : Reader) (t : Text) :
    (giveBack t.head?).run (r.before t.tail) = pure ((), r.before t) := by
  cases t <;> rfl

@[simp] theorem run_endLine (r : Reader) (t : Text) :
    endLine.run (r.before t) = pure ((), (r.down 1).before t) := rfl

/-- A round that goes on. -/
theorem run_loop_inl {step : α → Parse (α ⊕ β)} {a a' : α}
    (h : (step a).run r = pure (.inl a', r')) (n : Nat) :
    (loop step (n + 1) a).run r = (loop step n a').run r' := by
  simp [loop, h]

/-- The last round. -/
theorem run_loop_inr {step : α → Parse (α ⊕ β)} {a : α} {b : β}
    (h : (step a).run r = pure (.inr b, r')) (n : Nat) :
    (loop step (n + 1) a).run r = pure (b, r') := by
  simp [loop, h]

/-- A text that begins with no backslash that joins two lines. -/
def IsPlain (t : Text) : Prop := ¬ ['\\', '\n'] <+: t

theorem isPlain_nil : IsPlain [] := by simp [IsPlain]

theorem isPlain_cons {c : Char} (h : c ≠ '\\') (t : Text) : IsPlain (c :: t) := by
  simp [IsPlain, h.symm]

theorem run_takeJoined (h : IsPlain t) :
    takeJoined.run (r.before t) = pure (t.head?, r.before t.tail) := by
  rw [takeJoined, rounds]
  refine run_loop_inr ?_ 999999999
  cases t with
  | nil => simp
  | cons c t =>
    by_cases hc : c = '\\'
    · subst hc
      cases t with
      | nil => simp
      | cons d t =>
        have hd : d ≠ '\n' := by
          rintro rfl
          exact h ⟨t, rfl⟩
        simp [hd]
    · simp [hc]

end Parse

theorem isPlain_inside {arg : Text} (h : ∀ c ∈ arg, IsQuotable c) (others : List Text) :
    Parse.IsPlain (inside arg others) := by
  cases arg with
  | nil => exact Parse.isPlain_cons (by decide) _
  | cons c arg =>
    by_cases hquote : c = '"'
    · subst hquote
      simp [Parse.IsPlain]
    · rw [inside_cons hquote]
      exact Parse.isPlain_cons (h c (List.mem_cons_self ..)).ne_backslash _

theorem isPlain_behind (others : List Text) : Parse.IsPlain (behind others) := by
  cases others with
  | nil => exact Parse.isPlain_nil
  | cons arg others =>
    rw [behind_cons]
    exact Parse.isPlain_cons (by decide) _

/-! ## Between quotes -/

namespace Level

/-- Outside quotes. -/
def bare : Level := .ofContext .base false false

/-- Between double quotes. -/
def quoted : Level := .ofContext .double true false

end Level

/-- What a character between double quotes is read as. Those that could mean something in a pattern
stand for themselves. -/
def symbolOf (c : Char) : Symbol :=
  if c = '"' ∨ c ∈ Context.controls then .escaped c else .char c

theorem classOf_double {c : Char} (h : IsQuotable c) (hquote : c ≠ '"') :
    (c = '\n' ∧ Context.classOf .double (some c) = .newline) ∨
    (c = '}' ∧ Context.classOf .double (some c) = .endBrace) ∨
    (c ∈ Context.controls ∧ Context.classOf .double (some c) = .control) ∨
    (c ≠ '\n' ∧ c ∉ Context.controls ∧ Context.classOf .double (some c) = .word) := by
  obtain ⟨hbackslash, hdollar, hbackquote, -⟩ := h
  unfold Context.classOf
  split <;> simp_all
  exact Classical.em _

section

variable {list : Bool → Parse (Option Command)} {whole : Text → Parse Word} {t : Text}

theorem run_scanChar_open (ht : Parse.IsPlain t) (r : Reader) :
    (scanChar list whole .word ⟨.bare, [], [], false, some '"', false⟩).run (r.before t) =
      pure (.inl ⟨.quoted, [], [.mark], false, t.head?, false⟩, r.before t.tail) := by
  simp [scanChar, Context.classOf, Level.bare, Level.quoted, Level.ofContext, Scan.toggleInner,
    Scan.mark, Scan.emit, Parse.run_takeJoined ht]

theorem run_scanChar_close (ht : Parse.IsPlain t) (r : Reader) (symbols : List Symbol) (q b : Bool) :
    (scanChar list whole .word ⟨.quoted, [], symbols, q, some '"', b⟩).run (r.before t) =
      pure (.inl ⟨.bare, [], .mark :: symbols, true, t.head?, b⟩, r.before t.tail) := by
  cases b <;> simp [scanChar, Context.classOf, Level.bare, Level.quoted, Level.ofContext, endQuote,
    Scan.toggleInner, Scan.mark, Scan.emit, Parse.run_takeJoined ht]

/-- A backslash takes away the meaning of the quote behind it. -/
theorem run_scanChar_escaped (ht : Parse.IsPlain t) (r : Reader) (symbols : List Symbol)
    (q b : Bool) :
    (scanChar list whole .word ⟨.quoted, [], symbols, q, some '\\', b⟩).run (r.before ('"' :: t)) =
      pure (.inl ⟨.quoted, [], .escaped '"' :: symbols, true, t.head?, b⟩, r.before t.tail) := by
  cases b <;> simp [scanChar, Context.classOf, readBackslash, Level.quoted, Level.ofContext,
    Scan.emit, Parse.run_takeJoined ht]

theorem run_scanChar_quoted {c : Char} (h : IsQuotable c) (hquote : c ≠ '"')
    (ht : Parse.IsPlain t) (r : Reader) (symbols : List Symbol) (q b : Bool) :
    (scanChar list whole .word ⟨.quoted, [], symbols, q, some c, b⟩).run (r.before t) =
      pure (.inl ⟨.quoted, [], symbolOf c :: symbols, q, t.head?, b || c = '\n'⟩,
        (r.down ([c].count '\n')).before t.tail) := by
  have hjoined := Parse.run_takeJoined (r := r) ht
  rcases classOf_double h hquote with
    ⟨rfl, hclass⟩ | ⟨rfl, hclass⟩ | ⟨hcontrol, hclass⟩ | ⟨hline, hcontrol, hclass⟩
  · cases b <;> simp [scanChar, Level.quoted, Level.ofContext, Scan.emit, hclass] <;> rfl
  · cases b <;> simp [scanChar, endBrace, Level.quoted, Level.ofContext, Scan.emit, Reader.down_zero,
      hclass, hjoined] <;> rfl
  · have hline : c ≠ '\n' := by
      rintro rfl
      exact absurd hcontrol (by decide)
    cases b <;> simp [scanChar, symbolOf, Level.quoted, Level.ofContext, Scan.emit, Reader.down_zero,
      hclass, hjoined, hcontrol, hline]
  · cases b <;> simp [scanChar, symbolOf, Level.quoted, Level.ofContext, Scan.emit, Reader.down_zero,
      hclass, hjoined, hcontrol, hline, hquote]

/-- A word ends before the blank that the next argument comes with, and at the end of the line. -/
theorem run_scanChar_end (others : List Text) (r : Reader) (symbols : List Symbol) (b : Bool) :
    (scanChar list whole .word ⟨.bare, [], symbols, true, (behind others).head?, b⟩).run r =
      pure (.inr ⟨.bare, [], symbols, true, (behind others).head?, b⟩, r) := by
  cases others with
  | nil => cases b <;> simp [scanChar, Context.classOf]
  | cons arg others =>
    cases b <;> simp [scanChar, Context.classOf, readSpecial, Level.bare, Level.ofContext]

/-- What is left of an argument becomes symbols, one a round; the round at the closing quote is
the next one. -/
theorem run_scan_inside {arg : Text} (h : ∀ c ∈ arg, IsQuotable c) (others : List Text) (n : Nat)
    (r : Reader) (symbols : List Symbol) (q b : Bool) :
    (Parse.loop (scanChar list whole .word) (n + arg.length)
        ⟨.quoted, [], symbols, q, (inside arg others).head?, b⟩).run
        (r.before (inside arg others).tail) =
      (Parse.loop (scanChar list whole .word) n
        ⟨.quoted, [], (arg.map symbolOf).reverse ++ symbols, q || arg.any (· = '"'), some '"',
          b || arg.any (· = '\n')⟩).run
        ((r.down (arg.count '\n')).before (behind others)) := by
  induction arg generalizing r symbols q b with
  | nil => simp [Reader.down_zero]
  | cons c arg ih =>
    obtain ⟨hc, harg⟩ := List.forall_mem_cons.mp h
    have hplain := isPlain_inside harg others
    rw [List.length_cons, ← Nat.add_assoc]
    by_cases hquote : c = '"'
    · subst hquote
      rw [inside_quote]
      refine (Parse.run_loop_inl (run_scanChar_escaped hplain r symbols q b) _).trans ?_
      rw [ih harg]
      simp [symbolOf]
    · rw [inside_cons hquote]
      refine (Parse.run_loop_inl (run_scanChar_quoted hc hquote hplain r symbols q b) _).trans ?_
      rw [ih harg, Reader.down_down, ← List.count_append]
      simp [hquote, Bool.or_assoc]

/-- A quoted argument is read up to what stands behind it. -/
theorem run_scan {arg : Text} (h : ∀ c ∈ arg, IsQuotable c)
    (hlength : arg.length + 3 ≤ Parse.rounds) (others : List Text) (r : Reader) :
    (scan list whole .word (some '"')).run (r.before (inside arg others)) =
      pure (⟨.bare, [], .mark :: (arg.map symbolOf).reverse ++ [.mark], true,
          (behind others).head?, arg.any (· = '\n')⟩,
        (r.down (arg.count '\n')).before (behind others).tail) := by
  obtain ⟨n, hn⟩ := Nat.exists_eq_add_of_le hlength
  have hrounds : Parse.rounds = ((n + 1 + 1) + arg.length) + 1 := by omega
  have hloop : (Parse.loop (scanChar list whole .word) Parse.rounds (Scan.start .word (some '"'))).run
      (r.before (inside arg others)) =
      pure (⟨.bare, [], .mark :: (arg.map symbolOf).reverse ++ [.mark], true,
          (behind others).head?, arg.any (· = '\n')⟩,
        (r.down (arg.count '\n')).before (behind others).tail) := by
    rw [hrounds]
    refine (Parse.run_loop_inl (run_scanChar_open (isPlain_inside h others) r) _).trans ?_
    rw [run_scan_inside h]
    refine (Parse.run_loop_inl (run_scanChar_close (isPlain_behind others) _ _ _ _) _).trans ?_
    refine (Parse.run_loop_inr (run_scanChar_end others _ _ _) _).trans ?_
    simp
  rw [scan, StateT.run_bind, hloop]
  simp [Level.bare, Level.ofContext]
  nofun

end

/-! ## What the symbols make -/

/-- Between quotes a symbol adds its character to the quoted part. -/
theorem build_symbolOf (c : Char) (symbols : List Symbol) (t : Text) :
    Word.build (symbolOf c :: symbols) ⟨.word, false, true, [.quoted t]⟩ [] =
      Word.build symbols ⟨.word, false, true, [.quoted (c :: t)]⟩ [] := by
  unfold symbolOf
  split <;> rfl

theorem build_map_symbolOf (arg : Text) (symbols : List Symbol) (t : Text) :
    Word.build (arg.map symbolOf ++ symbols) ⟨.word, false, true, [.quoted t]⟩ [] =
      Word.build symbols ⟨.word, false, true, [.quoted (arg.reverse ++ t)]⟩ [] := by
  induction arg generalizing t with
  | nil => rfl
  | cons c arg ih =>
    rw [List.map_cons, List.cons_append, build_symbolOf, ih, List.reverse_cons, List.append_assoc,
      List.singleton_append]

/-- The opening quote leaves a quoted part with nothing in it. -/
theorem build_mark (arg : Text) (symbols : List Symbol) :
    Word.build (.mark :: (arg.map symbolOf ++ .mark :: symbols)) (.ofOpener .word false) [] =
      Word.build (arg.map symbolOf ++ .mark :: symbols) ⟨.word, false, true, [.quoted []]⟩ [] := by
  cases arg with
  | nil => rfl
  | cons c arg =>
    rw [List.map_cons, List.cons_append]
    unfold symbolOf
    split <;> rfl

/-- The word of a quoted argument is the argument, quoted. -/
theorem ofSymbols_quoted (arg : Text) :
    Word.ofSymbols (.mark :: (arg.map symbolOf ++ [.mark])) = [.quoted arg] := by
  rw [Word.ofSymbols, build_mark, build_map_symbolOf, List.append_nil]
  show [Part.quoted arg.reverse.reverse] = [Part.quoted arg]
  rw [List.reverse_reverse]

end JavacLauncher.Shell
