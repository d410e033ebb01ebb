import JavacLauncher.Launch

/-!
# What the shell makes of a line

The line for the shell is one text, and the shell cuts it into words again. `ShellWords` reads a
line as a shell does, from left to right. Blanks outside quotes end a word. Between single quotes
every character stands for itself; between double quotes a backslash takes away the meaning of a
double quote, a backslash, a dollar or a backquote behind it, and stands for itself before any
other character; a backslash and the end of a line behind it vanish. What the shell would not
keep as it stands has no words here: operators and patterns outside quotes, replacements, quotes
that stay open, and NUL, which ends every line.

The line puts each argument between double quotes. So the reader goes into double quotes, where it
takes the argument character by character (`run_quoted`), comes out with the argument as its
word, also if that is empty (`run_quote`), and ends the word at the blank (`run_others`). Only a
double quote needs the backslash that the line gives it, as long as the argument has no character
that means something between double quotes (`shell_reads_arguments`).
-/

namespace JavacLauncher

namespace ShellWords

/-- The quotes that are open. -/
inductive Quotes where
  | none
  | single
  | double
  deriving DecidableEq, Repr

/-- How far a line has been read. -/
structure Reading where
  /-- The words that have ended. -/
  words : List Text
  /-- The word that has begun. It may be empty, if it began with quotes. -/
  word? : Option Text
  quotes : Quotes
  /-- A backslash waits for the character behind it. -/
  isEscaped : Bool
  deriving DecidableEq, Repr

/-- Characters that mean something outside quotes: operators and ends of commands, what is replaced
or matched against file names, and the marks of comments, homes, assignments, jobs and groups. -/
def specials : Text := "|&;<>()\n$`*?[#~=%!{}".toList

/-- Characters that mean something between double quotes. -/
def specialsInQuotes : Text := "\"\\$`".toList

namespace Reading

/-- Before the first character. -/
def start : Reading := ⟨[], none, .none, false⟩

/-- A character that stands for itself belongs to the word, or begins one. -/
def add (r : Reading) (c : Char) : Reading := { r with word? := some (r.word?.getD [] ++ [c]) }

/-- Quotes belong to the word, or begin one. -/
def openQuotes (r : Reading) (q : Quotes) : Reading :=
  { r with word? := some (r.word?.getD []), quotes := q }

def closeQuotes (r : Reading) : Reading := { r with quotes := .none }

/-- A backslash. -/
def escape (r : Reading) : Reading := { r with isEscaped := true }

/-- The word ends, if one has begun. -/
def endWord (r : Reading) : Reading :=
  { r with words := r.words ++ r.word?.toList, word? := none }

/-- A character outside quotes. -/
def stepBare (r : Reading) (c : Char) : Option Reading :=
  if c = ' ' ∨ c = '\t' then some r.endWord
  else if c = '\'' then some (r.openQuotes .single)
  else if c = '"' then some (r.openQuotes .double)
  else if c = '\\' then some r.escape
  else if c ∈ specials then none
  else some (r.add c)

/-- A character between single quotes. -/
def stepSingle (r : Reading) (c : Char) : Reading :=
  if c = '\'' then r.closeQuotes else r.add c

/-- A character between double quotes. -/
def stepDouble (r : Reading) (c : Char) : Option Reading :=
  if c = '"' then some r.closeQuotes
  else if c = '\\' then some r.escape
  else if c ∈ specialsInQuotes then none
  else some (r.add c)

/-- The character behind a backslash. -/
def stepEscaped (r : Reading) (c : Char) : Reading :=
  let r := { r with isEscaped := false }
  if c = '\n' then r
  else if r.quotes = .double ∧ c ∉ specialsInQuotes then (r.add '\\').add c
  else r.add c

/-- One character. -/
def step (r : Reading) (c : Char) : Option Reading :=
  if c = '\x00' then none
  else if r.isEscaped then some (r.stepEscaped c)
  else
    match r.quotes with
    | .none => r.stepBare c
    | .single => some (r.stepSingle c)
    | .double => r.stepDouble c

/-- All characters of a text. -/
def run (r : Reading) (t : Text) : Option Reading := t.foldlM step r

theorem run_append (r : Reading) (s t : Text) : r.run (s ++ t) = (r.run s).bind (·.run t) :=
  List.foldlM_append

theorem run_cons {r r' : Reading} {c : Char} (h : r.step c = some r') (t : Text) :
    r.run (c :: t) = r'.run t := by
  unfold run
  rw [List.foldlM_cons, h]
  rfl

/-- The words at the end of the line, if nothing is left open. -/
def finish (r : Reading) : Option (List Text) :=
  if r.isEscaped ∨ r.quotes ≠ .none then none else some r.endWord.words

end Reading

/-- The words of a line. -/
def read? (line : Text) : Option (List Text) := (Reading.start.run line).bind Reading.finish

example : read? "ja'va' \"a\\\"b\" -cp \"\"".toList =
    some (["java", "a\"b", "-cp", ""].map String.toList) := by decide

example : read? "java \"$HOME\" | tee out".toList = none := by decide

/-! ## Arguments between double quotes -/

/-- A character for which double quotes, and a backslash before a double quote, are enough. -/
structure IsQuotable (c : Char) : Prop where
  ne_backslash : c ≠ '\\'
  ne_dollar : c ≠ '$'
  ne_backquote : c ≠ '`'
  ne_nul : c ≠ '\x00'

instance (c : Char) : Decidable (IsQuotable c) :=
  decidable_of_iff (c ≠ '\\' ∧ c ≠ '$' ∧ c ≠ '`' ∧ c ≠ '\x00')
    ⟨fun ⟨h₁, h₂, h₃, h₄⟩ => ⟨h₁, h₂, h₃, h₄⟩, fun h => ⟨h.1, h.2, h.3, h.4⟩⟩

/-- What the line has for a character of an argument puts that character into the word. -/
theorem run_quotedChar {c : Char} (h : IsQuotable c) (words : List Text) (word : Text) :
    Reading.run ⟨words, some word, .double, false⟩ (if c = '"' then ['\\', '"'] else [c]) =
      some ⟨words, some (word ++ [c]), .double, false⟩ := by
  by_cases hquote : c = '"'
  · subst hquote
    rfl
  · have hspecial : c ∉ specialsInQuotes := by
      simp [specialsInQuotes, hquote, h.ne_backslash, h.ne_dollar, h.ne_backquote]
    have hstep : Reading.step ⟨words, some word, .double, false⟩ c =
        some ⟨words, some (word ++ [c]), .double, false⟩ := by
      simp [Reading.step, Reading.stepDouble, Reading.add, hquote, hspecial, h.ne_nul,
        h.ne_backslash]
    rw [if_neg hquote, Reading.run_cons hstep]
    rfl

/-- Between double quotes the word grows by the argument. -/
theorem run_quoted {arg : Text} (h : ∀ c ∈ arg, IsQuotable c) (words : List Text) (word : Text) :
    Reading.run ⟨words, some word, .double, false⟩
        (arg.flatMap fun c => if c = '"' then ['\\', '"'] else [c]) =
      some ⟨words, some (word ++ arg), .double, false⟩ := by
  induction arg generalizing word with
  | nil =>
    rw [List.append_nil]
    rfl
  | cons c arg ih =>
    obtain ⟨hc, harg⟩ := List.forall_mem_cons.mp h
    rw [List.flatMap_cons, Reading.run_append, run_quotedChar hc, Option.bind_some, ih harg,
      List.append_assoc, List.singleton_append]

/-- A quoted argument is read as a word of its own, and no quotes stay open. -/
theorem run_quote {arg : Text} (h : ∀ c ∈ arg, IsQuotable c) (words : List Text) :
    Reading.run ⟨words, none, .none, false⟩ (CommandLine.quote arg) =
      some ⟨words, some arg, .none, false⟩ := by
  have hopen : Reading.step ⟨words, none, .none, false⟩ '"' =
      some ⟨words, some [], .double, false⟩ := rfl
  have hclose : Reading.step ⟨words, some arg, .double, false⟩ '"' =
      some ⟨words, some arg, .none, false⟩ := rfl
  unfold CommandLine.quote
  rw [List.cons_append, Reading.run_cons hopen, Reading.run_append, run_quoted h, Option.bind_some,
    List.nil_append, Reading.run_cons hclose]
  rfl

/-- Behind a word, each argument with a blank before it is a word more. -/
theorem run_others {others : List Text} (h : ∀ arg ∈ others, ∀ c ∈ arg, IsQuotable c)
    (words : List Text) (word : Text) :
    (Reading.run ⟨words, some word, .none, false⟩
        (others.flatMap fun arg => [' '] ++ CommandLine.quote arg)).bind Reading.finish =
      some (words ++ word :: others) := by
  induction others generalizing words word with
  | nil => rfl
  | cons next others ih =>
    obtain ⟨hnext, hothers⟩ := List.forall_mem_cons.mp h
    have hblank : Reading.step ⟨words, some word, .none, false⟩ ' ' =
        some ⟨words ++ [word], none, .none, false⟩ := rfl
    rw [List.flatMap_cons, List.append_assoc, List.singleton_append, Reading.run_cons hblank,
      Reading.run_append, run_quote hnext, Option.bind_some, ih hothers, List.append_assoc,
      List.singleton_append]

/-- The words of a line for arguments are the arguments. -/
theorem read?_ofArguments {args : List Text} (h : ∀ arg ∈ args, ∀ c ∈ arg, IsQuotable c) :
    read? (CommandLine.ofArguments args) = some args := by
  unfold read? CommandLine.ofArguments
  cases args with
  | nil => rfl
  | cons first others =>
    obtain ⟨hfirst, hothers⟩ := List.forall_mem_cons.mp h
    rw [List.map_cons, intercalate_eq_append_flatMap, List.flatMap_map, Reading.run_append,
      Reading.start, run_quote hfirst, Option.bind_some, run_others hothers, List.nil_append]

/-- **The shell gets the arguments that a direct start passes.** -/
theorem shell_reads_arguments {args : List Text} (h : ∀ arg ∈ args, ∀ c ∈ arg, IsQuotable c) :
    read? (CommandLine.ofArguments args) = some args ∧
    Launch.started .shell (args.map Utf8.encode) =
      [Bytes.ofString "sh", Bytes.ofString "-c", Utf8.encode (CommandLine.ofArguments args)] ∧
    (read? (CommandLine.ofArguments args)).map (·.map Utf8.encode) =
      some (Launch.started .spawn (args.map Utf8.encode)) := by
  have hread := read?_ofArguments h
  have htext : (args.map Utf8.encode).map Utf8.decodeLossy = args := by
    rw [List.map_map]
    exact List.map_id'' Utf8.decodeLossy_encode args
  refine ⟨hread, ?_, ?_⟩
  · unfold Launch.started
    rw [htext]
  · rw [hread]
    rfl

/-- Empty arguments, lone quotes, blanks at the ends, ends of lines and operators. -/
theorem shell_reads_arguments_operators :
    let args := ["java", "say \"hi\" to a b", "", "\"", " '\n", "a;b|c&d*e>f"].map String.toList
    (∀ arg ∈ args, ∀ c ∈ arg, IsQuotable c) ∧
    read? (CommandLine.ofArguments args) = some args := by
  intro args
  have hall : (args.all fun arg => arg.all fun c => decide (IsQuotable c)) = true := by decide
  have h : ∀ arg ∈ args, ∀ c ∈ arg, IsQuotable c := by
    simpa only [List.all_eq_true, decide_eq_true_eq] using hall
  exact ⟨h, (shell_reads_arguments h).1⟩

end ShellWords

end JavacLauncher
