/-!
# Text and bytes

Arguments, file names and variables reach the launcher as strings of bytes; what it reads as text is
Unicode. Both are lists, so every rule about them is a rule about lists.

`trim` takes white space off both ends, with Unicode's `White_Space` as the class. `lines` gives the
lines of a text as a terminal shows them: a line ends at a newline, a carriage return before that
newline belongs to the end of the line and not to the line, and no line follows the last newline.
-/

namespace JavacLauncher

/-- A string of bytes, as the operating system keeps arguments, names and file contents. -/
abbrev Bytes := List UInt8

/-- Unicode text, one element for each scalar value. -/
abbrev Text := List Char

/-- What follows `start` in `l`, if `l` starts with it. -/
def after? {α : Type} [DecidableEq α] : (start l : List α) → Option (List α)
  | [], l => some l
  | _ :: _, [] => none
  | a :: start, b :: l => if a = b then after? start l else none

theorem after?_eq_some_iff {α : Type} [DecidableEq α] {start l rest : List α} :
    after? start l = some rest ↔ l = start ++ rest := by
  induction start generalizing l with
  | nil => simp [after?]
  | cons a start ih =>
    cases l with
    | nil => simp [after?]
    | cons b l =>
      by_cases h : a = b
      · simp [after?, h, ih]
      · simp [after?, h, Ne.symm h]

/-- `l` before and after the first `sep` in it. -/
def cut? {α : Type} [DecidableEq α] (sep : α) : List α → Option (List α × List α)
  | [] => none
  | a :: l => if a = sep then some ([], l) else (cut? sep l).map fun p => (a :: p.1, p.2)

theorem cut?_eq_some_iff {α : Type} [DecidableEq α] {sep : α} {l before rest : List α} :
    cut? sep l = some (before, rest) ↔ l = before ++ sep :: rest ∧ sep ∉ before := by
  induction l generalizing before with
  | nil => simp [cut?]
  | cons a l ih =>
    by_cases h : a = sep
    · subst h
      cases before with
      | nil => simp [cut?, eq_comm]
      | cons b before =>
        simp only [cut?, if_pos, Option.some.injEq, Prod.mk.injEq, List.cons_append, List.mem_cons,
          List.cons.injEq, not_or]
        exact ⟨fun h => by simp at h, fun h => absurd h.1.1 h.2.1⟩
    · cases before with
      | nil => simp [cut?, h]
      | cons b before =>
        simp only [cut?, if_neg h, Option.map_eq_some_iff, Prod.exists, Prod.mk.injEq,
          List.cons.injEq, List.cons_append, List.mem_cons, not_or]
        constructor
        · rintro ⟨x, y, hxy, ⟨rfl, rfl⟩, rfl⟩
          exact ⟨⟨rfl, (ih.1 hxy).1⟩, Ne.symm h, (ih.1 hxy).2⟩
        · rintro ⟨⟨rfl, hl⟩, _, hb⟩
          exact ⟨before, rest, ih.2 ⟨hl, hb⟩, ⟨rfl, rfl⟩, rfl⟩

theorem cut?_eq_none_iff {α : Type} [DecidableEq α] {sep : α} {l : List α} :
    cut? sep l = none ↔ sep ∉ l := by
  induction l with
  | nil => simp [cut?]
  | cons a l ih =>
    by_cases h : a = sep
    · simp [cut?, h]
    · simp [cut?, h, ih, Ne.symm h]

/-- What follows the first occurrence of `word` in `l`. -/
def afterFirst? {α : Type} [DecidableEq α] (word : List α) : List α → Option (List α)
  | [] => after? word []
  | a :: l =>
    match after? word (a :: l) with
    | some rest => some rest
    | none => afterFirst? word l

/-- A list of entries is the first of them, and the others with the separator before each. -/
theorem intercalate_eq_append_flatMap {α : Type} (sep first : List α) (others : List (List α)) :
    sep.intercalate (first :: others) = first ++ others.flatMap (sep ++ ·) := by
  induction others generalizing first with
  | nil => rw [List.intercalate_singleton, List.flatMap_nil, List.append_nil]
  | cons next others ih =>
    rw [List.intercalate_cons_cons, ih, List.flatMap_cons, List.append_assoc, List.append_assoc]

/-- Reading every element of a list undoes writing every element. -/
theorem mapM_eq_some_iff_eq_map {α β : Type} {read : α → Option β} {write : β → α}
    (h : ∀ a b, read a = some b ↔ a = write b) {l : List α} {values : List β} :
    l.mapM read = some values ↔ l = values.map write := by
  induction l generalizing values with
  | nil => cases values <;> simp
  | cons a l ih =>
    cases values with
    | nil => simp [Option.bind_eq_some_iff]
    | cons b values =>
      simp only [List.mapM_cons, Option.bind_eq_bind, Option.pure_def, Option.bind_eq_some_iff, h, ih,
        Option.some.injEq, List.cons.injEq, List.map_cons]
      constructor
      · rintro ⟨_, ha, _, hl, rfl, rfl⟩
        exact ⟨ha, hl⟩
      · rintro ⟨ha, hl⟩
        exact ⟨b, ha, values, hl, rfl, rfl⟩

/-- Texts are equal if they are equal character by character. -/
instance : LawfulBEq Text := inferInstance

namespace Text

/-- Whether `s` stands before `t` in a dictionary: characters go by their numbers. -/
def precedes : Text → Text → Bool
  | _, [] => false
  | [], _ :: _ => true
  | a :: s, b :: t => a.toNat < b.toNat || (a = b && precedes s t)

/-- The text of an ASCII numeral. -/
def ofNat (n : Nat) : Text := Nat.toDigits 10 n

/-- White space: the characters with the Unicode property `White_Space`. -/
def isBlank (c : Char) : Bool :=
  let n := c.toNat
  (9 ≤ n && n ≤ 13) || n == 0x20 || n == 0x85 || n == 0xA0 || n == 0x1680 ||
  (0x2000 ≤ n && n ≤ 0x200A) || n == 0x2028 || n == 0x2029 || n == 0x202F || n == 0x205F ||
  n == 0x3000

theorem isBlank_of_isWhitespace {c : Char} (h : c.isWhitespace = true) : isBlank c = true := by
  simp only [Char.isWhitespace, Bool.or_eq_true, decide_eq_true_eq, or_assoc] at h
  rcases h with rfl | rfl | rfl | rfl <;> decide

/-- The text without the white space it begins with. -/
def trimStart (t : Text) : Text := t.dropWhile isBlank

/-- The text without the white space it ends with. -/
def trimEnd (t : Text) : Text := (t.reverse.dropWhile isBlank).reverse

/-- The text without the white space around it. -/
def trim (t : Text) : Text := t.trimStart.trimEnd

/-- The capital letters of ASCII in lower case, everything else as it is. -/
def lowercaseAscii (t : Text) : Text := t.map Char.toLower

/-- One line without the carriage return it may end with. -/
def dropReturn (line : Text) : Text :=
  match line.reverse with
  | '\r' :: rest => rest.reverse
  | _ => line

/--
The lines of a text, without their ends. A carriage return is part of a line's end only if a newline
follows it; text after the last newline is a line as it stands.
-/
def lines (t : Text) : List Text :=
  let pieces := t.splitOn '\n'
  pieces.dropLast.map dropReturn ++ (pieces.getLast?.toList.filter fun last => last ≠ [])

end Text

end JavacLauncher
