import JavacLauncher.Text.Basic

/-!
# What trimming takes away

`trim` drops a run of white space at each end and nothing else: the text is the
trimmed text between two such runs (`exists_trim`). In the other direction, white
space may be added freely in front (`trimStart_append`) and at the end
(`trimEnd_append`), and what stands before a character that is no white space
survives the trimming of the end (`trimEnd_append_cons`). So a text with no white space
at its ends that stands between two such runs is what trimming leaves
(`IsTrimmed.trim_between`), and trimming leaves nothing else (`trim_eq_iff`).
-/

namespace JavacLauncher.Text

/-- A text of white space only. The empty text is one. -/
def AllBlank (t : Text) : Prop := ∀ c ∈ t, isBlank c = true

instance (t : Text) : Decidable (AllBlank t) := decidable_of_iff _ List.all_eq_true

/-! ## The two ends -/

theorem trimStart_append {lead : Text} (h : AllBlank lead) (t : Text) :
    trimStart (lead ++ t) = trimStart t := List.dropWhile_append_of_pos h

theorem trimStart_cons {c : Char} (h : isBlank c = false) (t : Text) :
    trimStart (c :: t) = c :: t := by
  unfold trimStart
  rw [List.dropWhile_cons, h]
  rfl

/-- Trimming the end goes no further than the last character that is no white space. -/
theorem trimEnd_append_cons {c : Char} (h : isBlank c = false) (s t : Text) :
    trimEnd (s ++ c :: t) = s ++ c :: trimEnd t := by
  have hsplit : (s ++ c :: t).reverse = t.reverse ++ c :: s.reverse := by simp
  have hstop : (c :: s.reverse).dropWhile isBlank = c :: s.reverse := by
    rw [List.dropWhile_cons, h]
    rfl
  unfold trimEnd
  rw [hsplit, List.dropWhile_append]
  split
  · rename_i hempty
    rw [hstop, List.isEmpty_iff.mp hempty]
    simp
  · simp

/-- Nothing but white space goes from the front. -/
theorem exists_trimStart (t : Text) : ∃ lead, AllBlank lead ∧ t = lead ++ t.trimStart := by
  refine ⟨t.takeWhile isBlank, ?_, ?_⟩
  · intro c hc
    exact List.all_eq_true.mp List.all_takeWhile c hc
  · exact List.takeWhile_append_dropWhile.symm

/-- Nothing but white space goes from the end. -/
theorem exists_trimEnd (t : Text) : ∃ tail, AllBlank tail ∧ t = t.trimEnd ++ tail := by
  obtain ⟨lead, hlead, hsplit⟩ := exists_trimStart t.reverse
  refine ⟨lead.reverse, ?_, ?_⟩
  · intro c hc
    exact hlead c (List.mem_reverse.mp hc)
  · unfold trimEnd
    unfold trimStart at hsplit
    rw [← List.reverse_append, ← hsplit, List.reverse_reverse]

/-- White space may be added freely at the end. -/
theorem trimEnd_append {tail : Text} (h : AllBlank tail) (t : Text) :
    trimEnd (t ++ tail) = trimEnd t := by
  have hback : AllBlank tail.reverse := fun c hc => h c (List.mem_reverse.mp hc)
  have hdrop := trimStart_append hback t.reverse
  unfold trimStart at hdrop
  unfold trimEnd
  rw [List.reverse_append, hdrop]

/-! ## Both together -/

/-- **A text is its trimmed part between two runs of white space.** -/
theorem exists_trim (t : Text) :
    ∃ lead tail, AllBlank lead ∧ AllBlank tail ∧ t = lead ++ t.trim ++ tail := by
  obtain ⟨lead, hlead, hstart⟩ := exists_trimStart t
  obtain ⟨tail, htail, hend⟩ := exists_trimEnd t.trimStart
  refine ⟨lead, tail, hlead, htail, ?_⟩
  rw [List.append_assoc]
  unfold trim
  rw [← hend, ← hstart]

/-- A text that neither begins nor ends with white space. -/
structure IsTrimmed (t : Text) : Prop where
  head : ∀ c ∈ t.head?, isBlank c = false
  last : ∀ c ∈ t.getLast?, isBlank c = false

/-- **A trimmed text between two runs of white space is what trimming leaves.** -/
theorem IsTrimmed.trim_between {lead word tail : Text} (hword : IsTrimmed word)
    (hlead : AllBlank lead) (htail : AllBlank tail) : (lead ++ word ++ tail).trim = word := by
  unfold trim
  rw [List.append_assoc, trimStart_append hlead]
  cases word with
  | nil =>
    have hnil := trimStart_append htail []
    rw [List.append_nil] at hnil
    rw [List.nil_append, hnil]
    rfl
  | cons first more =>
    have hne : first :: more ≠ [] := List.cons_ne_nil first more
    have hlast := hword.last _ (List.getLast?_eq_some_getLast hne)
    rw [List.cons_append, trimStart_cons (hword.head first rfl), ← List.cons_append,
      trimEnd_append htail, ← List.dropLast_concat_getLast hne, trimEnd_append_cons hlast]
    rfl

theorem isTrimmed_of_forall {word : Text} (h : ∀ c ∈ word, isBlank c = false) : IsTrimmed word where
  head := fun c hc => h c (List.mem_of_mem_head? hc)
  last := fun c hc => h c (List.mem_of_mem_getLast? hc)

/-- A word between two runs of white space is the trimmed text. -/
theorem trim_surrounded {lead word tail : Text} (hlead : AllBlank lead) (htail : AllBlank tail)
    (hword : ∀ c ∈ word, isBlank c = false) : (lead ++ word ++ tail).trim = word :=
  (isTrimmed_of_forall hword).trim_between hlead htail

/-- Nothing is left of a text exactly if it is white space only. -/
theorem trim_eq_nil_iff {t : Text} : t.trim = [] ↔ AllBlank t := by
  constructor
  · intro h
    obtain ⟨lead, tail, hlead, htail, hsplit⟩ := exists_trim t
    rw [h, List.append_nil] at hsplit
    intro c hc
    rw [hsplit] at hc
    exact (List.mem_append.mp hc).elim (hlead c) (htail c)
  · intro h
    have hblank : (t ++ [] ++ []).trim = [] := trim_surrounded h nofun nofun
    rwa [List.append_nil, List.append_nil] at hblank

theorem isBlank_of_mem_head?_trimStart {t : Text} {c : Char} (h : c ∈ t.trimStart.head?) :
    isBlank c = false := by
  have hnot := List.head?_dropWhile_not isBlank t
  unfold trimStart at h
  rw [Option.mem_def] at h
  rwa [h] at hnot

/-- Nothing is left to trim. -/
theorem isTrimmed_trim (t : Text) : IsTrimmed t.trim := by
  constructor
  · intro c hc
    cases hstart : t.trimStart with
    | nil =>
      unfold trim at hc
      rw [hstart] at hc
      cases hc
    | cons first more =>
      have hfirst : isBlank first = false :=
        isBlank_of_mem_head?_trimStart (t := t) (by rw [hstart]; rfl)
      have hkept : trimEnd (first :: more) = first :: trimEnd more :=
        trimEnd_append_cons hfirst [] more
      unfold trim at hc
      rw [hstart, hkept] at hc
      rwa [← Option.some.inj hc]
  · intro c hc
    unfold trim trimEnd at hc
    rw [List.getLast?_reverse] at hc
    exact isBlank_of_mem_head?_trimStart hc

/-- Trimming changes nothing exactly if there is no white space at the ends. -/
theorem trim_eq_self_iff {t : Text} : t.trim = t ↔ IsTrimmed t := by
  constructor
  · intro h
    rw [← h]
    exact isTrimmed_trim t
  · intro h
    have halone : trim ([] ++ t ++ []) = t := h.trim_between nofun nofun
    rwa [List.nil_append, List.append_nil] at halone

/-- What trimming leaves, said without trimming. -/
theorem trim_eq_iff {t word : Text} :
    t.trim = word ↔ IsTrimmed word ∧
      ∃ lead tail, AllBlank lead ∧ AllBlank tail ∧ t = lead ++ word ++ tail := by
  constructor
  · rintro rfl
    exact ⟨isTrimmed_trim t, exists_trim t⟩
  · rintro ⟨hword, lead, tail, hlead, htail, rfl⟩
    exact hword.trim_between hlead htail

theorem IsTrimmed.trimStart_eq {t : Text} (h : IsTrimmed t) : t.trimStart = t := by
  cases t with
  | nil => rfl
  | cons first more => exact trimStart_cons (h.head first rfl) more

instance (t : Text) : Decidable (IsTrimmed t) := decidable_of_iff _ trim_eq_self_iff

/-- White space in front of a word goes, and the word stays whole. -/
theorem prefix_trim {lead word : Text} (hlead : AllBlank lead) (hword : word.any isBlank = false)
    (t : Text) : word <+: (lead ++ (word ++ t)).trim := by
  have hclear : ∀ c ∈ word, isBlank c = false := by simpa using hword
  unfold trim
  rw [trimStart_append hlead]
  cases word with
  | nil => exact List.nil_prefix
  | cons first more =>
    rw [List.cons_append, trimStart_cons (hclear first List.mem_cons_self), ← List.cons_append]
    have hne : first :: more ≠ [] := List.cons_ne_nil first more
    have hlast := hclear _ (List.getLast_mem hne)
    have hsplit := List.dropLast_concat_getLast hne
    have hwhole : first :: more ++ t =
        (first :: more).dropLast ++ (first :: more).getLast hne :: t := by
      rw [List.append_cons, hsplit]
    rw [hwhole, trimEnd_append_cons hlast, List.append_cons, hsplit]
    exact List.prefix_append _ _

end JavacLauncher.Text
