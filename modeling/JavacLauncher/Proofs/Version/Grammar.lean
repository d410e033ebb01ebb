import JavacLauncher.Version
import Mathlib.Data.List.Induction

/-!
# The old form of versions

A version is read by cutting the text where its digits end and computing what they denote. What the old
form is, is said here the other way round, by how such a text is written: `Numeral` puts one digit
behind the other, and `OldForm` puts two numerals, two dots and the rest of the line together. Each
direction of the agreement needs one fact about cutting. A digit is no dot, so the second dot is the
first character behind the digits, and no other way to take the text apart leads to the form
(`ofText?_eq_some_iff`).

A numeral may be as long as it likes, with zeros in front. Only its number has to fit
(`parse_reads_oldForm`). Digits of other scripts write no numeral. A version whose major number has one
digit is shown in the old form, so it can be read back; with a second digit there is no dot where the
form has its first one.
-/

namespace JavacLauncher

/-! ## Numerals -/

/-- Digits of ASCII and the number that they denote: what is there counts ten times as much when a
digit is put behind it. -/
inductive Numeral : Text → Nat → Prop where
  | digit (d : Fin 10) : Numeral [Nat.digitChar d] d
  | append {t : Text} {n : Nat} (h : Numeral t n) (d : Fin 10) :
      Numeral (t ++ [Nat.digitChar d]) (10 * n + d)

namespace Numeral

theorem exists_digitChar {c : Char} (h : c.isDigit = true) : ∃ d : Fin 10, Nat.digitChar d = c := by
  have hbounds : 48 ≤ c.toNat ∧ c.toNat ≤ 57 := Char.isDigit_iff_toNat.mp h
  have hlt : c.toNat - 48 < 10 := by omega
  refine ⟨⟨c.toNat - 48, hlt⟩, ?_⟩
  apply Char.toNat_inj.mp
  rw [Nat.toNat_digitChar_of_lt_ten hlt]
  omega

theorem ofDigitChars_concat (t : Text) (d : Fin 10) :
    Nat.ofDigitChars 10 (t ++ [Nat.digitChar d]) 0 = 10 * Nat.ofDigitChars 10 t 0 + d := by
  rw [Nat.ofDigitChars_append, Nat.ofDigitChars_cons, Nat.ofDigitChars_nil]
  exact congrArg _ (Nat.toNat_digitChar_sub_48_of_lt_ten d.isLt)

theorem isDigit_digitChar (d : Fin 10) : (Nat.digitChar d).isDigit = true := by
  rw [Nat.isDigit_digitChar, decide_eq_true_iff]
  exact d.isLt

/-- **Any digits make a numeral**, and one number is denoted by them. -/
theorem iff_ofDigitChars {t : Text} {n : Nat} :
    Numeral t n ↔ t ≠ [] ∧ (∀ c ∈ t, c.isDigit = true) ∧ Nat.ofDigitChars 10 t 0 = n := by
  constructor
  · intro h
    induction h with
    | digit d =>
      refine ⟨List.cons_ne_nil _ _, ?_, ?_⟩
      · intro c hc
        rw [List.mem_singleton.mp hc]
        exact isDigit_digitChar d
      · exact (ofDigitChars_concat [] d).trans (Nat.zero_add _)
    | @append t n _ d ih =>
      obtain ⟨_, hdigits, hvalue⟩ := ih
      refine ⟨List.concat_ne_nil _ _, ?_, ?_⟩
      · intro c hc
        rcases List.mem_append.mp hc with hc | hc
        · exact hdigits c hc
        · rw [List.mem_singleton.mp hc]
          exact isDigit_digitChar d
      · rw [ofDigitChars_concat, hvalue]
  · rintro ⟨hne, hdigits, rfl⟩
    -- from the end, where the next digit is put
    induction t using List.reverseRecOn with
    | nil => exact absurd rfl hne
    | append_singleton t c ih =>
      obtain ⟨d, rfl⟩ := exists_digitChar (hdigits c List.mem_concat_self)
      rw [ofDigitChars_concat]
      cases t with
      | nil =>
        rw [Nat.ofDigitChars_nil, Nat.mul_zero, Nat.zero_add]
        exact .digit d
      | cons first more =>
        have hfront := ih (List.cons_ne_nil _ _) fun c hc => hdigits c (List.mem_append_left _ hc)
        exact hfront.append d

theorem isDigit_of_mem {t : Text} {n : Nat} (h : Numeral t n) {c : Char} (hc : c ∈ t) :
    c.isDigit = true := (iff_ofDigitChars.mp h).2.1 c hc

theorem dot_notMem {t : Text} {n : Nat} (h : Numeral t n) : '.' ∉ t := by
  intro hdot
  exact absurd (h.isDigit_of_mem hdot) (by decide)

/-- How a number is shown is a numeral for it. -/
theorem ofNat (n : Nat) : Numeral (Text.ofNat n) n :=
  iff_ofDigitChars.mpr ⟨Nat.toDigits_ne_nil,
    fun _ hc => Nat.isDigit_of_mem_toDigits (by decide) (by decide) hc, Nat.ofDigitChars_ten_toDigits⟩

theorem le_nine {d : Char} {n : Nat} (h : Numeral [d] n) : n ≤ 9 := by
  obtain ⟨_, hdigits, rfl⟩ := iff_ofDigitChars.mp h
  obtain ⟨digit, rfl⟩ := exists_digitChar (hdigits d List.mem_cons_self)
  have hvalue := ofDigitChars_concat [] digit
  rw [List.nil_append, Nat.ofDigitChars_nil] at hvalue
  omega

end Numeral

namespace Version

/-! ## The form -/

/-- A version in the old form: a digit, a dot, digits, a dot, and anything that stays on the line. -/
inductive OldForm : Text → Nat → Nat → Prop where
  | intro {d : Char} {ds rest : Text} {major minor : Nat} (hmajor : Numeral [d] major)
      (hminor : Numeral ds minor) (hrest : '\n' ∉ rest) :
      OldForm (d :: '.' :: (ds ++ '.' :: rest)) major minor

/-- The highest number that a part of a version can be: the highest one with 32 bits. -/
def maxNumber : Nat := 4294967295

theorem le_maxNumber (n : UInt32) : n.toNat ≤ maxNumber := Nat.le_of_lt_succ n.toNat_lt

/-- Digits are read as the number that they denote, if it fits. -/
theorem number?_eq_some_iff {digits : Text} (h : ∀ c ∈ digits, c.isDigit = true) {n : UInt32} :
    number? digits = some n ↔ Numeral digits n.toNat := by
  rw [Numeral.iff_ofDigitChars]
  unfold number?
  dsimp only
  constructor
  · intro hnumber
    obtain ⟨⟨hne, hfits⟩, hn⟩ := Option.ite_none_right_eq_some.mp hnumber
    obtain rfl := Option.some.inj hn
    exact ⟨hne, h, (Nat.mod_eq_of_lt hfits).symm⟩
  · rintro ⟨hne, _, hvalue⟩
    rw [hvalue, if_pos ⟨hne, n.toNat_lt⟩, UInt32.ofNat_toNat]

/-- Digits end where the dot behind them stands. -/
theorem takeWhile_isDigit {ds : Text} (h : ∀ c ∈ ds, c.isDigit = true) (rest : Text) :
    (ds ++ '.' :: rest).takeWhile Char.isDigit = ds ∧
      (ds ++ '.' :: rest).dropWhile Char.isDigit = '.' :: rest := by
  have hdot : Char.isDigit '.' = false := by decide
  rw [List.takeWhile_append_of_pos h, List.dropWhile_append_of_pos h, List.takeWhile_cons,
    List.dropWhile_cons, hdot]
  exact ⟨List.append_nil ds, rfl⟩

/-- **A text names a version exactly if it is written in the old form.** -/
theorem ofText?_eq_some_iff {t : Text} {v : Version} :
    ofText? t = some v ↔ OldForm t v.major.toNat v.minor.toNat := by
  constructor
  · intro h
    unfold ofText? at h
    split at h
    · rename_i d t
      split at h
      · rename_i rest hrest
        split at h
        · rename_i hform
          obtain ⟨major, hmajor, h⟩ := Option.bind_eq_some_iff.mp h
          obtain ⟨minor, hminor, h⟩ := Option.bind_eq_some_iff.mp h
          obtain rfl := Option.some.inj h
          have hd : ∀ c ∈ [d], c.isDigit = true := List.forall_mem_singleton.mpr hform.1
          have hds : ∀ c ∈ t.takeWhile Char.isDigit, c.isDigit = true :=
            fun c hc => List.all_eq_true.mp List.all_takeWhile c hc
          rw [← List.takeWhile_append_dropWhile (p := Char.isDigit) (l := t), hrest]
          exact .intro ((number?_eq_some_iff hd).mp hmajor) ((number?_eq_some_iff hds).mp hminor)
            hform.2
        · cases h
      · cases h
    · cases h
  · generalize hfirst : v.major.toNat = major
    generalize hsecond : v.minor.toNat = minor
    rintro ⟨hmajor, hminor, hrest⟩
    subst hfirst hsecond
    rename_i d ds rest
    obtain ⟨htake, hdrop⟩ := takeWhile_isDigit (fun c hc => hminor.isDigit_of_mem hc) rest
    have hform : d.isDigit = true ∧ '\n' ∉ rest :=
      ⟨hmajor.isDigit_of_mem List.mem_cons_self, hrest⟩
    have hd := (number?_eq_some_iff fun c hc => hmajor.isDigit_of_mem hc).mpr hmajor
    have hds := (number?_eq_some_iff fun c hc => hminor.isDigit_of_mem hc).mpr hminor
    unfold ofText?
    simp only [hdrop, htake, if_pos hform, hd, hds]
    rfl

/-! ## Reading and refusing -/

theorem parse_eq_ok_iff {t : Text} {v : Version} :
    parse t = .ok v ↔ OldForm t v.major.toNat v.minor.toNat := by
  rw [← ofText?_eq_some_iff]
  unfold parse
  cases ofText? t <;> simp

/-- The form decides whether a text is read, and the size of the second number. -/
theorem exists_parse_eq_ok_iff {t : Text} :
    (∃ v, parse t = .ok v) ↔ ∃ major minor, OldForm t major minor ∧ minor ≤ maxNumber := by
  constructor
  · rintro ⟨v, hv⟩
    exact ⟨_, _, parse_eq_ok_iff.mp hv, le_maxNumber v.minor⟩
  · rintro ⟨major, minor, hform, hfits⟩
    have hmajor : major < UInt32.size := by
      obtain ⟨hdigit, _, _⟩ := hform
      exact Nat.lt_of_le_of_lt hdigit.le_nine (by decide)
    have hminor : minor < UInt32.size := Nat.lt_succ_of_le hfits
    refine ⟨⟨UInt32.ofNat major, UInt32.ofNat minor⟩, parse_eq_ok_iff.mpr ?_⟩
    rwa [UInt32.toNat_ofNat_of_lt' hmajor, UInt32.toNat_ofNat_of_lt' hminor]

/-- What is not read is reported as it stands. -/
theorem parse_eq_error_iff {t : Text} {e : LaunchError} :
    parse t = .error e ↔ (¬∃ v, parse t = .ok v) ∧ e = .unreadableVersion t := by
  unfold parse
  cases ofText? t <;> simp [eq_comm]

/-- Two dots divide a text in one way only. -/
theorem OldForm.isDigit_of_mem {d : Char} {ds rest : Text} {major minor : Nat} (hdot : '.' ∉ ds)
    (h : OldForm (d :: '.' :: (ds ++ '.' :: rest)) major minor) :
    ∀ c ∈ d :: ds, c.isDigit = true := by
  generalize ht : d :: '.' :: (ds ++ '.' :: rest) = t at h
  cases h with
  | @intro d' ds' rest' _ _ hmajor hminor _ =>
    simp only [List.cons.injEq, true_and] at ht
    obtain ⟨rfl, hrest⟩ := ht
    have hcut : cut? '.' (ds ++ '.' :: rest) = some (ds, rest) := cut?_eq_some_iff.mpr ⟨rfl, hdot⟩
    have hcut' : cut? '.' (ds ++ '.' :: rest) = some (ds', rest') :=
      cut?_eq_some_iff.mpr ⟨hrest, hminor.dot_notMem⟩
    obtain ⟨rfl, _⟩ := Prod.mk.inj (Option.some.inj (hcut.symm.trans hcut'))
    intro c hc
    rcases List.mem_cons.mp hc with rfl | hc
    · exact hmajor.isDigit_of_mem List.mem_cons_self
    · exact hminor.isDigit_of_mem hc

/-! ## Versions as they are shown -/

theorem oldForm_display {v : Version} (h : v.major.toNat ≤ 9) {rest : Text} (hrest : '\n' ∉ rest) :
    OldForm (v.display ++ '.' :: rest) v.major.toNat v.minor.toNat := by
  have hmajor : Text.ofNat v.major.toNat = [Nat.digitChar v.major.toNat] :=
    Nat.toDigits_of_lt_base (Nat.lt_succ_of_le h)
  have hnumeral := Numeral.ofNat v.major.toNat
  rw [hmajor] at hnumeral
  unfold display
  rw [hmajor, List.append_assoc]
  exact .intro hnumeral (Numeral.ofNat _) hrest

/-- Where the form has its first dot, a number from ten on has its second digit. -/
theorem not_oldForm_display {v : Version} (h : 10 ≤ v.major.toNat) (rest : Text) (major minor : Nat) :
    ¬OldForm (v.display ++ '.' :: rest) major minor := by
  have hlong : ¬(Text.ofNat v.major.toNat).length ≤ 1 := by
    unfold Text.ofNat
    rw [Nat.length_toDigits_le_iff (by decide) (by decide)]
    omega
  have hnumeral := Numeral.ofNat v.major.toNat
  unfold display
  match hdigits : Text.ofNat v.major.toNat with
  | [] => simp [hdigits] at hlong
  | [_] => simp [hdigits] at hlong
  | first :: second :: more =>
    intro hform
    rw [hdigits] at hnumeral
    generalize ht : first :: second :: more ++ '.' :: Text.ofNat v.minor.toNat ++ '.' :: rest = t
      at hform
    obtain ⟨_, _, _⟩ := hform
    simp only [List.cons_append, List.cons.injEq] at ht
    obtain ⟨_, rfl, _⟩ := ht
    exact hnumeral.dot_notMem (List.mem_cons_of_mem _ List.mem_cons_self)

/-- **A text is read as a version exactly if it is in the old form and its second number fits.** Any
other text is reported unchanged, also if it has digits of another script between its dots. A version
that is shown can be read again if its first number has one digit. -/
theorem parse_reads_oldForm (t : Text) :
    (∀ v, parse t = .ok v ↔ OldForm t v.major.toNat v.minor.toNat) ∧
    ((∃ v, parse t = .ok v) ↔ ∃ major minor, OldForm t major minor ∧ minor ≤ maxNumber) ∧
    ((¬∃ v, parse t = .ok v) ↔ parse t = .error (.unreadableVersion t)) ∧
    (∀ d ds rest, t = d :: '.' :: (ds ++ '.' :: rest) → '.' ∉ ds →
      (∃ c ∈ d :: ds, c.isDigit = false) → parse t = .error (.unreadableVersion t)) ∧
    (∀ (v : Version) (rest : Text), v.major.toNat ≤ 9 → '\n' ∉ rest →
      parse (v.display ++ '.' :: rest) = .ok v) ∧
    ∀ (v : Version) (rest : Text), 10 ≤ v.major.toNat →
      parse (v.display ++ '.' :: rest) = .error (.unreadableVersion (v.display ++ '.' :: rest)) := by
  refine ⟨fun v => parse_eq_ok_iff, exists_parse_eq_ok_iff, ?_, ?_, ?_, ?_⟩
  · rw [parse_eq_error_iff, and_iff_left rfl]
  · rintro d ds rest rfl hdot ⟨c, hc, hdigit⟩
    rw [parse_eq_error_iff, exists_parse_eq_ok_iff]
    refine ⟨?_, rfl⟩
    rintro ⟨major, minor, hform, _⟩
    rw [hform.isDigit_of_mem hdot c hc] at hdigit
    cases hdigit
  · intro v rest hmajor hrest
    exact parse_eq_ok_iff.mpr (oldForm_display hmajor hrest)
  · intro v rest hmajor
    rw [parse_eq_error_iff, exists_parse_eq_ok_iff]
    refine ⟨?_, rfl⟩
    rintro ⟨major, minor, hform, _⟩
    exact not_oldForm_display hmajor rest major minor hform

/-- A version that is shown and read, one with a second digit, and a digit of another script. -/
theorem parse_reads_oldForm_shown :
    parse (display ⟨1, 7⟩ ++ '.' :: "0_80".toList) = .ok ⟨1, 7⟩ ∧
    parse (display ⟨17, 0⟩ ++ '.' :: "2".toList) =
      .error (.unreadableVersion (display ⟨17, 0⟩ ++ '.' :: "2".toList)) ∧
    parse "1.٧.x".toList = .error (.unreadableVersion "1.٧.x".toList) := by
  obtain ⟨-, -, -, hforeign, hshown, hlong⟩ := parse_reads_oldForm "1.٧.x".toList
  exact ⟨hshown ⟨1, 7⟩ _ (by decide) (by decide), hlong ⟨17, 0⟩ _ (by decide),
    hforeign '1' ['٧'] ['x'] rfl (by decide) ⟨'٧', by decide, by decide⟩⟩

/-- Zeros in front do not count, and the highest number is the last one that fits. -/
example : parse "9.0004294967295.".toList = .ok ⟨9, 4294967295⟩ ∧
    parse "1.4294967296.0".toList = .error (.unreadableVersion "1.4294967296.0".toList) := by
  decide

end Version

end JavacLauncher
