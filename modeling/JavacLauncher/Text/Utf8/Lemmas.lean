import JavacLauncher.Text.Utf8.Basic

/-!
# Laws of UTF-8

Reading undoes writing, also in front of other bytes (`pieces_encode_append`), and the pieces of a
string hold exactly its bytes (`flatMap_bytes_pieces`). From the two together, a string spells a text
exactly if it is the encoding of that text (`decode?_eq_some_iff`).

A character takes one, two, three or four bytes. Each direction is therefore shown four times, once
for each length: the bounds that `lead` puts on the second byte are the ones that keep the number
inside its length's range and out of the surrogates.
-/

namespace JavacLauncher.Utf8

theorem toNat_ofNat_of_lt {n : Nat} (h : n < 256) : (UInt8.ofNat n).toNat = n := by
  simp [Nat.mod_eq_of_lt h]

theorem lead_eq (a : UInt8) : lead a =
    if a.toNat < 0x80 then .one
    else if a.toNat < 0xC2 then .none
    else if a.toNat < 0xE0 then .two
    else if a.toNat < 0xF0 then
      .three (if a.toNat = 0xE0 then 0xA0 else 0x80) (if a.toNat = 0xED then 0x9F else 0xBF)
    else if a.toNat < 0xF5 then
      .four (if a.toNat = 0xF0 then 0x90 else 0x80) (if a.toNat = 0xF4 then 0x8F else 0xBF)
    else .none := by
  simp [lead, UInt8.lt_iff_toNat_lt, ← UInt8.toNat_inj]

theorem within_eq (low high b : UInt8) :
    within low high b = decide (low.toNat ≤ b.toNat ∧ b.toNat ≤ high.toNat) := by
  simp [within, UInt8.le_iff_toNat_le]

theorem pieces_utf8EncodeChar_append (c : Char) (l : Bytes) :
    pieces (String.utf8EncodeChar c ++ l) = .char c :: pieces l := by
  have hv : c.toNat < 0xD800 ∨ (0xDFFF < c.toNat ∧ c.toNat < 0x110000) := c.valid
  have hc (n : Nat) (h : n = c.toNat) : Char.ofNat n = c := by rw [h, Char.ofNat_toNat]
  have e : c.val.toNat = c.toNat := rfl
  unfold String.utf8EncodeChar
  simp only [e]
  generalize c.toNat = v at hv hc
  split
  · have h0 := toNat_ofNat_of_lt (n := v) (by omega)
    have hl : lead (UInt8.ofNat v) = .one := by rw [lead_eq, h0, if_pos (by omega)]
    rw [List.cons_append, pieces.eq_def]
    simp only [List.nil_append, hl, h0, hc v rfl]
  split
  · have h0 := toNat_ofNat_of_lt (n := v / 64 % 32 + 192) (by omega)
    have h1 := toNat_ofNat_of_lt (n := v % 64 + 128) (by omega)
    have hl : lead (UInt8.ofNat (v / 64 % 32 + 192)) = .two := by
      rw [lead_eq, h0, if_neg (by omega), if_neg (by omega), if_pos (by omega)]
    have ht : isTail (UInt8.ofNat (v % 64 + 128)) = true := by
      rw [isTail, within_eq, h1]; simp; omega
    rw [List.cons_append, pieces.eq_def]
    simp only [List.cons_append, List.nil_append, hl, ht, if_true, tailBits, h0, h1]
    rw [hc _ (by omega)]
  split
  · have h0 := toNat_ofNat_of_lt (n := v / 4096 % 16 + 224) (by omega)
    have h1 := toNat_ofNat_of_lt (n := v / 64 % 64 + 128) (by omega)
    have h2 := toNat_ofNat_of_lt (n := v % 64 + 128) (by omega)
    have hl := lead_eq (UInt8.ofNat (v / 4096 % 16 + 224))
    rw [h0, if_neg (by omega), if_neg (by omega), if_neg (by omega), if_pos (by omega)] at hl
    have hw : within (if v / 4096 % 16 + 224 = 0xE0 then 0xA0 else 0x80)
        (if v / 4096 % 16 + 224 = 0xED then 0x9F else 0xBF)
        (UInt8.ofNat (v / 64 % 64 + 128)) = true := by
      rw [within_eq, h1]
      split <;> split <;> simp <;> omega
    have ht : isTail (UInt8.ofNat (v % 64 + 128)) = true := by
      rw [isTail, within_eq, h2]; simp; omega
    rw [List.cons_append, pieces.eq_def]
    simp only [List.cons_append, List.nil_append, hl, hw, ht, if_true, tailBits, h0, h1, h2]
    rw [hc _ (by omega)]
  · have h0 := toNat_ofNat_of_lt (n := v / 262144 % 8 + 240) (by omega)
    have h1 := toNat_ofNat_of_lt (n := v / 4096 % 64 + 128) (by omega)
    have h2 := toNat_ofNat_of_lt (n := v / 64 % 64 + 128) (by omega)
    have h3 := toNat_ofNat_of_lt (n := v % 64 + 128) (by omega)
    have hl := lead_eq (UInt8.ofNat (v / 262144 % 8 + 240))
    rw [h0, if_neg (by omega), if_neg (by omega), if_neg (by omega), if_neg (by omega),
      if_pos (by omega)] at hl
    have hw : within (if v / 262144 % 8 + 240 = 0xF0 then 0x90 else 0x80)
        (if v / 262144 % 8 + 240 = 0xF4 then 0x8F else 0xBF)
        (UInt8.ofNat (v / 4096 % 64 + 128)) = true := by
      rw [within_eq, h1]
      split <;> split <;> simp <;> omega
    have ht2 : isTail (UInt8.ofNat (v / 64 % 64 + 128)) = true := by
      rw [isTail, within_eq, h2]; simp; omega
    have ht3 : isTail (UInt8.ofNat (v % 64 + 128)) = true := by
      rw [isTail, within_eq, h3]; simp; omega
    rw [List.cons_append, pieces.eq_def]
    simp only [List.cons_append, List.nil_append, hl, hw, ht2, ht3, if_true, tailBits, h0,
      h1, h2, h3]
    rw [hc _ (by omega)]

/-- Reading an encoded text gives its characters, whatever follows. -/
theorem pieces_encode_append (t : Text) (l : Bytes) :
    pieces (encode t ++ l) = t.map .char ++ pieces l := by
  induction t with
  | nil => rfl
  | cons c t ih =>
    simp only [encode, List.flatMap_cons, List.append_assoc, List.map_cons, List.cons_append]
    rw [pieces_utf8EncodeChar_append]
    exact congrArg _ ih

theorem pieces_encode (t : Text) : pieces (encode t) = t.map .char := by
  simpa [pieces] using pieces_encode_append t []

theorem toNat_ofNat_of_valid {v : Nat} (h : v < 0xD800 ∨ (0xDFFF < v ∧ v < 0x110000)) :
    (Char.ofNat v).val.toNat = v := by
  have hv : v.isValidChar := h
  rw [Char.ofNat, dif_pos hv]
  rfl

theorem ofNat_eq_of_eq_toNat {n : Nat} {a : UInt8} (h : n = a.toNat) : UInt8.ofNat n = a := by
  rw [h, UInt8.ofNat_toNat]

theorem isTail_iff {b : UInt8} : isTail b = true ↔ 0x80 ≤ b.toNat ∧ b.toNat ≤ 0xBF := by
  simp [isTail, within_eq]

theorem utf8EncodeChar_of_one {a : UInt8} (h : lead a = .one) :
    String.utf8EncodeChar (Char.ofNat a.toNat) = [a] := by
  have ha : a.toNat < 0x80 := by
    rw [lead_eq] at h
    split at h
    · assumption
    · repeat' split at h
      all_goals cases h
  rw [String.utf8EncodeChar, toNat_ofNat_of_valid (by omega)]
  simp only [if_pos (show a.toNat ≤ 127 by omega), UInt8.ofNat_toNat]

theorem bounds_of_two {a : UInt8} (h : lead a = .two) : 0xC2 ≤ a.toNat ∧ a.toNat < 0xE0 := by
  rw [lead_eq] at h
  split at h
  · cases h
  split at h
  · cases h
  split at h
  · omega
  split at h
  · cases h
  split at h <;> cases h

theorem utf8EncodeChar_of_two {a b : UInt8} (h : lead a = .two) (hb : isTail b = true) :
    String.utf8EncodeChar (Char.ofNat (a.toNat % 32 * 64 + tailBits b)) = [a, b] := by
  have ha := bounds_of_two h
  have hb := isTail_iff.1 hb
  rw [String.utf8EncodeChar, tailBits, toNat_ofNat_of_valid (by omega)]
  simp only [if_neg (show ¬a.toNat % 32 * 64 + b.toNat % 64 ≤ 127 by omega),
    if_pos (show a.toNat % 32 * 64 + b.toNat % 64 ≤ 2047 by omega)]
  rw [ofNat_eq_of_eq_toNat (a := a) (by omega), ofNat_eq_of_eq_toNat (a := b) (by omega)]

theorem bounds_of_three {a low high : UInt8} (h : lead a = .three low high) :
    0xE0 ≤ a.toNat ∧ a.toNat < 0xF0 ∧ low.toNat = (if a.toNat = 0xE0 then 0xA0 else 0x80) ∧
      high.toNat = if a.toNat = 0xED then 0x9F else 0xBF := by
  rw [lead_eq] at h
  split at h
  · cases h
  split at h
  · cases h
  split at h
  · cases h
  split at h
  · obtain ⟨rfl, rfl⟩ := Lead.three.inj h
    refine ⟨by omega, by omega, ?_, ?_⟩ <;> split <;> rfl
  split at h <;> cases h

theorem utf8EncodeChar_of_three {a b c low high : UInt8} (h : lead a = .three low high)
    (hb : within low high b = true) (hc : isTail c = true) :
    String.utf8EncodeChar
      (Char.ofNat ((a.toNat % 16 * 64 + tailBits b) * 64 + tailBits c)) = [a, b, c] := by
  obtain ⟨h1, h2, h3, h4⟩ := bounds_of_three h
  have hc := isTail_iff.1 hc
  rw [within_eq, h3, h4, decide_eq_true_eq] at hb
  have hb' : 0x80 ≤ b.toNat ∧ b.toNat ≤ 0xBF := by split at hb <;> split at hb <;> omega
  simp only [tailBits]
  generalize hv : (a.toNat % 16 * 64 + b.toNat % 64) * 64 + c.toNat % 64 = v
  have valid : 0x7FF < v ∧ v ≤ 0xFFFF ∧ (v < 0xD800 ∨ 0xDFFF < v) := by
    split at hb <;> split at hb <;> omega
  rw [String.utf8EncodeChar, toNat_ofNat_of_valid (by omega)]
  simp only [if_neg (show ¬v ≤ 127 by omega), if_neg (show ¬v ≤ 2047 by omega),
    if_pos (show v ≤ 65535 by omega)]
  rw [ofNat_eq_of_eq_toNat (a := a) (by omega), ofNat_eq_of_eq_toNat (a := b) (by omega),
    ofNat_eq_of_eq_toNat (a := c) (by omega)]

theorem bounds_of_four {a low high : UInt8} (h : lead a = .four low high) :
    0xF0 ≤ a.toNat ∧ a.toNat < 0xF5 ∧ low.toNat = (if a.toNat = 0xF0 then 0x90 else 0x80) ∧
      high.toNat = if a.toNat = 0xF4 then 0x8F else 0xBF := by
  rw [lead_eq] at h
  split at h
  · cases h
  split at h
  · cases h
  split at h
  · cases h
  split at h
  · cases h
  split at h
  · obtain ⟨rfl, rfl⟩ := Lead.four.inj h
    refine ⟨by omega, by omega, ?_, ?_⟩ <;> split <;> rfl
  · cases h

theorem utf8EncodeChar_of_four {a b c d low high : UInt8} (h : lead a = .four low high)
    (hb : within low high b = true) (hc : isTail c = true) (hd : isTail d = true) :
    String.utf8EncodeChar (Char.ofNat
      (((a.toNat % 8 * 64 + tailBits b) * 64 + tailBits c) * 64 + tailBits d)) = [a, b, c, d] := by
  obtain ⟨h1, h2, h3, h4⟩ := bounds_of_four h
  have hc := isTail_iff.1 hc
  have hd := isTail_iff.1 hd
  rw [within_eq, h3, h4, decide_eq_true_eq] at hb
  have hb' : 0x80 ≤ b.toNat ∧ b.toNat ≤ 0xBF := by split at hb <;> split at hb <;> omega
  simp only [tailBits]
  generalize hv : ((a.toNat % 8 * 64 + b.toNat % 64) * 64 + c.toNat % 64) * 64 + d.toNat % 64 = v
  have valid : 0xFFFF < v ∧ v < 0x110000 := by
    split at hb <;> split at hb <;> omega
  rw [String.utf8EncodeChar, toNat_ofNat_of_valid (by omega)]
  simp only [if_neg (show ¬v ≤ 127 by omega), if_neg (show ¬v ≤ 2047 by omega),
    if_neg (show ¬v ≤ 65535 by omega)]
  rw [ofNat_eq_of_eq_toNat (a := a) (by omega), ofNat_eq_of_eq_toNat (a := b) (by omega),
    ofNat_eq_of_eq_toNat (a := c) (by omega), ofNat_eq_of_eq_toNat (a := d) (by omega)]

/-- The pieces of a string are the string. -/
theorem flatMap_bytes_pieces (bs : Bytes) : (pieces bs).flatMap Piece.bytes = bs := by
  fun_induction pieces bs with
  | case9 a low high h b hb c l hc ih =>
    simp [Piece.bytes, utf8EncodeChar_of_three h hb hc, ih]
  | case15 a low high h b hb c hc d l hd ih =>
    simp [Piece.bytes, utf8EncodeChar_of_four h hb hc hd, ih]
  | _ => simp_all [Piece.bytes, utf8EncodeChar_of_one, utf8EncodeChar_of_two]

theorem bytes_char (c : Char) : (Piece.char c).bytes = String.utf8EncodeChar c := rfl

theorem char?_eq_some_iff {p : Piece} {c : Char} : p.char? = some c ↔ p = .char c := by
  cases p <;> simp [Piece.char?]

theorem mapM_char?_eq_some_iff {ps : List Piece} {t : Text} :
    ps.mapM Piece.char? = some t ↔ ps = t.map .char :=
  mapM_eq_some_iff_eq_map fun _ _ => char?_eq_some_iff

/-- A string spells a text exactly if it is the text's encoding. -/
theorem decode?_eq_some_iff {bs : Bytes} {t : Text} : decode? bs = some t ↔ bs = encode t := by
  rw [decode?, mapM_char?_eq_some_iff]
  constructor
  · intro h
    rw [← flatMap_bytes_pieces bs, h, encode, List.flatMap_map]
    rfl
  · rintro rfl
    exact pieces_encode t

theorem decode?_encode (t : Text) : decode? (encode t) = some t := decode?_eq_some_iff.2 rfl

theorem encode_append (s t : Text) : encode (s ++ t) = encode s ++ encode t := by
  simp [encode]

theorem encode_injective {s t : Text} (h : encode s = encode t) : s = t :=
  Option.some.inj ((decode?_encode s).symm.trans (h ▸ decode?_encode t))

/-- A string that spells a text shows as that text. -/
theorem decodeLossy_encode (t : Text) : decodeLossy (encode t) = t := by
  rw [decodeLossy, pieces_encode, List.map_map]
  exact List.map_id t

end JavacLauncher.Utf8
