import JavacLauncher.Text.Utf8.Lemmas

/-!
# ASCII bytes separate

A byte below 128 is a character by itself and never a part of another one. So a string
of bytes may be cut at such a byte before it is read: the pieces on both sides are those
of the two parts (`pieces_append_cons`), and the whole spells a text exactly if both
parts do (`decode?_append_cons_eq_some_iff`). This is what lets a path list be taken
apart at its separators whatever bytes its entries hold.
-/

namespace JavacLauncher.Utf8

/-- A string of bytes that spells a text. -/
def IsText (bs : Bytes) : Prop := ∃ t, bs = encode t

theorem isText_encode (t : Text) : IsText (encode t) := ⟨t, rfl⟩

/-- Showing a string and writing it again gives the same bytes exactly if it spells a text. -/
theorem encode_decodeLossy_eq_iff {bs : Bytes} : encode (decodeLossy bs) = bs ↔ IsText bs := by
  constructor
  · intro h
    exact ⟨decodeLossy bs, h.symm⟩
  · rintro ⟨t, rfl⟩
    rw [decodeLossy_encode]

/-! ## A byte below 128 in a string -/

theorem within_of_lt {low high c : UInt8} (hlow : 0x80 ≤ low.toNat) (hc : c.toNat < 0x80) :
    within low high c = false := by
  rw [within_eq, decide_eq_false_iff_not]
  omega

theorem isTail_of_lt {c : UInt8} (hc : c.toNat < 0x80) : isTail c = false :=
  within_of_lt (Nat.le_refl _) hc

theorem within_of_lead_three {a low high c : UInt8} (h : lead a = .three low high)
    (hc : c.toNat < 0x80) : within low high c = false := by
  obtain ⟨_, _, hlow, _⟩ := bounds_of_three h
  refine within_of_lt ?_ hc
  split at hlow <;> omega

theorem within_of_lead_four {a low high c : UInt8} (h : lead a = .four low high)
    (hc : c.toNat < 0x80) : within low high c = false := by
  obtain ⟨_, _, hlow, _⟩ := bounds_of_four h
  refine within_of_lt ?_ hc
  split at hlow <;> omega

theorem pieces_cons_of_lt {c : UInt8} (hc : c.toNat < 0x80) (l : Bytes) :
    pieces (c :: l) = .char (Char.ofNat c.toNat) :: pieces l := by
  have hlead : lead c = .one := by rw [lead_eq, if_pos hc]
  rw [pieces.eq_def]
  simp only [hlead]

/-- **Cutting at an ASCII byte.** A character that breaks off does so before the cut. -/
theorem pieces_append_cons {c : UInt8} (hc : c.toNat < 0x80) (a b : Bytes) :
    pieces (a ++ c :: b) = pieces a ++ .char (Char.ofNat c.toNat) :: pieces b := by
  have hone := pieces_cons_of_lt hc b
  have htail := isTail_of_lt hc
  fun_induction pieces a with
  | case1 => exact hone
  -- after a first byte of these two kinds the second has bounds of its own
  | case7 a low high h =>
    have hw := within_of_lead_three h hc
    rw [List.cons_append, pieces.eq_def]
    simp [h, hw, hone]
  | case12 a low high h =>
    have hw := within_of_lead_four h hc
    rw [List.cons_append, pieces.eq_def]
    simp [h, hw, hone]
  | _ =>
    rw [List.cons_append, pieces.eq_def]
    simp_all

theorem decode?_append_cons_eq_some_iff {c : UInt8} (hc : c.toNat < 0x80) {a b : Bytes} {t : Text} :
    decode? (a ++ c :: b) = some t ↔
      ∃ s u, decode? a = some s ∧ decode? b = some u ∧ t = s ++ Char.ofNat c.toNat :: u := by
  unfold decode?
  simp only [mapM_char?_eq_some_iff]
  rw [pieces_append_cons hc]
  constructor
  · intro h
    obtain ⟨s, rest, rfl, hs, hrest⟩ := List.append_eq_map_iff.mp h
    obtain ⟨d, u, rfl, hd, hu⟩ := List.map_eq_cons_iff.mp hrest
    rw [← Piece.char.inj hd]
    exact ⟨s, u, hs.symm, hu.symm, rfl⟩
  · rintro ⟨s, u, hs, hu, rfl⟩
    rw [hs, hu, List.map_append, List.map_cons]

/-- A string with an ASCII byte in it spells a text exactly if both sides of the byte do. -/
theorem isText_append_cons_iff {c : UInt8} (hc : c.toNat < 0x80) {a b : Bytes} :
    IsText (a ++ c :: b) ↔ IsText a ∧ IsText b := by
  unfold IsText
  simp only [← decode?_eq_some_iff]
  constructor
  · rintro ⟨t, h⟩
    obtain ⟨s, u, hs, hu, _⟩ := (decode?_append_cons_eq_some_iff hc).mp h
    exact ⟨⟨s, hs⟩, ⟨u, hu⟩⟩
  · rintro ⟨⟨s, hs⟩, ⟨u, hu⟩⟩
    exact ⟨_, (decode?_append_cons_eq_some_iff hc).mpr ⟨s, u, hs, hu, rfl⟩⟩

/-! ## Beginnings -/

/-- Behind the bytes of a text, what follows is read as if it stood alone. -/
theorem isText_encode_append_iff {s : Text} {bs : Bytes} : IsText (encode s ++ bs) ↔ IsText bs := by
  constructor
  · rintro ⟨t, h⟩
    have hpieces := congrArg pieces h
    rw [pieces_encode_append, pieces_encode] at hpieces
    obtain ⟨_, u, _, _, hu⟩ := List.append_eq_map_iff.mp hpieces
    exact ⟨u, decode?_eq_some_iff.mp (mapM_char?_eq_some_iff.mpr hu.symm)⟩
  · rintro ⟨t, rfl⟩
    exact ⟨s ++ t, (encode_append s t).symm⟩

/-- Bytes begin with the bytes of a text exactly if their text begins with it. -/
theorem encode_prefix_encode_iff {s t : Text} : encode s <+: encode t ↔ s <+: t := by
  constructor
  · rintro ⟨rest, h⟩
    have hpieces := congrArg pieces h
    rw [pieces_encode_append, pieces_encode] at hpieces
    obtain ⟨u, v, rfl, hu, _⟩ := List.append_eq_map_iff.mp hpieces
    rw [(List.map_inj_right fun _ _ h => Piece.char.inj h).mp hu]
    exact List.prefix_append s v
  · rintro ⟨u, rfl⟩
    rw [encode_append]
    exact List.prefix_append _ _

/-! ## The bytes of one character -/

theorem encode_cons (c : Char) (t : Text) : encode (c :: t) = String.utf8EncodeChar c ++ encode t :=
  List.flatMap_cons

theorem length_encode_cons (c : Char) (t : Text) :
    (encode (c :: t)).length = c.utf8Size + (encode t).length := by
  rw [encode_cons, List.length_append, String.length_utf8EncodeChar]

theorem utf8EncodeChar_of_lt {c : Char} (h : c.toNat < 0x80) :
    String.utf8EncodeChar c = [UInt8.ofNat c.toNat] := by
  have hsmall : c.val.toNat ≤ 127 := Nat.le_of_lt_succ h
  unfold String.utf8EncodeChar
  simp only [if_pos hsmall]
  rfl

/-- No byte of any other character is an ASCII byte. -/
theorem le_of_mem_utf8EncodeChar {c : Char} (h : 0x80 ≤ c.toNat) {b : UInt8}
    (hb : b ∈ String.utf8EncodeChar c) : 0x80 ≤ b.toNat := by
  have hlarge : ¬c.val.toNat ≤ 127 := Nat.not_le_of_lt h
  have hbyte : ∀ n, 0x80 ≤ n % 256 → 0x80 ≤ (UInt8.ofNat n).toNat := fun n hn => by
    rwa [UInt8.toNat_ofNat']
  unfold String.utf8EncodeChar at hb
  simp only [if_neg hlarge] at hb
  split at hb
  · simp only [List.mem_cons, List.not_mem_nil, or_false] at hb
    rcases hb with rfl | rfl <;> exact hbyte _ (by omega)
  · split at hb
    · simp only [List.mem_cons, List.not_mem_nil, or_false] at hb
      rcases hb with rfl | rfl | rfl <;> exact hbyte _ (by omega)
    · simp only [List.mem_cons, List.not_mem_nil, or_false] at hb
      rcases hb with rfl | rfl | rfl | rfl <;> exact hbyte _ (by omega)

/-- An ASCII byte stands for its character and is no part of another one. -/
theorem mem_utf8EncodeChar_iff {b : UInt8} (hb : b.toNat < 0x80) {c : Char} :
    b ∈ String.utf8EncodeChar c ↔ c = Char.ofNat b.toNat := by
  have hascii : (Char.ofNat b.toNat).toNat = b.toNat := toNat_ofNat_of_valid (Or.inl (by omega))
  by_cases hc : c.toNat < 0x80
  · rw [utf8EncodeChar_of_lt hc, List.mem_singleton]
    constructor
    · rintro rfl
      rw [toNat_ofNat_of_lt (by omega), Char.ofNat_toNat]
    · rintro rfl
      rw [hascii, UInt8.ofNat_toNat]
  · constructor
    · intro hmem
      have hle := le_of_mem_utf8EncodeChar (Nat.le_of_not_lt hc) hmem
      omega
    · rintro rfl
      rw [hascii] at hc
      exact absurd hb hc

theorem mem_encode_iff {b : UInt8} (hb : b.toNat < 0x80) {t : Text} :
    b ∈ encode t ↔ Char.ofNat b.toNat ∈ t := by
  unfold encode
  simp only [List.mem_flatMap, mem_utf8EncodeChar_iff hb, exists_eq_right]

end JavacLauncher.Utf8
