import JavacLauncher.Proofs.Location.Address

/-!
# What can be decoded

Decoding may be said in three ways. `percentDecode?` looks at the bytes one after the other.
`decodeFrom` goes along the offsets of the text: at an escape it cuts the two bytes behind the sign
out of the text, which can fail at the end and inside of a character, and goes on three bytes
further. `WellEscaped` and `spelled` do not go along the text at all. They say what has to stand
behind each sign, and what is left when each escape is replaced.

The offsets make the difficulty. The loop goes byte by byte through a character, so it stands inside
of characters most of the time, but it cuts only behind a sign, where a character begins. Two digits
are two bytes, so behind them a character begins again. A part of two bytes that is no pair of digits
need not be a part at all, and is refused in either case (`decodeFrom_percent_eq_none`). With that, one
step of the loop is one step of `spelled` (`decodeFrom_eq`).
-/

namespace JavacLauncher

/-! ## Parts of a text -/

namespace Text

/-- A text cut in two behind its first `n` bytes, unless there are fewer or a character goes across. -/
def splitAtByte? : Nat → Text → Option (Text × Text)
  | 0, t => some ([], t)
  | _ + 1, [] => none
  | n + 1, c :: t =>
    if c.utf8Size ≤ n + 1 then
      (splitAtByte? (n + 1 - c.utf8Size) t).map fun parts => (c :: parts.1, parts.2)
    else none

/-- The part of a text that begins at byte `i` and is `n` bytes long, if there is one. -/
def part? (t : Text) (i n : Nat) : Option Text :=
  (splitAtByte? i t).bind fun cut => (splitAtByte? n cut.2).map Prod.fst

end Text

/-- The cut is made between characters, and nowhere else. -/
theorem Text.splitAtByte?_eq_some_iff {n : Nat} {t front behind : Text} :
    splitAtByte? n t = some (front, behind) ↔
      t = front ++ behind ∧ (Utf8.encode front).length = n := by
  induction t generalizing n front with
  | nil =>
    cases n with
    | zero => cases front <;> simp [splitAtByte?, Utf8.encode, eq_comm]
    | succ n => cases front <;> simp [splitAtByte?, Utf8.encode]
  | cons c t ih =>
    have hsize := c.utf8Size_pos
    cases n with
    | zero =>
      cases front with
      | nil => simp [splitAtByte?, Utf8.encode, eq_comm]
      | cons d front =>
        have hpos := d.utf8Size_pos
        rw [Utf8.length_encode_cons]
        simp only [splitAtByte?, Option.some.injEq, Prod.mk.injEq, List.nil_eq, reduceCtorEq,
          false_and, false_iff, not_and]
        omega
    | succ n =>
      cases front with
      | nil => simp [splitAtByte?, Utf8.encode]
      | cons d front =>
        rw [Utf8.length_encode_cons, splitAtByte?]
        split
        · rename_i hfits
          simp only [Option.map_eq_some_iff, Prod.exists, Prod.mk.injEq, List.cons.injEq,
            List.cons_append]
          constructor
          · rintro ⟨a, b, hab, ⟨rfl, rfl⟩, rfl⟩
            obtain ⟨rfl, hlength⟩ := ih.mp hab
            exact ⟨⟨rfl, rfl⟩, by omega⟩
          · rintro ⟨⟨rfl, rfl⟩, hlength⟩
            exact ⟨front, behind, ih.mpr ⟨rfl, by omega⟩, ⟨rfl, rfl⟩, rfl⟩
        · rename_i hacross
          refine iff_of_false (Option.some_ne_none _).symm ?_
          rintro ⟨hcons, hlength⟩
          obtain ⟨rfl, _⟩ := List.cons.inj hcons
          omega

/-- A part begins and ends between characters. -/
theorem Text.part?_eq_some_iff {t part : Text} {i n : Nat} :
    t.part? i n = some part ↔ ∃ front behind, t = front ++ (part ++ behind) ∧
      (Utf8.encode front).length = i ∧ (Utf8.encode part).length = n := by
  unfold part?
  simp only [Option.bind_eq_some_iff, Option.map_eq_some_iff, Prod.exists, splitAtByte?_eq_some_iff]
  constructor
  · rintro ⟨front, _, ⟨rfl, hi⟩, part, behind, ⟨rfl, hn⟩, rfl⟩
    exact ⟨front, behind, rfl, hi, hn⟩
  · rintro ⟨front, behind, rfl, hi, hn⟩
    exact ⟨front, _, ⟨rfl, hi⟩, part, behind, ⟨rfl, hn⟩, rfl⟩

/-- A part of what stands behind `front` is a beginning of it. -/
theorem Text.part?_append_eq_some_iff {front t part : Text} {n : Nat} :
    Text.part? (front ++ t) (Utf8.encode front).length n = some part ↔
      ∃ behind, t = part ++ behind ∧ (Utf8.encode part).length = n := by
  unfold part?
  rw [splitAtByte?_eq_some_iff.mpr ⟨rfl, rfl⟩, Option.bind_some]
  simp only [Option.map_eq_some_iff, Prod.exists, splitAtByte?_eq_some_iff]
  constructor
  · rintro ⟨part, behind, h, rfl⟩
    exact ⟨behind, h⟩
  · rintro ⟨behind, h⟩
    exact ⟨part, behind, h, rfl⟩

namespace Location

/-! ## Well-formed texts -/

/-- The hexadecimal digits, capital or not. -/
def hexChars : Text := "0123456789abcdefABCDEF".toList

/-- The number that a digit stands for. -/
def digitValue (c : Char) : Nat := "0123456789abcdef".toList.idxOf c.toLower

/-- The byte that two digits spell. -/
def byteOf (high low : Char) : UInt8 := UInt8.ofNat (digitValue high * 16 + digitValue low)

/-- A text that begins with two digits. -/
def BeginsWithDigits (t : Text) : Prop :=
  ∃ high low rest, t = high :: low :: rest ∧ high ∈ hexChars ∧ low ∈ hexChars

/-- Behind every `%` stand two digits. -/
def WellEscaped (t : Text) : Prop :=
  ∀ front behind, t = front ++ '%' :: behind → BeginsWithDigits behind

/-- The bytes of a text with each `%` and the two characters behind it replaced by one byte. -/
def spelled : Text → Bytes
  | [] => []
  | '%' :: high :: low :: t => byteOf high low :: spelled t
  | c :: t => String.utf8EncodeChar c ++ spelled t

/-- Decodes a text from byte `i` on; what has been decoded stands in front. -/
def decodeFrom (t : Text) (i : Nat) (decoded : Bytes) : Option Bytes :=
  if h : i < (Utf8.encode t).length then
    if (Utf8.encode t)[i] = percent then
      match t.part? (i + 1) 2 with
      | some [high, low] =>
        if high ∈ hexChars ∧ low ∈ hexChars then
          decodeFrom t (i + 3) (decoded ++ [byteOf high low])
        else none
      | _ => none
    else decodeFrom t (i + 1) (decoded ++ [(Utf8.encode t)[i]])
  else some decoded
termination_by (Utf8.encode t).length - i

theorem beginsWithDigits_iff {high low : Char} {t : Text} :
    BeginsWithDigits (high :: low :: t) ↔ high ∈ hexChars ∧ low ∈ hexChars := by
  constructor
  · rintro ⟨_, _, _, heq, hdigits⟩
    obtain ⟨rfl, rfl, rfl⟩ : high = _ ∧ low = _ ∧ t = _ := by simpa using heq
    exact hdigits
  · intro hdigits
    exact ⟨high, low, t, rfl, hdigits⟩

theorem not_beginsWithDigits {t : Text} (h : ∀ high low rest, t ≠ high :: low :: rest) :
    ¬BeginsWithDigits t := by
  rintro ⟨high, low, rest, rfl, _⟩
  exact h high low rest rfl

theorem wellEscaped_cons_iff {c : Char} {t : Text} :
    WellEscaped (c :: t) ↔ (c = '%' → BeginsWithDigits t) ∧ WellEscaped t := by
  constructor
  · intro h
    refine ⟨?_, fun front behind hsplit => h (c :: front) behind (by rw [hsplit]; rfl)⟩
    rintro rfl
    exact h [] t rfl
  · rintro ⟨hfirst, hmore⟩ front behind hsplit
    cases front with
    | nil =>
      obtain ⟨rfl, rfl⟩ := List.cons.inj hsplit
      exact hfirst rfl
    | cons d front => exact hmore front behind (List.cons.inj hsplit).2

theorem ne_percent_of_mem_hexChars {c : Char} (h : c ∈ hexChars) : c ≠ '%' := by
  rintro rfl
  exact absurd h (by decide)

/-- The digits of an escape are no signs of an escape themselves. -/
theorem wellEscaped_escape_iff {high low : Char} (hhigh : high ∈ hexChars) (hlow : low ∈ hexChars)
    {t : Text} : WellEscaped ('%' :: high :: low :: t) ↔ WellEscaped t := by
  simp only [wellEscaped_cons_iff, beginsWithDigits_iff, hhigh, hlow, and_self, implies_true,
    true_and, ne_percent_of_mem_hexChars hhigh, ne_percent_of_mem_hexChars hlow, false_implies]

/-! ## Digits as bytes -/

theorem hexDigit?_of_mem_hexChars {c : Char} (h : c ∈ hexChars) :
    hexDigit? (UInt8.ofNat c.toNat) = some (UInt8.ofNat (digitValue c)) := by
  have hall : (hexChars.all fun c =>
      hexDigit? (UInt8.ofNat c.toNat) = some (UInt8.ofNat (digitValue c))) = true := by decide
  exact of_decide_eq_true (List.all_eq_true.mp hall c h)

theorem lt_of_mem_hexChars {c : Char} (h : c ∈ hexChars) : c.toNat < 0x80 := by
  have hall : (hexChars.all fun c => c.toNat < 0x80) = true := by decide
  exact of_decide_eq_true (List.all_eq_true.mp hall c h)

theorem hexDigit?_of_le {b : UInt8} (h : 0x80 ≤ b.toNat) : hexDigit? b = none := by
  have hall : ∀ d : Fin 256, 0x80 ≤ d.val → hexDigit? (UInt8.ofFin d) = none := by
    decide +kernel
  exact hall b.toFin h

/-- A character that is no digit does not begin with the byte of one. -/
theorem hexDigit?_of_notMem_hexChars {c : Char} (h : c ∉ hexChars) :
    ∀ b ∈ (String.utf8EncodeChar c).head?, hexDigit? b = none := by
  intro b hb
  by_cases hc : c.toNat < 0x80
  · have hall : ∀ n < 0x80, Char.ofNat n ∉ hexChars → hexDigit? (UInt8.ofNat n) = none := by
      decide +kernel
    rw [Utf8.utf8EncodeChar_of_lt hc] at hb
    obtain rfl := Option.some.inj hb
    exact hall c.toNat hc (by rwa [Char.ofNat_toNat])
  · have hmem := List.mem_of_mem_head? hb
    exact hexDigit?_of_le (Utf8.le_of_mem_utf8EncodeChar (Nat.le_of_not_lt hc) hmem)

theorem percent_notMem_utf8EncodeChar {c : Char} (h : c ≠ '%') :
    percent ∉ String.utf8EncodeChar c := by
  rw [Utf8.mem_utf8EncodeChar_iff (by decide)]
  exact h

/-! ## Byte after byte -/

theorem unescape?_append {front : Bytes} (h : percent ∉ front) (l : Bytes) :
    unescape? (front ++ l) = (unescape? l).map (front ++ ·) := by
  induction front with
  | nil => simp
  | cons b front ih =>
    rw [List.mem_cons, not_or] at h
    rw [List.cons_append, unescape?_cons_of_ne (Ne.symm h.1), ih h.2, Option.map_map]
    rfl

theorem unescape?_percent_of_first {l : Bytes} (h : ∀ b ∈ l.head?, hexDigit? b = none) :
    unescape? (percent :: l) = none := by
  match l with
  | [] => rfl
  | [_] => rfl
  | high :: low :: l =>
    rw [unescape?_percent, h high rfl]
    rfl

theorem unescape?_percent_of_second {high : UInt8} {l : Bytes}
    (h : ∀ b ∈ l.head?, hexDigit? b = none) : unescape? (percent :: high :: l) = none := by
  match l with
  | [] => rfl
  | low :: l =>
    rw [unescape?_percent, h low rfl]
    cases hexDigit? high <;> rfl

theorem encode_percent (t : Text) : Utf8.encode ('%' :: t) = percent :: Utf8.encode t := rfl

theorem encode_digit {c : Char} (h : c ∈ hexChars) (t : Text) :
    Utf8.encode (c :: t) = UInt8.ofNat c.toNat :: Utf8.encode t := by
  rw [Utf8.encode_cons, Utf8.utf8EncodeChar_of_lt (lt_of_mem_hexChars h), List.singleton_append]

/-- An escape is replaced by its byte. -/
theorem unescape?_encode_escape {high low : Char} (hhigh : high ∈ hexChars) (hlow : low ∈ hexChars)
    (t : Text) : unescape? (Utf8.encode ('%' :: high :: low :: t)) =
      (unescape? (Utf8.encode t)).map (byteOf high low :: ·) := by
  rw [encode_percent, encode_digit hhigh, encode_digit hlow, unescape?_percent,
    hexDigit?_of_mem_hexChars hhigh, hexDigit?_of_mem_hexChars hlow]
  unfold byteOf
  rw [UInt8.ofNat_add, UInt8.ofNat_mul]
  cases unescape? (Utf8.encode t) <;> rfl

theorem hexDigit?_of_mem_head?_encode {c : Char} (h : c ∉ hexChars) (t : Text) :
    ∀ b ∈ (Utf8.encode (c :: t)).head?, hexDigit? b = none := by
  have hfirst := hexDigit?_of_notMem_hexChars h
  obtain ⟨b, bytes, hbytes⟩ := List.exists_cons_of_ne_nil (String.utf8EncodeChar_ne_nil (c := c))
  rw [hbytes] at hfirst
  rw [Utf8.encode_cons, hbytes]
  exact hfirst

/-- A sign without two digits behind it is refused. -/
theorem unescape?_encode_percent_eq_none {t : Text} (h : ¬BeginsWithDigits t) :
    unescape? (Utf8.encode ('%' :: t)) = none := by
  rw [encode_percent]
  cases t with
  | nil => rfl
  | cons high t =>
    by_cases hhigh : high ∈ hexChars
    · rw [encode_digit hhigh]
      cases t with
      | nil => rfl
      | cons low t =>
        have hlow : low ∉ hexChars := fun hlow => h (beginsWithDigits_iff.mpr ⟨hhigh, hlow⟩)
        exact unescape?_percent_of_second (hexDigit?_of_mem_head?_encode hlow t)
    · exact unescape?_percent_of_first (hexDigit?_of_mem_head?_encode hhigh t)

theorem unescape?_encode_cons {c : Char} (h : c ≠ '%') (t : Text) :
    unescape? (Utf8.encode (c :: t)) =
      (unescape? (Utf8.encode t)).map (String.utf8EncodeChar c ++ ·) := by
  rw [Utf8.encode_cons, unescape?_append (percent_notMem_utf8EncodeChar h)]

theorem spelled_cons {c : Char} (h : c ≠ '%') (t : Text) :
    spelled (c :: t) = String.utf8EncodeChar c ++ spelled t := by
  rw [spelled.eq_def]
  split
  · rename_i hnil
    cases hnil
  · rename_i hcons
    exact absurd (List.cons.inj hcons).1 h
  · rename_i hcons
    obtain ⟨rfl, rfl⟩ := List.cons.inj hcons
    rfl

theorem map_eq_some_iff_of_forall {α β : Type} {result : Option α} {succeeds : Prop} {a : α}
    (h : ∀ b, result = some b ↔ succeeds ∧ a = b) (f : α → β) {c : β} :
    result.map f = some c ↔ succeeds ∧ f a = c := by
  rw [Option.map_eq_some_iff]
  constructor
  · rintro ⟨b, hb, rfl⟩
    obtain ⟨hsucceeds, rfl⟩ := (h b).mp hb
    exact ⟨hsucceeds, rfl⟩
  · rintro ⟨hsucceeds, rfl⟩
    exact ⟨a, (h a).mpr ⟨hsucceeds, rfl⟩, rfl⟩

/-- A sign without two digits is neither decoded nor well-formed. -/
theorem unescape?_encode_percent_eq_some_iff {t : Text} (h : ¬BeginsWithDigits t) {bytes : Bytes} :
    unescape? (Utf8.encode ('%' :: t)) = some bytes ↔
      WellEscaped ('%' :: t) ∧ spelled ('%' :: t) = bytes := by
  rw [unescape?_encode_percent_eq_none h]
  refine iff_of_false (Option.some_ne_none _).symm ?_
  rintro ⟨hwell, _⟩
  exact h ((wellEscaped_cons_iff.mp hwell).1 rfl)

/-- **What can be decoded is well-formed, and is decoded to what it spells.** -/
theorem unescape?_encode_eq_some_iff {t : Text} {bytes : Bytes} :
    unescape? (Utf8.encode t) = some bytes ↔ WellEscaped t ∧ spelled t = bytes := by
  induction t using spelled.induct generalizing bytes with
  | case1 =>
    have hnone : WellEscaped [] := fun front behind h => by simp at h
    exact ⟨fun h => ⟨hnone, Option.some.inj h⟩, fun h => congrArg some h.2⟩
  | case2 high low t ih =>
    by_cases hdigits : high ∈ hexChars ∧ low ∈ hexChars
    · obtain ⟨hhigh, hlow⟩ := hdigits
      rw [unescape?_encode_escape hhigh hlow, wellEscaped_escape_iff hhigh hlow, spelled]
      exact map_eq_some_iff_of_forall (fun _ => ih) _
    · exact unescape?_encode_percent_eq_some_iff (mt beginsWithDigits_iff.mp hdigits)
  | case3 c t hshort ih =>
    by_cases hc : c = '%'
    · subst hc
      exact unescape?_encode_percent_eq_some_iff
        (not_beginsWithDigits fun high low rest => hshort high low rest rfl)
    · have hwell : WellEscaped (c :: t) ↔ WellEscaped t := by
        rw [wellEscaped_cons_iff, and_iff_right fun h => absurd h hc]
      rw [unescape?_encode_cons hc, hwell, spelled_cons hc]
      exact map_eq_some_iff_of_forall (fun _ => ih) _

/-! ## Along the offsets -/

/-- The loop goes byte by byte over everything but signs. -/
theorem decodeFrom_run {t : Text} {front run behind : Bytes}
    (h : Utf8.encode t = front ++ (run ++ behind)) (hrun : percent ∉ run) (decoded : Bytes) :
    decodeFrom t front.length decoded =
      decodeFrom t (front ++ run).length (decoded ++ run) := by
  induction run generalizing front decoded with
  | nil => rw [List.append_nil, List.append_nil]
  | cons b run ih =>
    rw [List.mem_cons, not_or] at hrun
    have hlt : front.length < (Utf8.encode t).length := by
      rw [h, List.length_append, List.length_append, List.length_cons]
      omega
    have hbyte : (Utf8.encode t)[front.length] = b := by simp [h]
    have hnext : Utf8.encode t = (front ++ [b]) ++ (run ++ behind) := by
      rw [h, List.append_assoc]
      rfl
    have hstep := ih hnext hrun.2 (decoded ++ [b])
    rw [decodeFrom, dif_pos hlt, hbyte, if_neg (Ne.symm hrun.1)]
    simpa using hstep

/-- At a sign the loop asks for two digits. -/
theorem decodeFrom_percent (front t : Text) (decoded : Bytes) :
    decodeFrom (front ++ '%' :: t) (Utf8.encode front).length decoded =
      match Text.part? (front ++ '%' :: t) ((Utf8.encode front).length + 1) 2 with
      | some [high, low] =>
        if high ∈ hexChars ∧ low ∈ hexChars then
          decodeFrom (front ++ '%' :: t) ((Utf8.encode front).length + 3)
            (decoded ++ [byteOf high low])
        else none
      | _ => none := by
  have hencode : Utf8.encode (front ++ '%' :: t) =
      Utf8.encode front ++ percent :: Utf8.encode t := Utf8.encode_append _ _
  have hlt : (Utf8.encode front).length < (Utf8.encode (front ++ '%' :: t)).length := by
    rw [hencode, List.length_append, List.length_cons]
    omega
  have hbyte : (Utf8.encode (front ++ '%' :: t))[(Utf8.encode front).length] = percent := by
    simp [hencode]
  rw [decodeFrom, dif_pos hlt, if_pos hbyte]

/-- A part of two bytes that is a pair of digits stands in front of the text behind the sign. -/
theorem part?_behind_percent {front t : Text} {part : Text} :
    Text.part? (front ++ '%' :: t) ((Utf8.encode front).length + 1) 2 = some part ↔
      ∃ behind, t = part ++ behind ∧ (Utf8.encode part).length = 2 := by
  have hlength : (Utf8.encode front).length + 1 = (Utf8.encode (front ++ ['%'])).length := by
    rw [Utf8.encode_append, List.length_append]
    rfl
  rw [hlength, List.append_cons]
  exact Text.part?_append_eq_some_iff

theorem length_encode_digits {high low : Char} (hhigh : high ∈ hexChars) (hlow : low ∈ hexChars) :
    (Utf8.encode [high, low]).length = 2 := by
  rw [encode_digit hhigh, encode_digit hlow]
  rfl

/-- Two digits are a part of the text, and behind them a character begins. -/
theorem decodeFrom_escape {high low : Char} (hhigh : high ∈ hexChars) (hlow : low ∈ hexChars)
    (front t : Text) (decoded : Bytes) :
    decodeFrom (front ++ '%' :: high :: low :: t) (Utf8.encode front).length decoded =
      decodeFrom (front ++ '%' :: high :: low :: t)
        (Utf8.encode (front ++ ['%', high, low])).length (decoded ++ [byteOf high low]) := by
  have hpart : Text.part? (front ++ '%' :: high :: low :: t) ((Utf8.encode front).length + 1) 2 =
      some [high, low] :=
    part?_behind_percent.mpr ⟨t, rfl, length_encode_digits hhigh hlow⟩
  have hlength : (Utf8.encode (front ++ ['%', high, low])).length =
      (Utf8.encode front).length + 3 := by
    rw [Utf8.encode_append, List.length_append, encode_percent, List.length_cons,
      length_encode_digits hhigh hlow]
  rw [decodeFrom_percent, hpart, hlength]
  dsimp only
  rw [if_pos ⟨hhigh, hlow⟩]

/-- Without two digits behind the sign there is no part of two bytes, or it is refused. -/
theorem decodeFrom_percent_eq_none {t : Text} (h : ¬BeginsWithDigits t) (front : Text)
    (decoded : Bytes) :
    decodeFrom (front ++ '%' :: t) (Utf8.encode front).length decoded = none := by
  rw [decodeFrom_percent]
  split
  · rename_i high low hpart
    obtain ⟨behind, rfl, _⟩ := part?_behind_percent.mp hpart
    exact if_neg (mt beginsWithDigits_iff.mpr h)
  · rfl

theorem decodeFrom_cons {c : Char} (h : c ≠ '%') (front t : Text) (decoded : Bytes) :
    decodeFrom (front ++ c :: t) (Utf8.encode front).length decoded =
      decodeFrom (front ++ c :: t) (Utf8.encode (front ++ [c])).length
        (decoded ++ String.utf8EncodeChar c) := by
  have hencode : Utf8.encode (front ++ c :: t) =
      Utf8.encode front ++ (String.utf8EncodeChar c ++ Utf8.encode t) := by
    rw [Utf8.encode_append, Utf8.encode_cons]
  have hnext : Utf8.encode (front ++ [c]) = Utf8.encode front ++ String.utf8EncodeChar c := by
    rw [Utf8.encode_append, Utf8.encode_cons]
    exact congrArg _ (List.append_nil _)
  rw [hnext]
  exact decodeFrom_run hencode (percent_notMem_utf8EncodeChar h) decoded

/-- What a step decodes stands behind what was decoded before, and in front of the rest. -/
theorem map_append_append (decoded step : Bytes) (rest : Option Bytes) :
    rest.map (decoded ++ step ++ ·) = (rest.map (step ++ ·)).map (decoded ++ ·) := by
  rw [Option.map_map]
  refine congrArg (Option.map · rest) (funext fun bytes => ?_)
  exact List.append_assoc _ _ _

/-- **The loop decodes what stands behind the place where it is.** -/
theorem decodeFrom_eq (front t : Text) (decoded : Bytes) :
    decodeFrom (front ++ t) (Utf8.encode front).length decoded =
      (unescape? (Utf8.encode t)).map (decoded ++ ·) := by
  induction t using spelled.induct generalizing front decoded with
  | case1 =>
    rw [List.append_nil, decodeFrom, dif_neg (Nat.lt_irrefl _)]
    exact congrArg some (List.append_nil decoded).symm
  | case2 high low t ih =>
    by_cases hdigits : high ∈ hexChars ∧ low ∈ hexChars
    · obtain ⟨hhigh, hlow⟩ := hdigits
      have hstep := ih (front ++ ['%', high, low]) (decoded ++ [byteOf high low])
      rw [List.append_assoc] at hstep
      rw [decodeFrom_escape hhigh hlow, unescape?_encode_escape hhigh hlow]
      exact hstep.trans (map_append_append _ _ _)
    · have hno : ¬BeginsWithDigits (high :: low :: t) := mt beginsWithDigits_iff.mp hdigits
      rw [decodeFrom_percent_eq_none hno, unescape?_encode_percent_eq_none hno]
      rfl
  | case3 c t hshort ih =>
    by_cases hc : c = '%'
    · subst hc
      have hno := not_beginsWithDigits fun high low rest => hshort high low rest rfl
      rw [decodeFrom_percent_eq_none hno, unescape?_encode_percent_eq_none hno]
      rfl
    · have hstep := ih (front ++ [c]) (decoded ++ String.utf8EncodeChar c)
      rw [List.append_assoc] at hstep
      rw [decodeFrom_cons hc, unescape?_encode_cons hc]
      exact hstep.trans (map_append_append _ _ _)

/-! ## Decoding a text -/

theorem percentDecode?_eq_bind (t : Text) :
    percentDecode? t = (unescape? (Utf8.encode t)).bind Utf8.decode? := rfl

/-- A text with each `%` written as an escape. -/
def percentEscaped (t : Text) : Text := t.flatMap fun c => if c = '%' then ['%', '2', '5'] else [c]

/-- The byte that comes out of an escape is not looked at again. -/
theorem unescape?_encode_percentEscaped (t : Text) :
    unescape? (Utf8.encode (percentEscaped t)) = some (Utf8.encode t) := by
  induction t with
  | nil => rfl
  | cons c t ih =>
    unfold percentEscaped
    rw [List.flatMap_cons]
    split
    · rename_i hc
      subst hc
      have hbyte : byteOf '2' '5' = percent := by decide
      refine (unescape?_encode_escape (by decide) (by decide) (percentEscaped t)).trans ?_
      rw [ih, hbyte, encode_percent]
      rfl
    · rename_i hc
      refine (unescape?_encode_cons hc (percentEscaped t)).trans ?_
      rw [ih, Utf8.encode_cons]
      rfl

theorem percentDecode?_eq_some_iff_wellEscaped {t s : Text} :
    percentDecode? t = some s ↔ WellEscaped t ∧ Utf8.encode s = spelled t := by
  rw [percentDecode?_eq_bind, Option.bind_eq_some_iff]
  simp only [unescape?_encode_eq_some_iff, Utf8.decode?_eq_some_iff]
  constructor
  · rintro ⟨_, ⟨hwell, rfl⟩, hs⟩
    exact ⟨hwell, hs.symm⟩
  · rintro ⟨hwell, hs⟩
    exact ⟨_, ⟨hwell, rfl⟩, hs.symm⟩

/-- What a sign has to have behind it, if it does not make the text undecodable. -/
theorem BeginsWithDigits.isPart {behind : Text} (h : BeginsWithDigits behind) (front : Text) :
    2 ≤ behind.length ∧ behind.head? ≠ some '+' ∧ behind.head? ≠ some '-' ∧
      Text.part? (front ++ '%' :: behind) ((Utf8.encode front).length + 1) 2 ≠ none := by
  obtain ⟨high, low, rest, rfl, hhigh, hlow⟩ := h
  have hpart : Text.part? (front ++ '%' :: high :: low :: rest)
      ((Utf8.encode front).length + 1) 2 = some [high, low] :=
    part?_behind_percent.mpr ⟨rest, rfl, length_encode_digits hhigh hlow⟩
  refine ⟨Nat.le_add_left 2 _, ?_, ?_, ?_⟩
  · rintro hplus
    rw [Option.some.inj hplus] at hhigh
    exact absurd hhigh (by decide)
  · rintro hminus
    rw [Option.some.inj hminus] at hhigh
    exact absurd hhigh (by decide)
  · rw [hpart]
    exact Option.some_ne_none _

/-- **A text can be decoded exactly if it is well-formed and spells a text.** The loop along its offsets
decodes it, and what it cuts out lies between two places where characters begin or the text ends. An
escape at the end or with a signed number, or one whose two bytes cannot be cut out, makes the text
undecodable; and what comes out of an escape stays as it is. -/
theorem percentDecode?_accepts (t : Text) :
    percentDecode? t = (decodeFrom t 0 []).bind Utf8.decode? ∧
    (∀ i n part, t.part? i n = some part ↔ ∃ front behind, t = front ++ (part ++ behind) ∧
      (Utf8.encode front).length = i ∧ (Utf8.encode part).length = n) ∧
    (∀ s, percentDecode? t = some s ↔ WellEscaped t ∧ Utf8.encode s = spelled t) ∧
    (percentDecode? t = none ↔ ¬WellEscaped t ∨ ¬Utf8.IsText (spelled t)) ∧
    (∀ front behind, t = front ++ '%' :: behind →
      behind.length < 2 ∨ behind.head? = some '+' ∨ behind.head? = some '-' ∨
        t.part? ((Utf8.encode front).length + 1) 2 = none →
      percentDecode? t = none) ∧
    percentDecode? (percentEscaped t) = some t := by
  have hnone : percentDecode? t = none ↔ ¬WellEscaped t ∨ ¬Utf8.IsText (spelled t) := by
    rw [Option.eq_none_iff_forall_ne_some, ← Classical.not_and_iff_not_or_not]
    simp only [ne_eq, percentDecode?_eq_some_iff_wellEscaped]
    constructor
    · rintro h ⟨hwell, s, hs⟩
      exact h s ⟨hwell, hs.symm⟩
    · rintro h s ⟨hwell, hs⟩
      exact h ⟨hwell, s, hs.symm⟩
  refine ⟨?_, fun i n part => Text.part?_eq_some_iff, fun s => percentDecode?_eq_some_iff_wellEscaped,
    hnone, ?_, ?_⟩
  · have hloop := decodeFrom_eq [] t []
    rw [percentDecode?_eq_bind]
    refine congrArg (Option.bind · Utf8.decode?) (hloop.trans ?_).symm
    cases unescape? (Utf8.encode t) <;> rfl
  · rintro front behind rfl hbroken
    refine hnone.mpr (Or.inl fun hwell => ?_)
    obtain ⟨hlength, hplus, hminus, hpart⟩ := (hwell front behind rfl).isPart front
    rcases hbroken with h | h | h | h
    · exact absurd hlength (Nat.not_le_of_lt h)
    · exact hplus h
    · exact hminus h
    · exact hpart h
  · rw [percentDecode?_eq_bind, unescape?_encode_percentEscaped, Option.bind_some]
    exact Utf8.decode?_encode t

/-- A digit and the first byte of a character behind a sign, a signed number, a byte that is no
text, and an escaped `%` in front of digits. -/
theorem percentDecode?_accepts_cut :
    percentDecode? "/a%4ü".toList = none ∧ percentDecode? "/a%+1b".toList = none ∧
    percentDecode? "/a%FC".toList = none ∧ percentDecode? "%2541".toList = some "%41".toList := by
  obtain ⟨_, _, _, _, hcut, _⟩ := percentDecode?_accepts "/a%4ü".toList
  obtain ⟨_, _, _, _, hsign, _⟩ := percentDecode?_accepts "/a%+1b".toList
  obtain ⟨_, _, _, hnone, _, _⟩ := percentDecode?_accepts "/a%FC".toList
  obtain ⟨_, _, _, _, _, honce⟩ := percentDecode?_accepts "%41".toList
  have hbytes : ¬Utf8.IsText (spelled "/a%FC".toList) := by
    rw [← Utf8.encode_decodeLossy_eq_iff]
    decide
  refine ⟨hcut "/a".toList "4ü".toList rfl ?_, hsign "/a".toList "+1b".toList rfl ?_,
    hnone.mpr (Or.inr hbytes), honce⟩
  · exact Or.inr (Or.inr (Or.inr (by decide)))
  · exact Or.inr (Or.inl rfl)

end Location

end JavacLauncher
