import JavacLauncher.Location
import JavacLauncher.Proofs.Path.Reduced
import JavacLauncher.Proofs.Text.Trim
import JavacLauncher.Proofs.Text.Utf8

/-!
# The address of an archive

The path in the address of an archive's entry may be spelled in many ways: every writer of
addresses has its own list of bytes that it escapes, in small letters or in capitals. `Escapes`
says what all of them have in common. A byte stands for itself, if it is not the sign of an
escape, or is written with two digits; which bytes are written which way is open. Reading
undoes exactly this (`unescape?_eq_some_iff`), with one step for each of the three bytes at
once, because a byte that comes out of an escape is never the beginning of another one.

Bytes above 127 may be left as they are or escaped. What is written has to be text, so a writer
that leaves a byte as it is leaves the whole character, and what is read is the path's text again
(`percentDecode?_eq_some_iff`). Around the path stand the fixed beginning, which no white space can
reach, and the mark. A path in which each mark is escaped ends at the first one, and nothing
behind it is looked at (`locate_address_of_escapes`).
-/

namespace JavacLauncher.Location

/-- The digits of the numbers below sixteen, in their order. -/
def hexDigits (isCapital : Bool) : Bytes :=
  Bytes.ofString (if isCapital then "0123456789ABCDEF" else "0123456789abcdef")

/-- A digit that stands for a number. -/
def IsHexDigit (digit : UInt8) (n : Nat) : Prop := ∃ isCapital, (hexDigits isCapital)[n]? = some digit

/-- The bytes `written` spell the bytes `plain`: some of these as they are, the others, and every
`%` among them, as `%` and two digits. -/
inductive Escapes : (plain written : Bytes) → Prop where
  | nil : Escapes [] []
  | kept {b : UInt8} {plain written : Bytes} :
      b ≠ percent → Escapes plain written → Escapes (b :: plain) (b :: written)
  | escaped {b high low : UInt8} {plain written : Bytes} :
      IsHexDigit high (b.toNat / 16) → IsHexDigit low (b.toNat % 16) → Escapes plain written →
      Escapes (b :: plain) (percent :: high :: low :: written)

/-! ## Digits -/

theorem hexDigits_length (isCapital : Bool) : (hexDigits isCapital).length = 16 := by
  cases isCapital <;> rfl

theorem lt_of_isHexDigit {digit : UInt8} {n : Nat} (h : IsHexDigit digit n) : n < 16 := by
  obtain ⟨isCapital, hdigit⟩ := h
  obtain ⟨hn, _⟩ := List.getElem?_eq_some_iff.mp hdigit
  rwa [hexDigits_length] at hn

theorem hexDigit?_of_isHexDigit {digit : UInt8} {n : Nat} (h : IsHexDigit digit n) :
    hexDigit? digit = some (UInt8.ofNat n) := by
  have hall : ∀ isCapital, ∀ n < 16,
      ((hexDigits isCapital)[n]?.bind hexDigit?) = some (UInt8.ofNat n) := by decide
  have hn := lt_of_isHexDigit h
  obtain ⟨isCapital, hdigit⟩ := h
  have hvalue := hall isCapital n hn
  rwa [hdigit] at hvalue

theorem isHexDigit_of_hexDigit? {digit value : UInt8} (h : hexDigit? digit = some value) :
    IsHexDigit digit value.toNat := by
  have hall : ∀ d : Fin 256, ∀ v ∈ hexDigit? (UInt8.ofFin d),
      ∃ isCapital, (hexDigits isCapital)[v.toNat]? = some (UInt8.ofFin d) := by decide +kernel
  exact hall digit.toFin value h

/-! ## Replacing escapes -/

theorem unescape?_cons_of_ne {b : UInt8} (h : b ≠ percent) (l : Bytes) :
    unescape? (b :: l) = (unescape? l).map (b :: ·) := by
  rw [unescape?.eq_def]
  dsimp only
  rw [if_neg h]

theorem unescape?_percent (high low : UInt8) (l : Bytes) :
    unescape? (percent :: high :: low :: l) = do
      let h ← hexDigit? high
      let d ← hexDigit? low
      let rest ← unescape? l
      return (h * 16 + d) :: rest := by
  rw [unescape?.eq_def]
  rfl

/-- Two digits give back the byte that they are written for. -/
theorem byte_of_digits {b high low : UInt8} (hhigh : high.toNat = b.toNat / 16)
    (hlow : low.toNat = b.toNat % 16) : high * 16 + low = b := by
  have hb : b.toNat < 256 := UInt8.toNat_lt b
  rw [← UInt8.toNat_inj, UInt8.toNat_add, UInt8.toNat_mul, hhigh, hlow]
  show (b.toNat / 16 * 16 % 256 + b.toNat % 16) % 256 = b.toNat
  omega

theorem unescape?_of_escapes {plain written : Bytes} (h : Escapes plain written) :
    unescape? written = some plain := by
  induction h with
  | nil => rfl
  | kept hb _ ih =>
    rw [unescape?_cons_of_ne hb, ih]
    rfl
  | @escaped b high low plain written hhigh hlow _ ih =>
    have hb : b.toNat < 256 := UInt8.toNat_lt b
    have hbyte : UInt8.ofNat (b.toNat / 16) * 16 + UInt8.ofNat (b.toNat % 16) = b :=
      byte_of_digits (Utf8.toNat_ofNat_of_lt (by omega)) (Utf8.toNat_ofNat_of_lt (by omega))
    rw [unescape?_percent, hexDigit?_of_isHexDigit hhigh, hexDigit?_of_isHexDigit hlow, ih]
    show some (_ :: plain) = _
    rw [hbyte]

theorem escapes_of_unescape? {plain written : Bytes} (h : unescape? written = some plain) :
    Escapes plain written := by
  induction written using unescape?.induct generalizing plain with
  | case1 =>
    obtain rfl := Option.some.inj h
    exact .nil
  | case2 high low l ih =>
    rw [unescape?_percent] at h
    obtain ⟨v, hhigh, h⟩ := Option.bind_eq_some_iff.mp h
    obtain ⟨w, hlow, h⟩ := Option.bind_eq_some_iff.mp h
    obtain ⟨rest, hrest, h⟩ := Option.bind_eq_some_iff.mp h
    obtain rfl := Option.some.inj h
    have hdigits := isHexDigit_of_hexDigit? hhigh
    have hdigits' := isHexDigit_of_hexDigit? hlow
    have hv := lt_of_isHexDigit hdigits
    have hw := lt_of_isHexDigit hdigits'
    have hbyte : (v * 16 + w).toNat = v.toNat * 16 + w.toNat := by
      rw [UInt8.toNat_add, UInt8.toNat_mul]
      show (v.toNat * 16 % 256 + w.toNat) % 256 = _
      omega
    refine .escaped ?_ ?_ (ih hrest)
    · rwa [hbyte, show (v.toNat * 16 + w.toNat) / 16 = v.toNat by omega]
    · rwa [hbyte, show (v.toNat * 16 + w.toNat) % 16 = w.toNat by omega]
  | case3 l hshort =>
    -- fewer than two bytes behind the sign
    have hnone : unescape? (percent :: l) = none := by
      cases l with
      | nil => rfl
      | cons c l =>
        cases l with
        | nil => rfl
        | cons d l => exact absurd rfl (hshort c d l)
    rw [hnone] at h
    cases h
  | case4 b l hb ih =>
    rw [unescape?_cons_of_ne hb, Option.map_eq_some_iff] at h
    obtain ⟨rest, hrest, rfl⟩ := h
    exact .kept hb (ih hrest)

/-- **Replacing escapes undoes escaping**, and nothing else can be undone. -/
theorem unescape?_eq_some_iff {plain written : Bytes} :
    unescape? written = some plain ↔ Escapes plain written :=
  ⟨escapes_of_unescape?, unescape?_of_escapes⟩

theorem percentDecode?_eq_some_iff {written plain : Text} :
    percentDecode? written = some plain ↔ Escapes (Utf8.encode plain) (Utf8.encode written) := by
  rw [← unescape?_eq_some_iff]
  unfold percentDecode?
  constructor
  · intro h
    obtain ⟨bytes, hbytes, htext⟩ := Option.bind_eq_some_iff.mp h
    rwa [Utf8.decode?_eq_some_iff.mp htext] at hbytes
  · intro h
    rw [h]
    exact Utf8.decode?_encode plain

/-! ## Plus signs -/

/-- A byte that is neither the sign of an escape nor a digit stands for itself wherever it stands. -/
theorem Escapes.split {b : UInt8} (hb : b ≠ percent) (hdigit : ∀ n, ¬IsHexDigit b n)
    {plain before after : Bytes} (h : Escapes plain (before ++ b :: after)) :
    ∃ front behind, Escapes front before ∧ Escapes behind after ∧ plain = front ++ b :: behind := by
  generalize hwritten : before ++ b :: after = written at h
  induction h generalizing before with
  | nil => simp at hwritten
  | @kept c plain written hc hrest ih =>
    cases before with
    | nil =>
      obtain ⟨rfl, rfl⟩ := List.cons.inj hwritten
      exact ⟨[], plain, .nil, hrest, rfl⟩
    | cons d before =>
      obtain ⟨rfl, hmore⟩ := List.cons.inj hwritten
      obtain ⟨front, behind, hfront, hbehind, rfl⟩ := ih hmore
      exact ⟨d :: front, behind, .kept hc hfront, hbehind, rfl⟩
  | @escaped c high low plain written hhigh hlow hrest ih =>
    -- the byte is none of the three of this escape
    match before with
    | [] =>
      simp only [List.nil_append, List.cons.injEq] at hwritten
      exact absurd hwritten.1 hb
    | [_] =>
      simp only [List.cons_append, List.nil_append, List.cons.injEq] at hwritten
      obtain ⟨_, rfl, _⟩ := hwritten
      exact absurd hhigh (hdigit _)
    | [_, _] =>
      simp only [List.cons_append, List.nil_append, List.cons.injEq] at hwritten
      obtain ⟨_, _, rfl, _⟩ := hwritten
      exact absurd hlow (hdigit _)
    | _ :: _ :: _ :: before =>
      simp only [List.cons_append, List.cons.injEq] at hwritten
      obtain ⟨rfl, rfl, rfl, hmore⟩ := hwritten
      obtain ⟨front, behind, hfront, hbehind, rfl⟩ := ih hmore
      exact ⟨c :: front, behind, .escaped hhigh hlow hfront, hbehind, rfl⟩

/-- The byte `+`. -/
def plus : UInt8 := 0x2B

theorem not_isHexDigit_plus (n : Nat) : ¬IsHexDigit plus n := by
  rintro ⟨isCapital, hdigit⟩
  have habsent : plus ∉ hexDigits isCapital := by cases isCapital <;> decide
  exact habsent (List.mem_of_getElem? hdigit)

/-- A plus sign is a plus sign, and what stands around it is decoded on its own. -/
theorem percentDecode?_plus {before after decoded : Text}
    (h : percentDecode? (before ++ '+' :: after) = some decoded) :
    ∃ front behind, percentDecode? before = some front ∧ percentDecode? after = some behind ∧
      decoded = front ++ '+' :: behind := by
  simp only [percentDecode?_eq_some_iff] at h ⊢
  have hplus (s t : Text) : Utf8.encode (s ++ '+' :: t) = Utf8.encode s ++ plus :: Utf8.encode t := by
    rw [Utf8.encode_append]
    rfl
  rw [hplus] at h
  obtain ⟨front, behind, hfront, hbehind, hdecoded⟩ := h.split (by decide) not_isHexDigit_plus
  have hascii : plus.toNat < 0x80 := by decide
  have htext : Utf8.decode? (front ++ plus :: behind) = some decoded := by
    rw [← hdecoded]
    exact Utf8.decode?_encode decoded
  obtain ⟨s, t, hs, ht, rfl⟩ := (Utf8.decode?_append_cons_eq_some_iff hascii).mp htext
  obtain rfl := Utf8.decode?_eq_some_iff.mp hs
  obtain rfl := Utf8.decode?_eq_some_iff.mp ht
  exact ⟨s, t, hfront, hbehind, rfl⟩

/-! ## The address of an entry in an archive -/

/-- The address of the entry `entry` in the archive whose path is spelled `written`. -/
def address (written entry : Text) : Text := "jar:file:".toList ++ (written ++ '!' :: entry)

/-- The white space around an address goes, and with it what its entry ends in. -/
theorem trim_address {before : Text} (hbefore : Text.AllBlank before) (written entry after : Text) :
    (before ++ address written entry ++ after).trim = address written (entry ++ after).trimEnd := by
  have hj : Text.isBlank 'j' = false := by decide
  have hbang : Text.isBlank '!' = false := by decide
  have hstart : Text.trimStart (address written entry ++ after) = address written entry ++ after :=
    Text.trimStart_cons hj _
  have hsplit : address written entry ++ after =
      ("jar:file:".toList ++ written) ++ '!' :: (entry ++ after) := by
    unfold address
    simp only [List.append_assoc, List.cons_append]
  unfold Text.trim
  rw [List.append_assoc, Text.trimStart_append hbefore, hstart, hsplit,
    Text.trimEnd_append_cons hbang, List.append_assoc]
  rfl

theorem path?_address {written plain : Text} (hwritten : percentDecode? written = some plain)
    (hbang : '!' ∉ written) (entry : Text) : path? (address written entry) = .ok plain := by
  have hrest : after? "jar:file:".toList (address written entry) = some (written ++ '!' :: entry) :=
    after?_eq_some_iff.mpr rfl
  have hfile : after? "file:".toList (address written entry) = none := rfl
  have hne : address written entry ≠ [] := List.cons_ne_nil _ _
  have hcut : cut? '!' (written ++ '!' :: entry) = some (written, entry) :=
    cut?_eq_some_iff.mpr ⟨rfl, hbang⟩
  unfold path?
  rw [if_neg hne, hfile, Option.isSome_none, if_neg Bool.false_ne_true, hrest]
  dsimp only
  rw [hcut, Option.bind_some, hwritten]

/-- **The address of an entry leads to the archive whose path it spells**, whatever the entry and
wherever it is asked. The path comes out in its normal form, and as it is if it is reduced; and a
plus sign is decoded to a plus sign. -/
theorem locate_address_of_escapes {plain written : Text} (habsolute : (Path.ofText plain).IsAbsolute)
    (hwritten : Escapes (Utf8.encode plain) (Utf8.encode written)) (hbang : '!' ∉ written) :
    (∀ (before entry after : Text) (currentDir : Except SystemError Path),
      Text.AllBlank before → Text.AllBlank after →
      locate currentDir (before ++ address written entry ++ after) =
        .ok (Path.ofText plain).normalize) ∧
    (Path.ofText plain).IsNormalForm (Path.ofText plain).normalize ∧
    ((Path.ofText plain).IsReduced → (Path.ofText plain).normalize = Path.ofText plain) ∧
    ∀ front behind decoded : Text, percentDecode? (front ++ '+' :: behind) = some decoded →
      ∃ front' behind', percentDecode? front = some front' ∧ percentDecode? behind = some behind' ∧
        decoded = front' ++ '+' :: behind' := by
  refine ⟨?_, Path.isNormalForm_normalize habsolute,
    (Path.normalize_eq_self_iff habsolute).mpr, ?_⟩
  · intro before entry after currentDir hbefore _
    -- white space behind the address is part of the entry, which does not matter
    have hpath := path?_address (percentDecode?_eq_some_iff.mpr hwritten) hbang
      (entry ++ after).trimEnd
    unfold locate
    rw [trim_address hbefore, hpath]
    show (do return (← (Path.ofText plain).absolute currentDir).normalize) = _
    rw [Path.absolute_of_isAbsolute habsolute]
    rfl
  · intro front behind decoded h
    exact percentDecode?_plus h

/-- Escapes in small letters and in capitals, a character left as it is, a `%` and a `!` in the
path, a plus sign and a `!` in the entry, and no current directory. -/
theorem locate_address_of_escapes_mixed :
    let plain := "/opt/./lib/../c++ prüfer/ä%41!.jar".toList
    let written := "/opt/./lib/../c+%2B%20prüfer/%c3%A4%2541%21.jar".toList
    Escapes (Utf8.encode plain) (Utf8.encode written) ∧
    locate (.error .noEntry) ("\t\n ".toList ++ address written "a!b c".toList ++ "\t\n ".toList) =
      .ok (.ofString "/opt/c++ prüfer/ä%41!.jar") := by
  intro plain written
  have hwritten : Escapes (Utf8.encode plain) (Utf8.encode written) :=
    percentDecode?_eq_some_iff.mp (by decide +kernel)
  have habsolute : (Path.ofText plain).IsAbsolute := by decide +kernel
  have hbang : '!' ∉ written := by decide +kernel
  have hblank : Text.AllBlank "\t\n ".toList := by decide
  have hnormal : (Path.ofText plain).normalize = .ofString "/opt/c++ prüfer/ä%41!.jar" := by
    decide +kernel
  obtain ⟨hlocate, _, _, _⟩ := locate_address_of_escapes habsolute hwritten hbang
  refine ⟨hwritten, ?_⟩
  rw [hlocate _ _ _ _ hblank hblank, hnormal]

end JavacLauncher.Location
