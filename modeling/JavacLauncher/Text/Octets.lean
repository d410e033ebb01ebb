import JavacLauncher.Text.Utf8.Basic

/-!
# Octets

The shell and its tools read bytes and know ASCII only. They are written over text in which each
character stands for the byte of its number, so that patterns can show the characters they mean.
-/

namespace JavacLauncher.Octets

/-- Each byte as the character of its number. -/
def ofBytes (bs : Bytes) : Text := bs.map fun b => Char.ofNat b.toNat

/-- Each character as the byte of its number. -/
def toBytes (t : Text) : Bytes := t.map fun c => UInt8.ofNat c.toNat

/-- Nothing is lost on the way. -/
theorem toBytes_ofBytes (bs : Bytes) : toBytes (ofBytes bs) = bs := by
  induction bs with
  | nil => rfl
  | cons b bs ih =>
    have h : (Char.ofNat b.toNat).toNat = b.toNat := by
      have hb := b.toNat_lt
      have hv : b.toNat.isValidChar := Or.inl (by omega)
      rw [Char.ofNat, dif_pos hv]
      rfl
    simp only [toBytes, ofBytes, List.map_cons, h, UInt8.ofNat_toNat] at ih ⊢
    rw [ih]

end JavacLauncher.Octets
