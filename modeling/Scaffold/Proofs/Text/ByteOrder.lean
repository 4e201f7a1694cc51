import Mathlib.Data.List.Basic
import Scaffold.Text.Basic

namespace Scaffold.Text

/-- The bytes of the text in UTF-8. -/
def bytes (t : Text) : List UInt8 :=
  t.flatMap String.utf8EncodeChar

theorem codePoint_lt (c : Char) : c.toNat < 0x110000 := by
  have hValid : c.toNat < 0xD800 ∨ 0xDFFF < c.toNat ∧ c.toNat < 0x110000 := c.valid
  omega

theorem div_eq_div_div (n : Nat) : n / 4096 = n / 64 / 64 ∧ n / 262144 = n / 64 / 64 / 64 := by
  omega

/-- The bytes of a character with a larger code point are larger, whatever follows. -/
theorem utf8EncodeChar_append_lt {c d : Char} (h : c.toNat < d.toNat) (rest more : List UInt8) :
    String.utf8EncodeChar c ++ rest < String.utf8EncodeChar d ++ more := by
  have hBound := codePoint_lt d
  change c.val.toNat < d.val.toNat at h
  change d.val.toNat < _ at hBound
  obtain ⟨hTwo, hThree⟩ := div_eq_div_div c.val.toNat
  obtain ⟨hTwo', hThree'⟩ := div_eq_div_div d.val.toNat
  rw [String.utf8EncodeChar, String.utf8EncodeChar, hTwo, hThree, hTwo', hThree']
  -- Encodings of different lengths differ in the first byte, the others in the first digit in
  -- base 64 that differs.
  split_ifs <;>
    simp (disch := omega) only [List.cons_append, List.nil_append, List.cons_lt_cons_iff,
      UInt8.lt_iff_toNat_lt, ← UInt8.toNat_inj, UInt8.toNat_ofNat', Nat.mod_eq_of_lt] <;>
    omega

theorem bytes_cons (c : Char) (t : Text) : bytes (c :: t) = String.utf8EncodeChar c ++ bytes t :=
  List.flatMap_cons

/-- The order of texts is the lexicographic order of their bytes. -/
theorem notAfter_iff_bytes_le {s t : Text} : notAfter s t ↔ bytes s ≤ bytes t := by
  induction s generalizing t with
  | nil => exact iff_of_true rfl (List.nil_le _)
  | cons c s ih =>
      cases t with
      | nil =>
          have hSome : bytes (c :: s) ≠ [] := by
            intro hNil
            rw [bytes_cons, List.append_eq_nil_iff] at hNil
            have hSize := String.length_utf8EncodeChar c
            have hPos := c.utf8Size_pos
            rw [hNil.1, List.length_nil] at hSize
            omega
          exact iff_of_false Bool.false_ne_true fun hLe => hSome (List.le_nil.mp hLe)
      | cons d t =>
          rw [notAfter_cons_iff, ih, bytes_cons, bytes_cons]
          constructor
          · rintro (hLess | ⟨rfl, hRest⟩)
            · exact List.le_of_lt (utf8EncodeChar_append_lt hLess _ _)
            · exact List.append_left_le hRest
          · intro hLe
            rcases Nat.lt_trichotomy c.toNat d.toNat with hLess | hSame | hMore
            · exact Or.inl hLess
            · obtain rfl : c = d := Char.toNat_inj.mp hSame
              exact Or.inr ⟨rfl, fun hLt => hLe (List.append_left_lt hLt)⟩
            · exact absurd (utf8EncodeChar_append_lt hMore _ _) hLe

end Scaffold.Text
