/-!
The order of texts is that of their bytes. Texts are compared by the code points of their
characters. In UTF-8 a larger code point begins with a larger byte, or with the same bytes up to a
larger one, so comparing the bytes gives the same answer at the first character that differs.
-/

namespace Retrieval.Text

def utf8 (s : String) : List UInt8 :=
  s.toUTF8.data.toList

theorem utf8_eq_flatMap (s : String) : utf8 s = s.toList.flatMap String.utf8EncodeChar := by
  rw [utf8, String.toUTF8_eq_toByteArray, ← String.utf8Encode_toList, List.utf8Encode]
  simp

theorem ofNat_lt_iff {a b : Nat} (ha : a < 256) (hb : b < 256) :
    UInt8.ofNat a < UInt8.ofNat b ↔ a < b := by
  rw [UInt8.lt_iff_toNat_lt, UInt8.toNat_ofNat_of_lt' ha, UInt8.toNat_ofNat_of_lt' hb]

theorem ofNat_eq_iff {a b : Nat} (ha : a < 256) (hb : b < 256) :
    UInt8.ofNat a = UInt8.ofNat b ↔ a = b := by
  rw [← UInt8.toNat_inj, UInt8.toNat_ofNat_of_lt' ha, UInt8.toNat_ofNat_of_lt' hb]

/-- Code points of four bytes are compared digit by digit to the base 64. -/
theorem four_bytes_lt {v w : Nat} (h : v < w) (hw : w < 0x110000) :
    v / 262144 % 8 + 240 < w / 262144 % 8 + 240 ∨
      v / 262144 % 8 + 240 = w / 262144 % 8 + 240 ∧
        (v / 4096 % 64 + 128 < w / 4096 % 64 + 128 ∨
          v / 4096 % 64 + 128 = w / 4096 % 64 + 128 ∧
            (v / 64 % 64 + 128 < w / 64 % 64 + 128 ∨
              v / 64 % 64 + 128 = w / 64 % 64 + 128 ∧ v % 64 + 128 < w % 64 + 128)) := by
  have hfirst : v / 262144 ≤ w / 262144 := Nat.div_le_div_right (Nat.le_of_lt h)
  have hsecond : v / 4096 ≤ w / 4096 := Nat.div_le_div_right (Nat.le_of_lt h)
  have hthird : v / 64 ≤ w / 64 := Nat.div_le_div_right (Nat.le_of_lt h)
  have hbound : w / 262144 < 8 := by omega
  obtain hfirst | hfirst := Nat.lt_or_eq_of_le hfirst
  · omega
  · obtain hsecond | hsecond := Nat.lt_or_eq_of_le hsecond
    · omega
    · obtain hthird | hthird := Nat.lt_or_eq_of_le hthird
      · omega
      · omega

/-- The bytes of a smaller character come first, whatever follows them. -/
theorem utf8EncodeChar_append_lt {c d : Char} (h : c < d) (cs ds : List UInt8) :
    String.utf8EncodeChar c ++ cs < String.utf8EncodeChar d ++ ds := by
  have hlt : c.val.toNat < d.val.toNat := h
  have hbound : d.val.toNat < 0x110000 := by
    have := d.valid
    simp only [UInt32.isValidChar, Nat.isValidChar] at this
    omega
  have hfour := four_bytes_lt hlt hbound
  simp only [String.utf8EncodeChar]
  -- Each of the characters takes one byte up to four, and the larger one not fewer.
  split <;> split
  all_goals repeat' split
  all_goals
    simp (disch := omega) only [List.cons_append, List.nil_append, List.cons_lt_cons_iff,
      ofNat_lt_iff, ofNat_eq_iff]
    omega

theorem flatMap_utf8EncodeChar_lt {cs ds : List Char} (h : cs < ds) :
    cs.flatMap String.utf8EncodeChar < ds.flatMap String.utf8EncodeChar := by
  induction cs generalizing ds with
  | nil =>
      cases ds with
      | nil => exact absurd h (List.lt_irrefl _)
      | cons d ds =>
          obtain ⟨byte, bytes, hbytes⟩ :=
            List.exists_cons_of_ne_nil (@String.utf8EncodeChar_ne_nil d)
          rw [List.flatMap_cons, hbytes]
          exact List.nil_lt_cons _ _
  | cons c cs ih =>
      cases ds with
      | nil => exact absurd h (List.not_lt_nil _)
      | cons d ds =>
          rw [List.flatMap_cons, List.flatMap_cons]
          obtain hlt | ⟨rfl, hrest⟩ := List.cons_lt_cons_iff.mp h
          · exact utf8EncodeChar_append_lt hlt _ _
          · exact List.append_left_lt (ih hrest)

/-- Texts are in the order of their bytes. -/
theorem utf8_lt_utf8_iff {s t : String} : utf8 s < utf8 t ↔ s < t := by
  have hlt : ∀ {s t : String}, s < t → utf8 s < utf8 t := by
    intro s t h
    rw [utf8_eq_flatMap, utf8_eq_flatMap]
    exact flatMap_utf8EncodeChar_lt (String.lt_iff.mp h)
  refine ⟨fun h => ?_, hlt⟩
  obtain hst | rfl | hts := Std.lt_trichotomy s t
  · exact hst
  · exact absurd h (List.lt_irrefl _)
  · exact absurd (hlt hts) (List.lt_asymm h)

end Retrieval.Text
