import Retrieval.Text.Bytes

/-!
Slices of a text. Two boundaries in order always cut a slice out of a text, and the slice is as long
as the positions are apart.
-/

namespace Retrieval.Text

/-- Whether a byte position lies between two characters of a text, or at one of its ends. -/
def IsBoundary (cs : List Char) (position : Nat) : Prop :=
  ∃ before after, cs = before ++ after ∧ byteSize before = position

theorem byteSize_pos {cs : List Char} (h : cs ≠ []) : 0 < byteSize cs := by
  cases cs with
  | nil => exact absurd rfl h
  | cons c cs =>
      rw [byteSize_cons]
      exact Nat.add_pos_left c.utf8Size_pos _

theorem length_le_byteSize (cs : List Char) : cs.length ≤ byteSize cs := by
  induction cs with
  | nil => exact Nat.le_refl 0
  | cons c cs ih =>
      have hpos := c.utf8Size_pos
      rw [List.length_cons, byteSize_cons]
      omega

/-- Bytes and characters are counted alike if no character takes more than one byte. -/
theorem byteSize_eq_length_iff {cs : List Char} :
    byteSize cs = cs.length ↔ ∀ c ∈ cs, c.utf8Size = 1 := by
  induction cs with
  | nil => simp
  | cons c cs ih =>
      have hpos := c.utf8Size_pos
      have hle := length_le_byteSize cs
      rw [List.forall_mem_cons, ← ih, byteSize_cons, List.length_cons]
      omega

theorem IsBoundary.le {cs : List Char} {position : Nat} (h : IsBoundary cs position) :
    position ≤ byteSize cs := by
  obtain ⟨before, after, rfl, rfl⟩ := h
  rw [byteSize_append]
  exact Nat.le_add_right ..

/-- The characters between two boundaries. -/
theorem IsBoundary.exists_part {cs : List Char} {start stop : Nat} (hstart : IsBoundary cs start)
    (hstop : IsBoundary cs stop) (hle : start ≤ stop) :
    ∃ before part after, cs = before ++ (part ++ after) ∧ byteSize before = start ∧
      start + byteSize part = stop := by
  obtain ⟨before, after, rfl, rfl⟩ := hstart
  obtain ⟨before', after', hcs, rfl⟩ := hstop
  obtain ⟨part, rfl, rfl⟩ | ⟨part, rfl, rfl⟩ := List.append_eq_append_iff.mp hcs
  · exact ⟨before, part, after', rfl, rfl, (byteSize_append ..).symm⟩
  · -- The first boundary would be behind the second one, unless they are the same.
    rw [byteSize_append] at hle
    have hpart : byteSize part = 0 := by omega
    refine ⟨before' ++ part, [], after, rfl, rfl, ?_⟩
    rw [byteSize_append, hpart]
    rfl

/-- The slice between two boundaries. -/
theorem IsBoundary.exists_substring {text : String} {start stop : Nat}
    (hstart : IsBoundary text.toList start) (hstop : IsBoundary text.toList stop)
    (hle : start ≤ stop) :
    ∃ part, substring start stop text = some part ∧ start + byteSize part.toList = stop := by
  obtain ⟨before, part, after, hcs, rfl, rfl⟩ := hstart.exists_part hstop hle
  refine ⟨String.ofList part, ?_, by rw [String.toList_ofList]⟩
  rw [substring, hcs, slice_append, Option.map_some]

theorem prefix_of_takeBytes {size : Nat} {cs part : List Char} (h : takeBytes size cs = some part) :
    part <+: cs := by
  fun_induction takeBytes size cs generalizing part with
  | case1 =>
      cases h
      exact List.nil_prefix
  | case2 => cases h
  | case3 size c cs hle ih =>
      obtain ⟨rest, hrest, rfl⟩ := Option.map_eq_some_iff.mp h
      exact (List.prefix_cons_inj c).mpr (ih hrest)
  | case4 => cases h

/-- A slice lies at the beginning of what follows its first position. -/
theorem prefix_of_substring {text part : String} {before after : List Char} {stop : Nat}
    (htext : text.toList = before ++ after)
    (h : substring (byteSize before) stop text = some part) : part.toList <+: after := by
  obtain ⟨cs, hcs, rfl⟩ := Option.map_eq_some_iff.mp h
  rw [slice, htext, dropBytes_append, Option.ite_none_right_eq_some] at hcs
  rw [String.toList_ofList]
  exact prefix_of_takeBytes hcs.2

end Retrieval.Text
