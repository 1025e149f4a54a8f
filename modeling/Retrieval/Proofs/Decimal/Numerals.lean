import Retrieval.Decimal.Positional
import Retrieval.Proofs.Decimal.Double
import Retrieval.Proofs.Text.Words

/-!
Numerals in a text. A finite number without a minus sign is written with digits and a point only,
so it is read as a numeral, and its numeral ends before any other character.
-/

namespace Retrieval.Decimal

def inNumeral (c : Char) : Bool :=
  c.isDigit || c == '.'

theorem inNumeral_of_isDigit {c : Char} (h : c.isDigit) : inNumeral c := by
  rw [inNumeral, h]
  rfl

/-! ### What is written -/

theorem inNumeral_of_mem_toDigits {c : Char} {n : Nat} (h : c ∈ Nat.toDigits 10 n) :
    inNumeral c :=
  inNumeral_of_isDigit (Nat.isDigit_of_mem_toDigits (by decide) (by decide) h)

theorem inNumeral_of_mem_zeros {c : Char} {n : Nat} (h : c ∈ List.replicate n '0') :
    inNumeral c := by
  rw [List.eq_of_mem_replicate h]
  rfl

theorem inNumeral_of_mem_positional {number : Scaled} {c : Char} (h : c ∈ number.positional) :
    inNumeral c := by
  unfold Scaled.positional at h
  split at h
  · obtain h | h := List.mem_append.mp h
    · exact inNumeral_of_mem_toDigits h
    · exact inNumeral_of_mem_zeros h
  · have hpadded : ∀ d ∈ List.replicate ((-number.exponent).toNat + 1 -
        (Nat.toDigits 10 number.digits).length) '0' ++ Nat.toDigits 10 number.digits,
        inNumeral d := by
      intro d hd
      obtain hd | hd := List.mem_append.mp hd
      · exact inNumeral_of_mem_zeros hd
      · exact inNumeral_of_mem_toDigits hd
    obtain h | h := List.mem_append.mp h
    · exact hpadded c (List.mem_of_mem_take h)
    · obtain rfl | h := List.mem_cons.mp h
      · rfl
      · exact hpadded c (List.mem_of_mem_drop h)

theorem inNumeral_of_mem_magnitude {biased fraction : Nat} (hbiased : biased ≠ 2047) {c : Char}
    (h : c ∈ magnitude biased fraction) : inNumeral c := by
  rw [magnitude, if_neg hbiased] at h
  split at h
  · split at h
    · rw [List.mem_singleton.mp h]
      rfl
    · exact inNumeral_of_mem_positional h
  · exact inNumeral_of_mem_positional h

/-- A finite number without a minus sign is written as a numeral. -/
theorem inNumeral_of_mem_write {w : Float} (hfinite : w.isFinite)
    (hsign : w.toBits.toNat < 2 ^ 63) {c : Char} (h : c ∈ (write w).toList) : inNumeral c := by
  have hpositive : w.toBits.toNat / 2 ^ 63 = 0 := Nat.div_eq_of_lt hsign
  rw [write, if_pos (.inl hpositive), String.toList_ofList] at h
  exact inNumeral_of_mem_magnitude (Double.biased_ne_of_isFinite hfinite) h

/-! ### What is read -/

theorem parse?_eq_read? {text : String} (h : ∀ c ∈ text.toList, inNumeral c) :
    parse? text = read? text.toList := by
  unfold parse?
  split
  · rename_i htext
    rw [htext] at h
    exact absurd (h 'N' (by simp)) (by decide)
  · rename_i htext
    rw [htext] at h
    exact absurd (h 'i' (by simp)) (by decide)
  · rename_i htext
    rw [htext] at h
    exact absurd (h '-' (by simp)) (by decide)
  · rename_i htext
    rw [htext] at h
    exact absurd (h '-' (by simp)) (by decide)
  · rfl

theorem read?_eq_some_iff {cs : List Char} {w : Float} :
    read? cs = some w ↔ ∃ numeral, Numeral.scan cs = (numeral, []) ∧ numeral.value? = some w := by
  unfold read?
  split
  · rename_i numeral hscan
    simp [hscan]
  · rename_i hrest
    simp only [reduceCtorEq, false_iff]
    rintro ⟨numeral, hscan, -⟩
    exact hrest numeral hscan

theorem Numeral.scan_append {rest : List Char} (h : Text.Stops inNumeral rest) (cs : List Char) :
    Numeral.scan (cs ++ rest) = ((Numeral.scan cs).1, (Numeral.scan cs).2 ++ rest) := by
  have hdigit : Text.Stops Char.isDigit rest := by
    intro c hc
    have hc := h c hc
    rw [inNumeral, Bool.or_eq_false_iff] at hc
    exact hc.1
  have hpoint : ∀ after, rest ≠ '.' :: after := by
    rintro after rfl
    exact absurd (h '.' rfl) (by decide)
  simp only [Numeral.scan, Text.takeWhile_append_of_stops hdigit,
    Text.dropWhile_append_of_stops hdigit]
  -- Without digits to skip, the text itself decides whether there is a point: `hpoint`.
  cases hafter : cs.dropWhile Char.isDigit with
  | nil => simp
  | cons c after =>
      by_cases hc : c = '.'
      · rw [hc]
        simp [Text.takeWhile_append_of_stops hdigit, Text.dropWhile_append_of_stops hdigit]
      · simp [hc]

/-- A numeral with digits on both sides of its point, and none behind a point that is absent. -/
structure Numeral.IsDigits (numeral : Numeral) : Prop where
  whole : ∀ c ∈ numeral.whole, c.isDigit
  fraction : ∀ c ∈ numeral.fraction, c.isDigit
  point : numeral.point = false → numeral.fraction = []

theorem Numeral.isDigits_scan (cs : List Char) : (Numeral.scan cs).1.IsDigits := by
  simp only [Numeral.scan]
  split
  · exact ⟨fun _ => List.mem_takeWhile_imp, fun _ => List.mem_takeWhile_imp, nofun⟩
  · exact ⟨fun _ => List.mem_takeWhile_imp, List.forall_mem_nil _, fun _ => rfl⟩

section

variable {numeral : Numeral}

theorem Numeral.IsDigits.inNumeral_of_mem_chars (h : numeral.IsDigits) {c : Char}
    (hc : c ∈ numeral.chars) : inNumeral c := by
  obtain hc | hc := List.mem_append.mp hc
  · exact inNumeral_of_isDigit (h.whole c hc)
  · split at hc
    · obtain rfl | hc := List.mem_cons.mp hc
      · rfl
      · exact inNumeral_of_isDigit (h.fraction c hc)
    · cases hc

/-- A numeral is read from its own characters. -/
theorem Numeral.IsDigits.scan_chars (h : numeral.IsDigits) :
    Numeral.scan numeral.chars = (numeral, []) := by
  obtain ⟨whole, point, fraction⟩ := numeral
  obtain ⟨hwhole, hfraction, hpoint⟩ := h
  cases point with
  | true =>
      have hstops : Text.Stops Char.isDigit ('.' :: fraction) := Text.stops_cons rfl
      simp only [Numeral.chars, if_true, Numeral.scan, Text.takeWhile_run hwhole hstops,
        Text.dropWhile_run hwhole hstops, List.takeWhile_eq_self_iff.mpr hfraction,
        List.dropWhile_eq_nil_iff.mpr hfraction]
  | false =>
      obtain rfl : fraction = [] := hpoint rfl
      simp [Numeral.chars, Numeral.scan, List.takeWhile_eq_self_iff.mpr hwhole,
        List.dropWhile_eq_nil_iff.mpr hwhole]

theorem Numeral.IsDigits.read?_chars (h : numeral.IsDigits) :
    read? numeral.chars = numeral.value? := by
  rw [read?, h.scan_chars]

end

/-- What is written before a text is read from its front. -/
theorem scan_write_append {w : Float} (hfinite : w.isFinite) (hsign : w.toBits.toNat < 2 ^ 63)
    (hread : parse? (write w) = some w) {rest : List Char} (h : Text.Stops inNumeral rest) :
    ∃ numeral, Numeral.scan ((write w).toList ++ rest) = (numeral, rest) ∧
      numeral.value? = some w := by
  rw [parse?_eq_read? fun c hc => inNumeral_of_mem_write hfinite hsign hc] at hread
  obtain ⟨numeral, hscan, hvalue⟩ := read?_eq_some_iff.mp hread
  refine ⟨numeral, ?_, hvalue⟩
  rw [Numeral.scan_append h, hscan, List.nil_append]

end Retrieval.Decimal
