import Retrieval.Proofs.Query.Progress

/-!
Numbers behind their signs. Behind the sign of a weight or of a window the characters up to the next
white space or closing brace make up a run. A weight takes the whole run or is refused with the
whole run, and a window leaves at most a weight behind its digits. The readers try to read a number
first and look at the run only if that fails, but a number ends inside the run or with it, so the
run alone decides.
-/

namespace Retrieval

/-! ### Numerals -/

namespace Decimal

/-- Digits with at most one point among them, and at least one digit. -/
structure IsNumeral (cs : List Char) : Prop where
  digit_or_point : ∀ c ∈ cs, c.isDigit ∨ c = '.'
  count_point : cs.count '.' ≤ 1
  exists_digit : ∃ c ∈ cs, c.isDigit

/-- The double that is read from a numeral: its digits as a whole number, divided by ten for every
digit behind the point. -/
def value (cs : List Char) : Float :=
  Float.ofScientific (Nat.ofDigitChars 10 (cs.filter Char.isDigit) 0) true
    (cs.dropWhile (· != '.')).tail.length

section

variable {numeral : Numeral}

theorem point_not_mem {cs : List Char} (h : ∀ c ∈ cs, c.isDigit) : '.' ∉ cs :=
  fun hmem => absurd (h '.' hmem) (by decide)

theorem Numeral.IsDigits.value?_eq (h : numeral.IsDigits) :
    numeral.value? =
      if (numeral.whole ++ numeral.fraction).isEmpty then none else some (value numeral.chars) := by
  obtain ⟨whole, point, fraction⟩ := numeral
  obtain ⟨hwhole, hfraction, hpoint⟩ := h
  have hstops : ∀ c ∈ whole, (c != '.') = true := by
    rintro c hc
    rw [bne_iff_ne]
    rintro rfl
    exact point_not_mem hwhole hc
  cases point with
  | true =>
      have hdrop : (whole ++ '.' :: fraction).dropWhile (· != '.') = '.' :: fraction :=
        Text.dropWhile_run hstops (Text.stops_cons rfl)
      have hdigits : (whole ++ '.' :: fraction).filter Char.isDigit = whole ++ fraction := by
        rw [List.filter_append, List.filter_cons_of_neg (by decide),
          List.filter_eq_self.mpr hwhole, List.filter_eq_self.mpr hfraction]
      simp only [value?, chars, if_true, value, hdrop, hdigits, List.tail_cons]
  | false =>
      obtain rfl : fraction = [] := hpoint rfl
      have hdrop : whole.dropWhile (· != '.') = [] := List.dropWhile_eq_nil_iff.mpr hstops
      simp [value?, chars, value, hdrop, List.filter_eq_self.mpr hwhole]

theorem Numeral.IsDigits.mem_chars (h : numeral.IsDigits) {c : Char}
    (hc : c ∈ numeral.whole ++ numeral.fraction) : c ∈ numeral.chars := by
  obtain ⟨whole, point, fraction⟩ := numeral
  cases point with
  | true => simpa [chars] using (List.mem_append.mp hc).imp id .inr
  | false =>
      obtain rfl : fraction = [] := h.point rfl
      exact hc

theorem Numeral.IsDigits.isNumeral (h : numeral.IsDigits)
    (hne : numeral.whole ++ numeral.fraction ≠ []) : IsNumeral numeral.chars where
  digit_or_point c hc := by
    simpa [inNumeral] using h.inNumeral_of_mem_chars hc
  count_point := by
    have hwhole := List.count_eq_zero.mpr (point_not_mem h.whole)
    have hfraction := List.count_eq_zero.mpr (point_not_mem h.fraction)
    rw [chars, List.count_append, hwhole]
    split
    · rw [List.count_cons_self, hfraction]
    · exact Nat.zero_le 1
  exists_digit := by
    obtain ⟨c, hc⟩ := List.exists_mem_of_ne_nil _ hne
    refine ⟨c, h.mem_chars hc, ?_⟩
    obtain hc | hc := List.mem_append.mp hc
    · exact h.whole c hc
    · exact h.fraction c hc

/-- The only point cuts a numeral into the digits before it and those behind it. -/
theorem IsNumeral.exists_numeral {cs : List Char} (h : IsNumeral cs) :
    ∃ numeral : Numeral, numeral.IsDigits ∧ numeral.chars = cs ∧
      numeral.whole ++ numeral.fraction ≠ [] := by
  obtain ⟨hchars, hcount, d, hd, hdigit⟩ := h
  have hdigits : ∀ part ⊆ cs, '.' ∉ part → ∀ c ∈ part, c.isDigit := by
    intro part hsub hpoint c hc
    obtain h | rfl := hchars c (hsub hc)
    · exact h
    · exact absurd hc hpoint
  by_cases hpoint : '.' ∈ cs
  · obtain ⟨whole, fraction, rfl⟩ := List.append_of_mem hpoint
    rw [List.count_append, List.count_cons_self] at hcount
    have hwhole : '.' ∉ whole := List.count_eq_zero.mp (by omega)
    have hfraction : '.' ∉ fraction := List.count_eq_zero.mp (by omega)
    refine ⟨⟨whole, true, fraction⟩, ⟨hdigits whole (by simp) hwhole,
      hdigits fraction (by simp) hfraction, nofun⟩, rfl, ?_⟩
    intro hnil
    obtain ⟨rfl, rfl⟩ := List.append_eq_nil_iff.mp hnil
    rw [List.mem_singleton.mp hd] at hdigit
    cases hdigit
  · refine ⟨⟨cs, false, []⟩, ⟨hdigits cs (List.Subset.refl cs) hpoint, List.forall_mem_nil _,
      fun _ => rfl⟩, List.append_nil cs, ?_⟩
    rw [List.append_nil]
    exact List.ne_nil_of_mem hd

/-- A text is read as a number if it is a numeral, and only then. -/
theorem read?_iff {cs : List Char} {w : Float} :
    read? cs = some w ↔ IsNumeral cs ∧ value cs = w := by
  rw [read?_eq_some_iff]
  constructor
  · rintro ⟨numeral, hscan, hvalue⟩
    have hdigits : numeral.IsDigits := by
      have h := Numeral.isDigits_scan cs
      rwa [hscan] at h
    have hchars : numeral.chars = cs := by
      have h := Lexeme.chars_append_rest_scan cs
      rwa [hscan, List.append_nil] at h
    rw [hdigits.value?_eq, Option.ite_none_left_eq_some, List.isEmpty_iff, Option.some.injEq]
      at hvalue
    obtain ⟨hne, rfl⟩ := hvalue
    rw [← hchars]
    exact ⟨hdigits.isNumeral hne, rfl⟩
  · rintro ⟨hnumeral, rfl⟩
    obtain ⟨numeral, hdigits, rfl, hne⟩ := hnumeral.exists_numeral
    refine ⟨numeral, hdigits.scan_chars, ?_⟩
    rw [hdigits.value?_eq, if_neg (by simpa using hne)]

end

end Decimal

/-! ### Runs -/

theorem Text.isEmpty_takeWhile (p : Char → Bool) (cs : List Char) :
    (cs.takeWhile p).isEmpty = !cs.head?.any p := by
  cases cs with
  | nil => rfl
  | cons c cs => rcases hc : p c with _ | _ <;> simp [hc]

structure IsRun (run rest : List Char) : Prop where
  inside : ∀ c ∈ run, Text.isBlank c = false ∧ c ≠ '}'
  ends : ∀ c ∈ rest.head?, Text.isBlank c ∨ c = '}'

/-- Whether a run begins with the size of a window: with at least one digit, and behind all its
digits it ends or a weight follows. -/
structure BeginsWindow (run : List Char) : Prop where
  ne_nil : run.takeWhile Char.isDigit ≠ []
  lt : Nat.ofDigitChars 10 (run.takeWhile Char.isDigit) 0 < 2 ^ 32
  ends : ∀ c ∈ (run.dropWhile Char.isDigit).head?, c = '^'

def weightFault (run : List Char) : LexFault :=
  if run.head?.any Decimal.inNumeral then .invalidWeight (String.ofList run) else .missingWeight

def windowFault (run : List Char) : LexFault :=
  if run.head?.any Char.isDigit then .invalidWindow (String.ofList run) else .missingWindow

section

variable {run rest : List Char}

namespace IsRun

theorem inRun (h : IsRun run rest) : ∀ c ∈ run, Lexeme.inRun c := by
  intro c hc
  obtain ⟨hblank, hbrace⟩ := h.inside c hc
  simp [Lexeme.inRun, hblank, hbrace]

theorem stops (h : IsRun run rest) {p : Char → Bool} (hblank : ∀ c, Text.isBlank c → p c = false)
    (hbrace : p '}' = false) : Text.Stops p rest := by
  intro c hc
  obtain hc | rfl := h.ends c hc
  · exact hblank c hc
  · exact hbrace

theorem stops_inRun (h : IsRun run rest) : Text.Stops Lexeme.inRun rest :=
  h.stops (fun c hc => by simp [Lexeme.inRun, hc]) rfl

theorem stops_inNumeral (h : IsRun run rest) : Text.Stops Decimal.inNumeral rest :=
  h.stops (fun _ => inNumeral_of_isBlank) rfl

theorem stops_isDigit (h : IsRun run rest) : Text.Stops Char.isDigit rest :=
  h.stops (fun _ => isDigit_of_isBlank) rfl

end IsRun

namespace Lexeme

/-- A malformed number is refused with its run. -/
theorem malformed_run (h : IsRun run rest) (sign : Char) (fault : String → LexFault) :
    malformed sign fault (run ++ rest) =
      ⟨sign :: run, .error (fault (String.ofList run)), rest⟩ := by
  rw [malformed, Text.takeWhile_run h.inRun h.stops_inRun, Text.dropWhile_run h.inRun h.stops_inRun]

theorem isEmpty_chars_scan (cs : List Char) :
    (Decimal.Numeral.scan cs).1.chars.isEmpty = !cs.head?.any Decimal.inNumeral := by
  cases cs with
  | nil => rfl
  | cons c cs =>
      by_cases hdigit : c.isDigit
      · simp only [Decimal.Numeral.scan, List.takeWhile_cons, List.dropWhile_cons, hdigit, if_true]
        split <;> simp [Decimal.Numeral.chars, Decimal.inNumeral, hdigit]
      · by_cases hpoint : c = '.'
        · subst hpoint
          rfl
        · simp [Decimal.Numeral.scan, Decimal.Numeral.chars, Decimal.inNumeral, hdigit, hpoint]

/-- A number ends with its run if it may end before what is left of the run. -/
theorem atBoundary_run (h : IsRun run rest) (follows : Char → Bool) (hbrace : follows '}')
    {left : List Char} (hleft : left ⊆ run) :
    atBoundary follows (left ++ rest) = left.head?.all follows := by
  cases left with
  | nil =>
      refine atBoundary_of_stops (h.stops (fun c hc => ?_) ?_)
      · rw [Text.isSolid_eq_false_iff.mpr hc, Bool.false_and]
      · rw [hbrace, Bool.not_true, Bool.and_false]
  | cons c left =>
      have hblank := (h.inside c (hleft List.mem_cons_self)).1
      simp [atBoundary, hblank]

theorem weight_of_isNumeral (h : IsRun run rest) (hnumeral : Decimal.IsNumeral run) :
    weight (run ++ rest) = ⟨'^' :: run, .ok (some (.weight (Decimal.value run))), rest⟩ := by
  have hread : Decimal.read? run = some (Decimal.value run) :=
    Decimal.read?_iff.mpr ⟨hnumeral, rfl⟩
  obtain ⟨numeral, hscan, hvalue⟩ := Decimal.read?_eq_some_iff.mp hread
  have hchars : numeral.chars = run := by
    have happend := chars_append_rest_scan run
    rwa [hscan, List.append_nil] at happend
  have hne : run.isEmpty = false := by
    obtain ⟨c, hc, -⟩ := hnumeral.exists_digit
    exact List.isEmpty_eq_false_iff.mpr (List.ne_nil_of_mem hc)
  have hends := atBoundary_run h (· == '}') rfl (List.nil_subset run)
  simp only [weight, Decimal.Numeral.scan_append h.stops_inNumeral, hscan, hchars, hne, hvalue,
    hends]
  rfl

theorem weight_of_not_isNumeral (h : IsRun run rest) (hnumeral : ¬ Decimal.IsNumeral run) :
    weight (run ++ rest) = ⟨'^' :: run, .error (weightFault run), rest⟩ := by
  have hempty := isEmpty_chars_scan run
  have happend := chars_append_rest_scan run
  simp only [weight, Decimal.Numeral.scan_append h.stops_inNumeral]
  rcases hscan : Decimal.Numeral.scan run with ⟨numeral, left⟩
  rw [hscan] at hempty happend
  rw [hempty, weightFault]
  rcases hhead : run.head?.any Decimal.inNumeral with _ | _
  · exact malformed_run h '^' fun _ => .missingWeight
  · simp only [Bool.not_true, Bool.false_eq_true, if_false, if_true]
    split
    · rename_i factor hvalue
      -- A number was read, so something is left of the run, and no number ends before it.
      rcases left with _ | ⟨c, left⟩
      · have hread := Decimal.read?_eq_some_iff.mpr ⟨numeral, hscan, hvalue⟩
        exact absurd (Decimal.read?_iff.mp hread).1 hnumeral
      · have hleft : c :: left ⊆ run := happend ▸ List.subset_append_right _ _
        have hbrace := (h.inside c (hleft List.mem_cons_self)).2
        rw [atBoundary_run h _ rfl hleft]
        simp [hbrace, malformed_run h]
    · exact malformed_run h '^' _

/-- The size of a window may be read if the run begins with one. -/
theorem beginsWindow_iff (h : IsRun run rest) :
    BeginsWindow run ↔ run.head?.any Char.isDigit ∧
      (Nat.ofDigitChars 10 (run.takeWhile Char.isDigit) 0 < windowLimit &&
        atBoundary (fun c => c == '}' || c == '^') (run.dropWhile Char.isDigit ++ rest)) := by
  have hleft : run.dropWhile Char.isDigit ⊆ run := (List.dropWhile_sublist _).subset
  have hends : (run.dropWhile Char.isDigit).head?.all (fun c => c == '}' || c == '^') ↔
      ∀ c ∈ (run.dropWhile Char.isDigit).head?, c = '^' := by
    rw [Option.all_eq_true]
    refine forall₂_congr fun c hc => ?_
    have hbrace := (h.inside c (hleft (List.mem_of_mem_head? hc))).2
    simp [hbrace]
  have hempty := Text.isEmpty_takeWhile Char.isDigit run
  have hne : run.takeWhile Char.isDigit ≠ [] ↔ run.head?.any Char.isDigit := by
    rw [ne_eq, ← List.isEmpty_iff, hempty, Bool.not_eq_true', Bool.not_eq_false]
  rw [atBoundary_run h _ rfl hleft, Bool.and_eq_true, hends, decide_eq_true_iff, ← hne]
  constructor
  · rintro ⟨hne, hlt, hends⟩
    exact ⟨hne, hlt, hends⟩
  · rintro ⟨hne, hlt, hends⟩
    exact ⟨hne, hlt, hends⟩

theorem window_of_beginsWindow (h : IsRun run rest) (hwindow : BeginsWindow run) :
    window (run ++ rest) =
      ⟨'~' :: run.takeWhile Char.isDigit,
        .ok (some (.window (Nat.ofDigitChars 10 (run.takeWhile Char.isDigit) 0))),
        run.dropWhile Char.isDigit ++ rest⟩ := by
  obtain ⟨hhead, hsize⟩ := (beginsWindow_iff h).mp hwindow
  simp only [window, Text.takeWhile_append_of_stops h.stops_isDigit,
    Text.dropWhile_append_of_stops h.stops_isDigit, Text.isEmpty_takeWhile, hhead, hsize]
  rfl

theorem window_of_not_beginsWindow (h : IsRun run rest) (hwindow : ¬ BeginsWindow run) :
    window (run ++ rest) = ⟨'~' :: run, .error (windowFault run), rest⟩ := by
  rw [beginsWindow_iff h] at hwindow
  simp only [window, Text.takeWhile_append_of_stops h.stops_isDigit,
    Text.dropWhile_append_of_stops h.stops_isDigit, Text.isEmpty_takeWhile, windowFault]
  rcases hhead : run.head?.any Char.isDigit with _ | _
  · exact malformed_run h '~' fun _ => .missingWindow
  · simp only [Bool.not_true, Bool.false_eq_true, if_false, if_true]
    rw [if_neg fun hsize => hwindow ⟨hhead, hsize⟩]
    exact malformed_run h '~' .invalidWindow

end Lexeme

end

/-! ### Weights and windows -/

section

variable {text : String} {tokens : List Located} {position : Nat} {run rest : List Char}

/-- Wherever reading comes to the sign of a number, the run behind the sign decides. A weight is
read if the run is a numeral, and takes all of it. A window is read if the run begins with its size,
and takes the digits. Else the text cannot be read, for a fault whose span is that of the sign and
the run. -/
theorem ReadTo.weight_and_window (hrun : IsRun run rest) :
    (ReadTo text.toList tokens position ('^' :: (run ++ rest)) →
      let span : Span := ⟨position, position + Text.byteSize ('^' :: run)⟩
      span.Holds 0 text.toList ('^' :: run) ∧
      (Decimal.IsNumeral run → locate 0 text.toList = (locate span.stop rest).map fun after =>
        tokens ++ ⟨.weight (Decimal.value run), span⟩ :: after) ∧
      (¬ Decimal.IsNumeral run → locateTokens text = .error ⟨weightFault run, span, text⟩)) ∧
    (ReadTo text.toList tokens position ('~' :: (run ++ rest)) →
      let digits := run.takeWhile Char.isDigit
      let taken : Span := ⟨position, position + Text.byteSize ('~' :: digits)⟩
      let span : Span := ⟨position, position + Text.byteSize ('~' :: run)⟩
      span.Holds 0 text.toList ('~' :: run) ∧
      (BeginsWindow run → locate 0 text.toList =
        (locate taken.stop (run.dropWhile Char.isDigit ++ rest)).map fun after =>
          tokens ++ ⟨.window (Nat.ofDigitChars 10 digits 0), taken⟩ :: after) ∧
      (¬ BeginsWindow run → locateTokens text = .error ⟨windowFault run, span, text⟩)) := by
  refine ⟨fun h => ?_, fun h => ?_⟩
  · have hsign : ReadTo text.toList tokens position (('^' :: run) ++ rest) := h
    refine ⟨hsign.holds, fun hnumeral => ?_, fun hnumeral => ?_⟩
    · exact h.locate_of_token rfl (Lexeme.weight_of_isNumeral hrun hnumeral)
    · exact h.locateTokens_of_fault rfl (Lexeme.weight_of_not_isNumeral hrun hnumeral)
  · have hsign : ReadTo text.toList tokens position (('~' :: run) ++ rest) := h
    refine ⟨hsign.holds, fun hwindow => ?_, fun hwindow => ?_⟩
    · exact h.locate_of_token rfl (Lexeme.window_of_beginsWindow hrun hwindow)
    · exact h.locateTokens_of_fault rfl (Lexeme.window_of_not_beginsWindow hrun hwindow)

end

/-- A window with a weight behind it, and a weight with two points that ends at a brace. -/
theorem ReadTo.weight_and_window_two_points :
    let text := "\"a b\"~08^.5 ü^1.2.3é\x7d"
    locate 0 text.toList =
      (locate 8 ['^', '.', '5', ' ', 'ü', '^', '1', '.', '2', '.', '3', 'é', '}']).map
        (fun after => [⟨.phrase "a b", ⟨0, 5⟩⟩] ++ ⟨.window 8, ⟨5, 8⟩⟩ :: after) ∧
    locateTokens text = .error ⟨.invalidWeight "1.2.3é", ⟨14, 22⟩, text⟩ := by
  intro text
  have htext : text.toList =
      ['"', 'a', ' ', 'b', '"', '~', '0', '8', '^', '.', '5', ' ', 'ü', '^', '1', '.', '2', '.',
        '3', 'é', '}'] := by
    decide
  have hstart : ReadTo text.toList [] 0 ['"', 'a', ' ', 'b', '"', '~', '0', '8', '^', '.', '5', ' ',
      'ü', '^', '1', '.', '2', '.', '3', 'é', '}'] := htext ▸ .start
  have hphrase : ReadTo text.toList [⟨.phrase "a b", ⟨0, 5⟩⟩] 5 ['~', '0', '8', '^', '.', '5', ' ',
      'ü', '^', '1', '.', '2', '.', '3', 'é', '}'] := hstart.token rfl rfl
  have hwindow : ReadTo text.toList [⟨.phrase "a b", ⟨0, 5⟩⟩, ⟨.window 8, ⟨5, 8⟩⟩] 8
      ['^', '.', '5', ' ', 'ü', '^', '1', '.', '2', '.', '3', 'é', '}'] := hphrase.token rfl rfl
  have hweight : ReadTo text.toList [⟨.phrase "a b", ⟨0, 5⟩⟩, ⟨.window 8, ⟨5, 8⟩⟩,
      ⟨.weight (Decimal.value ['.', '5']), ⟨8, 11⟩⟩] 11
      [' ', 'ü', '^', '1', '.', '2', '.', '3', 'é', '}'] := hwindow.token rfl rfl
  have hterm : ReadTo text.toList [⟨.phrase "a b", ⟨0, 5⟩⟩, ⟨.window 8, ⟨5, 8⟩⟩,
      ⟨.weight (Decimal.value ['.', '5']), ⟨8, 11⟩⟩, ⟨.term "ü", ⟨12, 14⟩⟩] 14
      ['^', '1', '.', '2', '.', '3', 'é', '}'] := (hweight.blank rfl).token rfl rfl
  have hrun : IsRun ['0', '8', '^', '.', '5']
      [' ', 'ü', '^', '1', '.', '2', '.', '3', 'é', '}'] :=
    ⟨by simp [Text.isBlank], by simp [Text.isBlank]⟩
  have hsize : BeginsWindow ['0', '8', '^', '.', '5'] :=
    ⟨by decide, by decide, by simp⟩
  have hrun' : IsRun ['1', '.', '2', '.', '3', 'é'] ['}'] :=
    ⟨by simp [Text.isBlank], by simp [Text.isBlank]⟩
  have hpoints : ¬ Decimal.IsNumeral ['1', '.', '2', '.', '3', 'é'] :=
    fun h => absurd h.count_point (by decide)
  exact ⟨((ReadTo.weight_and_window hrun).2 hphrase).2.1 hsize,
    ((ReadTo.weight_and_window hrun').1 hterm).2.2 hpoints⟩

end Retrieval
