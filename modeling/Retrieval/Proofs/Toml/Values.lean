import Retrieval.Proofs.Toml.Strings
import Retrieval.Toml.Reader

/-!
Values are read as they are written. A value is followed by the end of its line, so a number or a
boolean ends there, and an array ends with its bracket. The items of an array are strings, and what
stands between them are blanks and line breaks, which are skipped, and a comma.
-/

namespace Retrieval.Toml

variable {cs rest : List Char}

theorem reads_expect (c : Char) (rest : List Char) : Reads (expect c (c :: rest)) () rest := by
  rw [expect, if_pos rfl]
  exact ⟨_, rfl⟩

theorem expect_eq_none {c : Char} (h : cs.head? ≠ some c) : expect c cs = none := by
  cases cs with
  | nil => rfl
  | cons d cs => exact if_neg fun hd => h (by rw [hd]; rfl)

/-! ### Digits -/

theorem head?_toDigits_ne_zero {n : Nat} (h : 0 < n) : (Nat.toDigits 10 n).head? ≠ some '0' := by
  induction n using Nat.strongRecOn with
  | ind n ih =>
      by_cases hn : n < 10
      · rw [Nat.toDigits_of_lt_base hn]
        have hall : ∀ m < 10, 0 < m → [Nat.digitChar m].head? ≠ some '0' := by decide
        exact hall n hn h
      · rw [Nat.toDigits_of_base_le (by decide) (by omega),
          List.head?_append_of_ne_nil _ Nat.toDigits_ne_nil]
        exact ih (n / 10) (by omega) (by omega)

/-- A number is written without a zero in front. -/
theorem toDigits_ne_zero_cons (n : Nat) (c : Char) (digits : List Char) :
    Nat.toDigits 10 n ≠ '0' :: c :: digits := by
  intro h
  obtain rfl | hn := Nat.eq_zero_or_pos n
  · simp at h
  · exact head?_toDigits_ne_zero hn (by rw [h]; rfl)

theorem isDigit_of_mem_toDigits {n : Nat} {c : Char} (h : c ∈ Nat.toDigits 10 n) : c.isDigit :=
  Nat.isDigit_of_mem_toDigits (by decide) (by decide) h

/-- The digits of a number are not those of another base. -/
theorem toDigits_ne_of_mem {n : Nat} {c : Char} (hc : c.isDigit = false) (hcs : c ∈ cs) :
    Nat.toDigits 10 n ≠ cs := by
  rintro rfl
  exact Text.ne_of_kind (isDigit_of_mem_toDigits hcs) hc rfl

theorem underscoresFit_of_not_mem (isDigit : Char → Bool) (afterDigit : Bool) (h : '_' ∉ cs) :
    underscoresFit isDigit afterDigit cs := by
  induction cs generalizing afterDigit with
  | nil => rfl
  | cons c cs ih =>
      obtain ⟨hc, hcs⟩ := not_or.mp (mt List.mem_cons.mpr h)
      rw [underscoresFit, if_neg (Ne.symm hc)]
      exact ih _ hcs

theorem signedDecimal?_toDigits (n : Nat) :
    signedDecimal? (Nat.toDigits 10 n) = some (n : Int) := by
  have hall : (Nat.toDigits 10 n).all Char.isDigit :=
    List.all_eq_true.mpr fun _ => isDigit_of_mem_toDigits
  have hdecimal : decimal? (Nat.toDigits 10 n) = some n := by
    rw [decimal?, if_pos ⟨Nat.toDigits_ne_nil, hall⟩, Nat.ofDigitChars_ten_toDigits]
  unfold signedDecimal?
  split
  · exact absurd ‹_› (toDigits_ne_of_mem (c := '+') rfl (List.mem_cons_self ..))
  · exact absurd ‹_› (toDigits_ne_of_mem (c := '-') rfl (List.mem_cons_self ..))
  · rw [hdecimal]
    rfl

theorem decimalScalar?_toDigits (n : Nat) :
    decimalScalar? (Nat.toDigits 10 n) = some (.integer (some n)) := by
  have hsign : dropSign (Nat.toDigits 10 n) = Nat.toDigits 10 n := by
    unfold dropSign
    split
    · exact absurd ‹_› (toDigits_ne_of_mem (c := '+') rfl (List.mem_cons_self ..))
    · exact absurd ‹_› (toDigits_ne_of_mem (c := '-') rfl (List.mem_cons_self ..))
    · rfl
  have hrest : (Nat.toDigits 10 n).dropWhile Char.isDigit = [] :=
    List.dropWhile_eq_nil_iff.mpr fun _ => isDigit_of_mem_toDigits
  have hwords : ¬(Nat.toDigits 10 n = ['i', 'n', 'f'] ∨ Nat.toDigits 10 n = ['n', 'a', 'n']) :=
    not_or.mpr ⟨toDigits_ne_of_mem (c := 'i') rfl (List.mem_cons_self ..),
      toDigits_ne_of_mem (c := 'n') rfl (List.mem_cons_self ..)⟩
  have hunderscores : withoutUnderscores (Nat.toDigits 10 n) = Nat.toDigits 10 n := by
    refine List.filter_eq_self.mpr fun c hc => ?_
    simpa using ne_of_mem_of_not_mem hc Nat.underscore_not_in_toDigits
  unfold decimalScalar?
  simp only [hsign, hrest, hwords, hunderscores, if_false]
  rw [if_neg (by decide), if_neg (by decide), if_neg (by decide)]
  split
  · exact absurd ‹_› Nat.toDigits_ne_nil
  · exact absurd ‹_› (toDigits_ne_zero_cons n _ _)
  · rw [underscoresFit_of_not_mem _ _ Nat.underscore_not_in_toDigits, signedDecimal?_toDigits]
    rfl

theorem scalar?_toDigits (n : Nat) :
    scalar? (Nat.toDigits 10 n) = some (.integer (some n)) := by
  unfold scalar?
  split
  · exact absurd ‹_› (toDigits_ne_of_mem (c := 't') rfl (List.mem_cons_self ..))
  · exact absurd ‹_› (toDigits_ne_of_mem (c := 'f') rfl (List.mem_cons_self ..))
  · exact absurd ‹_› (toDigits_ne_zero_cons n _ _)
  · exact absurd ‹_› (toDigits_ne_zero_cons n _ _)
  · exact absurd ‹_› (toDigits_ne_zero_cons n _ _)
  · exact decimalScalar?_toDigits n

theorem beginsOrdinary_of_isDigit {c : Char} (h : c.isDigit) : beginsOrdinary c := by
  have hne : ∀ {mark : Char}, mark.isDigit = false → c ≠ mark := Text.ne_of_kind h
  simp [beginsOrdinary, isOrdinary, hne]

/-! ### Numbers and booleans -/

section

variable {run : List Char} {value : Value}

theorem scalarChars_run (hrun : ∀ c ∈ run, beginsOrdinary c) (rest : List Char) :
    scalarChars (run ++ '\n' :: rest) = run := by
  induction run with
  | nil =>
      rw [List.nil_append, scalarChars, if_neg (by simp [isOrdinary, isSpace])]
  | cons c run ih =>
      obtain ⟨hc, hrun⟩ := List.forall_mem_cons.mp hrun
      have hordinary : isOrdinary c := by
        simp only [beginsOrdinary, Bool.and_eq_true] at hc
        exact hc.1.1
      rw [List.cons_append, scalarChars, if_pos (by simp [hordinary]), ih hrun]

/-- A value without quotes or brackets ends with its line. -/
theorem reads_takeScalar (hrun : ∀ c ∈ run, beginsOrdinary c) (hvalue : scalar? run = some value)
    (rest : List Char) :
    Reads (takeScalar (run ++ '\n' :: rest)) value ('\n' :: rest) := by
  have hspelling := scalarChars_run hrun rest
  have hdrop : (run ++ '\n' :: rest).drop run.length = '\n' :: rest := List.drop_left
  have hne : ¬(run = [] ∨ run ++ '\n' :: rest = []) := by
    rintro (rfl | h)
    · cases hvalue
    · simp at h
  unfold takeScalar
  simp only [hspelling, hvalue, hdrop, dif_neg hne, Option.map_some]
  exact ⟨_, rfl⟩

theorem takeString_eq_none (h : Text.Stops isQuote cs) : takeString cs = none := by
  have hne : ∀ {mark : Char} {after : List Char}, isQuote mark → cs ≠ mark :: after := by
    rintro mark after hmark rfl
    exact Text.ne_of_kind hmark (h mark rfl) rfl
  rw [takeString]
  · exact fun _ => hne rfl
  · exact fun _ => hne rfl
  · exact fun _ => hne rfl
  · exact fun _ => hne rfl

theorem reads_takeValue_scalar (depth : Nat) (hrun : ∀ c ∈ run, beginsOrdinary c)
    (hvalue : scalar? run = some value) :
    Reads (takeValue depth (run ++ '\n' :: rest)) value ('\n' :: rest) := by
  have hne : run ≠ [] := by
    rintro rfl
    cases hvalue
  have hhead : ∀ c ∈ (run ++ '\n' :: rest).head?, beginsOrdinary c := by
    intro c hc
    rw [List.head?_append_of_ne_nil _ hne] at hc
    exact hrun c (List.mem_of_head? hc)
  have hopen : ∀ {mark : Char}, beginsOrdinary mark = false →
      expect mark (run ++ '\n' :: rest) = none := fun hmark =>
    expect_eq_none fun hmem => Text.ne_of_kind (hhead _ hmem) hmark rfl
  have hquotes : Text.Stops isQuote (run ++ '\n' :: rest) := by
    intro c hc
    have hordinary := hhead c hc
    simp only [beginsOrdinary, Bool.and_eq_true, bne_iff_ne] at hordinary
    simp [isQuote, hordinary.1.2, hordinary.2]
  obtain ⟨_, hscalar⟩ := reads_takeScalar hrun hvalue rest
  rw [takeValue, hopen rfl, hopen rfl, takeString_eq_none hquotes]
  exact ⟨_, hscalar⟩

end

/-! ### Strings and arrays -/

/-- A written string begins with a quote. -/
theorem exists_writeString (cs : List Char) :
    ∃ mark after, writeString cs = mark :: after ∧ isQuote mark := by
  obtain h | h | ⟨h, -⟩ | ⟨h, -⟩ := writeString_eq cs
  · exact ⟨'"', _, h, rfl⟩
  · exact ⟨'"', _, h, rfl⟩
  · exact ⟨'\'', _, h, rfl⟩
  · exact ⟨'\'', _, h, rfl⟩

theorem head?_writeString_append_ne (text rest : List Char) {mark : Char}
    (hmark : isQuote mark = false) : (writeString text ++ rest).head? ≠ some mark := by
  obtain ⟨quote, after, h, hquote⟩ := exists_writeString text
  rw [h, List.cons_append, List.head?_cons, ne_eq, Option.some.injEq]
  exact Text.ne_of_kind hquote hmark

theorem reads_takeValue_string (depth : Nat) (text : List Char)
    (hstops : Text.Stops isQuote rest) :
    Reads (takeValue depth (writeString text ++ rest)) (.string (String.ofList text)) rest := by
  obtain ⟨_, hstring⟩ := reads_writeString text hstops
  rw [takeValue, expect_eq_none (head?_writeString_append_ne text rest rfl),
    expect_eq_none (head?_writeString_append_ne text rest rfl), hstring]
  exact ⟨_, rfl⟩

/-- Whether a character begins what may stand between two statements or two items. -/
def beginsSkipped (c : Char) : Bool :=
  isSpace c || c == '#' || c == '\n' || c == '\r'

theorem isSpace_of_beginsSkipped {c : Char} (h : beginsSkipped c = false) : isSpace c = false := by
  simp only [beginsSkipped, Bool.or_eq_false_iff] at h
  exact h.1.1.1

theorem skipSpaces_of_stops (h : Text.Stops isSpace cs) : skipSpaces cs = cs :=
  Text.dropWhile_run (List.forall_mem_nil _) h

theorem skipLines_of_stops (h : Text.Stops beginsSkipped cs) : skipLines cs = cs := by
  have hspaces : skipSpaces cs = cs :=
    skipSpaces_of_stops fun c hc => isSpace_of_beginsSkipped (h c hc)
  have hcomment : skipComment cs = cs := by
    unfold skipComment
    split
    · exact absurd (h '#' rfl) (by decide)
    · rfl
  have hbreak : dropBreak? cs = none := by
    unfold dropBreak?
    split
    · exact absurd (h '\n' rfl) (by decide)
    · exact absurd (h '\r' rfl) (by decide)
    · rfl
  rw [skipLines, hspaces, hcomment, hbreak]

@[simp] theorem skipLines_cons_space (cs : List Char) : skipLines (' ' :: cs) = skipLines cs := by
  rw [skipLines, skipLines.eq_1 cs]
  rfl

@[simp] theorem skipLines_cons_break (cs : List Char) : skipLines ('\n' :: cs) = skipLines cs := by
  rw [skipLines]
  rfl

theorem skipLines_writeString (text rest : List Char) :
    skipLines (writeString text ++ rest) = writeString text ++ rest := by
  obtain ⟨mark, after, h, hmark⟩ := exists_writeString text
  refine skipLines_of_stops ?_
  rw [h, List.cons_append]
  refine Text.stops_cons ?_
  simp only [isQuote, Bool.or_eq_true, beq_iff_eq] at hmark
  obtain rfl | rfl := hmark <;> rfl

section

variable {depth : Nat} {before after : List Char} {text : List Char} {values : List Value}

theorem reads_takeItems_nil (h : skipLines before = ']' :: rest) :
    Reads (takeItems depth before) [] rest := by
  have hbracket : Reads (expect ']' (skipLines before)) () rest := by
    rw [h]
    exact reads_expect ']' rest
  obtain ⟨_, hbracket⟩ := hbracket
  rw [takeItems, hbracket]
  exact ⟨_, rfl⟩

/-- A string that is no bracket is an item. -/
theorem reads_item (depth : Nat) (h : skipLines before = writeString text ++ after)
    (hstops : Text.Stops isQuote after) :
    expect ']' (skipLines before) = none ∧
      Reads (takeValue depth (skipLines before)) (.string (String.ofList text)) after := by
  rw [h]
  exact ⟨expect_eq_none (head?_writeString_append_ne text after rfl),
    reads_takeValue_string depth text hstops⟩

theorem reads_takeItems_last (depth : Nat)
    (h : skipLines before = writeString text ++ ']' :: rest) :
    Reads (takeItems depth before) [.string (String.ofList text)] rest := by
  obtain ⟨hnone, _, hitem⟩ := reads_item depth h (Text.stops_cons rfl)
  have hlines : skipLines (']' :: rest) = ']' :: rest :=
    skipLines_of_stops (Text.stops_cons rfl)
  have hcomma : expect ',' (skipLines (']' :: rest)) = none := by
    rw [hlines]
    rfl
  have hbracket : Reads (expect ']' (skipLines (']' :: rest))) () rest := by
    rw [hlines]
    exact reads_expect ']' rest
  obtain ⟨_, hbracket⟩ := hbracket
  rw [takeItems, hnone]
  simp only [hitem, Option.bind_eq_bind, Option.bind_some, hcomma, hbracket]
  exact ⟨_, rfl⟩

theorem reads_takeItems_cons (h : skipLines before = writeString text ++ ',' :: after)
    (hitems : Reads (takeItems depth after) values rest) :
    Reads (takeItems depth before) (.string (String.ofList text) :: values) rest := by
  obtain ⟨hnone, _, hitem⟩ := reads_item depth h (Text.stops_cons rfl)
  have hlines : skipLines (',' :: after) = ',' :: after :=
    skipLines_of_stops (Text.stops_cons rfl)
  have hcomma : Reads (expect ',' (skipLines (',' :: after))) () after := by
    rw [hlines]
    exact reads_expect ',' after
  obtain ⟨_, hcomma⟩ := hcomma
  obtain ⟨_, hitems⟩ := hitems
  rw [takeItems, hnone]
  simp only [hitem, Option.bind_eq_bind, Option.bind_some, hcomma, hitems]
  exact ⟨_, rfl⟩

end

def writeLines (texts : List String) : List Char :=
  texts.flatMap fun text => [' ', ' ', ' ', ' '] ++ writeString text.toList ++ [',', '\n']

theorem reads_takeItems_writeLines (depth : Nat) (texts : List String) (rest : List Char) :
    Reads (takeItems depth ('\n' :: (writeLines texts ++ ']' :: rest)))
      (texts.map Value.string) rest := by
  induction texts with
  | nil =>
      refine reads_takeItems_nil ?_
      rw [skipLines_cons_break]
      exact skipLines_of_stops (Text.stops_cons rfl)
  | cons text texts ih =>
      have hline : skipLines ('\n' :: (writeLines (text :: texts) ++ ']' :: rest)) =
          writeString text.toList ++ ',' :: '\n' :: (writeLines texts ++ ']' :: rest) := by
        simp only [writeLines, List.flatMap_cons, List.append_assoc, List.cons_append,
          List.nil_append, skipLines_cons_break, skipLines_cons_space]
        exact skipLines_writeString _ _
      have hitems := reads_takeItems_cons hline ih
      rw [String.ofList_toList] at hitems
      exact hitems

theorem reads_takeValue_array {depth : Nat} {values : List Value} (hdepth : 0 < depth)
    (h : Reads (takeItems (depth - 1) cs) values rest) :
    Reads (takeValue depth ('[' :: cs)) (.array values) rest := by
  obtain ⟨_, h⟩ := h
  rw [takeValue, expect, if_pos rfl]
  simp only [if_pos hdepth, h, Option.bind_eq_bind, Option.bind_some]
  exact ⟨_, rfl⟩

/-- A written value is read as the value that was written, up to the end of its line. -/
theorem Item.reads_write {depth : Nat} (hdepth : 0 < depth) (item : Item) (rest : List Char) :
    Reads (takeValue depth (item.write ++ '\n' :: rest)) item.toValue ('\n' :: rest) := by
  cases item with
  | integer number =>
      refine reads_takeValue_scalar _ (fun c hc => ?_) (scalar?_toDigits number)
      exact beginsOrdinary_of_isDigit (isDigit_of_mem_toDigits hc)
  | boolean flag =>
      cases flag with
      | true => exact reads_takeValue_scalar _ (List.all_eq_true.mp rfl) rfl
      | false => exact reads_takeValue_scalar _ (List.all_eq_true.mp rfl) rfl
  | strings texts =>
      -- The layout depends on whether there are no strings, one or several.
      match texts with
      | [] =>
          refine reads_takeValue_array hdepth (reads_takeItems_nil ?_)
          exact skipLines_of_stops (Text.stops_cons rfl)
      | [text] =>
          have hitems := reads_takeItems_last (depth - 1)
            (skipLines_writeString text.toList (']' :: '\n' :: rest))
          rw [String.ofList_toList] at hitems
          rw [write, List.cons_append, List.cons_append, List.append_assoc]
          exact reads_takeValue_array hdepth hitems
      | first :: second :: texts =>
          have hitems := reads_takeItems_writeLines (depth - 1) (first :: second :: texts)
            ('\n' :: rest)
          rw [write, List.append_assoc, List.append_assoc]
          · exact reads_takeValue_array hdepth hitems
          · nofun
          · nofun

/-- A written value does not begin with a blank. -/
theorem Item.stops_write (item : Item) : Text.Stops isSpace (item.write ++ rest) := by
  cases item with
  | integer number =>
      intro c hc
      rw [write, List.head?_append_of_ne_nil _ Nat.toDigits_ne_nil] at hc
      have hdigit := isDigit_of_mem_toDigits (List.mem_of_head? hc)
      have hne : c ≠ ' ' ∧ c ≠ '\t' := ⟨Text.ne_of_kind hdigit rfl, Text.ne_of_kind hdigit rfl⟩
      simp [isSpace, hne.1, hne.2]
  | boolean flag => cases flag <;> exact Text.stops_cons rfl
  | strings texts =>
      match texts with
      | [] => exact Text.stops_cons rfl
      | [_] => exact Text.stops_cons rfl
      | _ :: _ :: _ => exact Text.stops_cons rfl

end Retrieval.Toml
