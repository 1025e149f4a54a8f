import Mathlib.Tactic.SplitIfs
import Retrieval.Proofs.Text.Words
import Retrieval.Toml.Text
import Retrieval.Toml.Writer

/-!
Strings are read as they are written. In every form a string ends with the mark with which it began,
so what has to be shown is that the mark is not met before: in single quotes it does not occur,
between double quotes it is escaped, and over several lines no three quotes in a row stand for
themselves.
-/

namespace Retrieval.Toml

/-- A value that was read at the front of a text, and the rest that it left. -/
def Reads {α : Type} {cs : List Char} (taken? : Option (Taken α cs)) (value : α)
    (rest : List Char) : Prop :=
  ∃ shorter, taken? = some ⟨value, rest, shorter⟩

/-! ### Escapes -/

/-- Characters after a backslash that stand for one character, whatever follows them. They do not
join lines. -/
structure Escapes (c : Char) (cs : List Char) : Prop where
  reads : ∀ rest, Reads (takeEscape (cs ++ rest)) c rest
  joinless : ∀ rest, dropBreak? (skipSpaces (cs ++ rest)) = none

/-- The escapes of one letter or mark. -/
theorem Escapes.short {c mark : Char} (h : (c, mark) ∈ [('"', '"'), ('\\', '\\'), ('\n', 'n'),
    ('\t', 't'), ('\r', 'r'), ('\x08', 'b'), ('\x0c', 'f')]) : Escapes c [mark] := by
  simp only [List.mem_cons, List.not_mem_nil, or_false, Prod.mk.injEq] at h
  rcases h with ⟨rfl, rfl⟩ | ⟨rfl, rfl⟩ | ⟨rfl, rfl⟩ | ⟨rfl, rfl⟩ | ⟨rfl, rfl⟩ | ⟨rfl, rfl⟩ |
    ⟨rfl, rfl⟩ <;> exact ⟨fun _ => ⟨_, rfl⟩, fun _ => rfl⟩

theorem Escapes.quote : Escapes '"' ['"'] :=
  .short (by simp)

theorem hexChar?_of_isControl {c : Char} (h : isControl c) :
    hexChar? ['0', '0', Nat.digitChar (c.toNat / 16), (Nat.digitChar (c.toNat % 16)).toUpper] =
      some c := by
  have hall : ∀ n < 0x80, isControl (Char.ofNat n) → hexChar? ['0', '0', Nat.digitChar (n / 16),
      (Nat.digitChar (n % 16)).toUpper] = some (Char.ofNat n) := by
    decide +kernel
  have hlt : c.toNat < 0x80 := by
    simp [isControl] at h
    omega
  have hc := hall c.toNat hlt
  rw [Char.ofNat_toNat] at hc
  exact hc h

theorem Escapes.control {c : Char} (h : isControl c) :
    Escapes c ['u', '0', '0', Nat.digitChar (c.toNat / 16),
      (Nat.digitChar (c.toNat % 16)).toUpper] := by
  refine ⟨fun rest => ?_, fun rest => rfl⟩
  simp only [List.cons_append, List.nil_append, takeEscape, hexChar?_of_isControl h]
  exact ⟨_, rfl⟩

theorem isPlain_of_not_isControl {c : Char} (h : isControl c = false) (hbreak : c ≠ '\n') :
    isPlain c := by
  by_cases htab : c = '\t'
  · rw [htab]
    rfl
  · simp [isControl, htab, hbreak] at h
    simp [isPlain, htab]
    omega

/-- A character other than the quote is written with an escape or as it is, and then it is plain or
a line break of a string over several lines. -/
theorem escape_eq (severalLines : Bool) (c : Char) :
    (∃ cs, escape severalLines c = '\\' :: cs ∧ Escapes c cs) ∨
      escape severalLines c = [c] ∧ c ≠ '\\' ∧ (isPlain c ∨ severalLines ∧ c = '\n') := by
  unfold escape
  split_ifs with hbackslash hbreak hlines htab hreturn hback hfeed hcontrol
  · exact .inl ⟨_, rfl, .short (by simp [hbackslash])⟩
  · exact .inr ⟨by rw [hbreak], hbackslash, .inr ⟨hlines, hbreak⟩⟩
  · exact .inl ⟨_, rfl, .short (by simp [hbreak])⟩
  · exact .inl ⟨_, rfl, .short (by simp [htab])⟩
  · exact .inl ⟨_, rfl, .short (by simp [hreturn])⟩
  · exact .inl ⟨_, rfl, .short (by simp [hback])⟩
  · exact .inl ⟨_, rfl, .short (by simp [hfeed])⟩
  · exact .inl ⟨_, rfl, .control hcontrol⟩
  · exact .inr ⟨rfl, hbackslash, .inl (isPlain_of_not_isControl (by simpa using hcontrol) hbreak)⟩

/-! ### Strings on one line -/

section

variable {c : Char} {cs text rest : List Char}

theorem reads_takeBasic_escape {chars : List Char} (hc : Escapes c chars)
    (h : Reads (takeBasic cs) text rest) :
    Reads (takeBasic ('\\' :: (chars ++ cs))) (c :: text) rest := by
  obtain ⟨_, hc⟩ := hc.reads cs
  obtain ⟨_, h⟩ := h
  rw [takeBasic, if_neg (by decide), if_pos rfl, hc]
  simp only [Option.bind_eq_bind, Option.bind_some, h]
  exact ⟨_, rfl⟩

theorem reads_takeBasic_plain (hc : isPlain c) (hquote : c ≠ '"') (hbackslash : c ≠ '\\')
    (h : Reads (takeBasic cs) text rest) : Reads (takeBasic (c :: cs)) (c :: text) rest := by
  obtain ⟨_, h⟩ := h
  rw [takeBasic, if_neg hquote, if_neg hbackslash, if_pos hc, h]
  exact ⟨_, rfl⟩

/-- What is written between double quotes on one line is read up to the closing quote. -/
theorem reads_takeBasic (cs rest : List Char) :
    Reads (takeBasic (escapeAll false 0 cs ++ '"' :: rest)) cs rest := by
  induction cs with
  | nil =>
      rw [escapeAll, List.nil_append, takeBasic, if_pos rfl]
      exact ⟨_, rfl⟩
  | cons c cs ih =>
      by_cases hquote : c = '"'
      · rw [escapeAll, if_pos hquote, if_neg (by simp), hquote]
        have hread := reads_takeBasic_escape .quote ih
        exact hread
      · rw [escapeAll, if_neg hquote, List.append_assoc]
        obtain ⟨chars, hescape, hc⟩ | ⟨hescape, hbackslash, hc⟩ := escape_eq false c
        · rw [hescape]
          exact reads_takeBasic_escape hc ih
        · rw [hescape]
          have hplain : isPlain c := hc.resolve_right (fun hlines => by simp at hlines)
          exact reads_takeBasic_plain hplain hquote hbackslash ih

/-- What is written between single quotes on one line is read up to the closing quote. -/
theorem reads_takeLiteral (hplain : ∀ c ∈ cs, isPlain c) (hquote : '\'' ∉ cs) :
    Reads (takeLiteral (cs ++ '\'' :: rest)) cs rest := by
  induction cs with
  | nil =>
      rw [List.nil_append, takeLiteral, if_pos rfl]
      exact ⟨_, rfl⟩
  | cons c cs ih =>
      obtain ⟨hc, hplain⟩ := List.forall_mem_cons.mp hplain
      obtain ⟨hne, hquote⟩ := not_or.mp (mt List.mem_cons.mpr hquote)
      obtain ⟨_, h⟩ := ih hplain hquote
      rw [List.cons_append, takeLiteral, if_neg (Ne.symm hne), if_pos hc, h]
      exact ⟨_, rfl⟩

end

/-! ### Strings over several lines -/

theorem dropBreak?_cons_eq_none {c : Char} {cs : List Char} (h : c ≠ '\n' ∧ c ≠ '\r') :
    dropBreak? (c :: cs) = none := by
  rw [dropBreak?]
  · exact fun _ hcs => h.1 (List.head_eq_of_cons_eq hcs)
  · exact fun _ hcs => h.2 (List.head_eq_of_cons_eq hcs)

/-- What stands in a string over several lines, and the text that it stands for, after some quotes
that stand for themselves. Two quotes in a row may do so. -/
inductive Body (quote : Char) (escapes : Bool) : Nat → List Char → List Char → Prop
  | nil {quotes : Nat} : Body quote escapes quotes [] []
  | quote {quotes : Nat} {cs text : List Char} (hquotes : quotes < 2)
      (h : Body quote escapes (quotes + 1) cs text) :
      Body quote escapes quotes (quote :: cs) (quote :: text)
  | plain {quotes : Nat} {c : Char} {cs text : List Char} (hc : isPlain c ∨ c = '\n')
      (hquote : c ≠ quote) (hbackslash : c = '\\' → escapes = false)
      (h : Body quote escapes 0 cs text) : Body quote escapes quotes (c :: cs) (c :: text)
  | escape {quotes : Nat} {c : Char} {chars cs text : List Char} (hescapes : escapes)
      (hc : Escapes c chars) (h : Body quote escapes 0 cs text) :
      Body quote escapes quotes ('\\' :: (chars ++ cs)) (c :: text)

section

variable {quote c : Char} {escapes : Bool} {quotes : Nat} {cs text rest : List Char}

/-- The quotes with which a body begins are all of it, or they are ended by another character; with
those before them they are two at most. -/
theorem Body.run (hmark : quote ≠ '\\') (h : Body quote escapes quotes cs text) :
    ∃ run, quotes + run ≤ max quotes 2 ∧
      (cs = List.replicate run quote ∧ text = List.replicate run quote ∨
        ∃ d after, cs = List.replicate run quote ++ d :: after ∧ d ≠ quote) := by
  induction h with
  | nil => exact ⟨0, by omega, .inl ⟨rfl, rfl⟩⟩
  | quote hquotes h ih =>
      obtain ⟨run, hrun, ⟨rfl, rfl⟩ | ⟨d, after, rfl, hd⟩⟩ := ih
      · exact ⟨run + 1, by omega, .inl ⟨rfl, rfl⟩⟩
      · exact ⟨run + 1, by omega, .inr ⟨d, after, rfl, hd⟩⟩
  | plain hc hquote hbackslash h ih => exact ⟨0, by omega, .inr ⟨_, _, rfl, hquote⟩⟩
  | escape hescapes hc h ih => exact ⟨0, by omega, .inr ⟨_, _, rfl, hmark.symm⟩⟩

/-- The three quotes that close a string may stand behind two quotes of its text. -/
theorem reads_takeLines_close (run : Nat) (hrun : run ≤ 2) (hstops : Text.Stops (· == quote) rest) :
    Reads (takeLines quote escapes (List.replicate (run + 3) quote ++ rest))
      (List.replicate run quote) rest := by
  have hmore : (List.replicate (run + 2) quote ++ rest).takeWhile (· == quote) =
      List.replicate (run + 2) quote :=
    Text.takeWhile_run (by simp) hstops
  have hdrop : (List.replicate (run + 2) quote ++ rest).drop (run + 2) = rest :=
    List.drop_left' (List.length_replicate ..)
  have hclosing : min (run + 2) 4 = run + 2 := by omega
  rw [List.replicate_succ, List.cons_append, takeLines, if_pos rfl]
  simp only [hmore, List.length_replicate, hclosing, hdrop, Nat.add_sub_cancel]
  rw [if_neg (by omega)]
  exact ⟨_, rfl⟩

/-- A quote that at most one quote follows stands for itself. -/
theorem reads_takeLines_quote (hmore : (cs.takeWhile (· == quote)).length < 2)
    (h : Reads (takeLines quote escapes cs) text rest) :
    Reads (takeLines quote escapes (quote :: cs)) (quote :: text) rest := by
  obtain ⟨_, h⟩ := h
  rw [takeLines, if_pos rfl]
  simp only [if_pos hmore, h]
  exact ⟨_, rfl⟩

theorem reads_takeLines_plain (hc : isPlain c ∨ c = '\n') (hquote : c ≠ quote)
    (hbackslash : c = '\\' → escapes = false)
    (h : Reads (takeLines quote escapes cs) text rest) :
    Reads (takeLines quote escapes (c :: cs)) (c :: text) rest := by
  obtain ⟨_, h⟩ := h
  have hescape : ¬(c = '\\' ∧ escapes) := fun ⟨hc, hescapes⟩ => by
    simp [hbackslash hc] at hescapes
  have hplain : isPlain c || beginsBreak (c :: cs) := by
    obtain hc | rfl := hc
    · simp [hc]
    · simp [beginsBreak, dropBreak?]
  rw [takeLines, if_neg hquote, if_neg hescape, if_pos hplain, h]
  exact ⟨_, rfl⟩

theorem reads_takeLines_escape {chars : List Char} (hmark : quote ≠ '\\') (hescapes : escapes)
    (hc : Escapes c chars) (h : Reads (takeLines quote escapes cs) text rest) :
    Reads (takeLines quote escapes ('\\' :: (chars ++ cs))) (c :: text) rest := by
  obtain ⟨_, hreads⟩ := hc.reads cs
  obtain ⟨_, h⟩ := h
  rw [takeLines, if_neg hmark.symm, if_pos ⟨rfl, hescapes⟩]
  split
  · rename_i joined hjoined
    rw [hc.joinless cs] at hjoined
    cases hjoined
  · simp only [hreads, Option.bind_eq_bind, Option.bind_some, h]
    exact ⟨_, rfl⟩

/-- A body is read up to the three quotes that close the string. -/
theorem Body.reads (hmark : quote ≠ '\\') (hstops : Text.Stops (· == quote) rest)
    (h : Body quote escapes quotes cs text) :
    Reads (takeLines quote escapes (cs ++ (List.replicate 3 quote ++ rest))) text rest := by
  induction h with
  | nil => exact reads_takeLines_close 0 (by omega) hstops
  | @quote quotes cs text hquotes h ih =>
      -- Whether the quote stands for itself depends on how many follow it.
      obtain ⟨run, hrun, ⟨rfl, rfl⟩ | ⟨d, after, rfl, hd⟩⟩ := h.run hmark
      · have hclose : Reads (takeLines quote escapes (List.replicate (run + 1 + 3) quote ++ rest))
            (List.replicate (run + 1) quote) rest :=
          reads_takeLines_close (run + 1) (by omega) hstops
        rw [← List.replicate_append_replicate, List.append_assoc] at hclose
        exact hclose
      · have hmore : (List.replicate run quote ++ d :: after ++
            (List.replicate 3 quote ++ rest)).takeWhile (· == quote) =
              List.replicate run quote := by
          rw [List.append_assoc]
          exact Text.takeWhile_run (by simp) (Text.stops_cons (by simpa using hd))
        refine reads_takeLines_quote (lt_of_eq_of_lt (congrArg List.length hmore) ?_) ih
        rw [List.length_replicate]
        omega
  | plain hc hquote hbackslash h ih => exact reads_takeLines_plain hc hquote hbackslash ih
  | escape hescapes hc h ih =>
      rw [List.cons_append, List.append_assoc]
      exact reads_takeLines_escape hmark hescapes hc ih

/-- A text that has no line break is written without one in front. -/
theorem Body.dropBreak?_eq_none (hmark : quote ≠ '\n' ∧ quote ≠ '\r') (hbreak : '\n' ∉ text)
    (h : Body quote escapes quotes cs text) :
    dropBreak? (cs ++ (List.replicate 3 quote ++ rest)) = none := by
  cases h with
  | nil => exact dropBreak?_cons_eq_none hmark
  | quote hquotes h => exact dropBreak?_cons_eq_none hmark
  | plain hc hquote hbackslash h =>
      rename_i d after text
      have hn : d ≠ '\n' := fun hd => hbreak (by simp [hd])
      refine dropBreak?_cons_eq_none ⟨hn, ?_⟩
      rintro rfl
      exact absurd (hc.resolve_right hn) (by decide)
  | escape hescapes hc h => exact dropBreak?_cons_eq_none (by decide)

/-- The line break before a text over several lines is not read as part of it. -/
theorem Body.dropFirstBreak_firstBreak (hmark : quote ≠ '\n' ∧ quote ≠ '\r')
    (h : Body quote escapes quotes cs text) :
    dropFirstBreak (firstBreak text ++ (cs ++ (List.replicate 3 quote ++ rest))) =
      cs ++ (List.replicate 3 quote ++ rest) := by
  unfold firstBreak
  split_ifs with hbreak
  · rfl
  · rw [List.nil_append, dropFirstBreak, h.dropBreak?_eq_none hmark (by simpa using hbreak)]
    rfl

end

/-- What is written over several lines between double quotes stands for the text. -/
theorem body_escapeAll (quotes : Nat) (cs : List Char) :
    Body '"' true quotes (escapeAll true quotes cs) cs := by
  induction cs generalizing quotes with
  | nil => exact .nil
  | cons c cs ih =>
      by_cases hquote : c = '"'
      · subst hquote
        rw [escapeAll, if_pos rfl]
        by_cases hquotes : quotes < 2
        · rw [if_pos (by simpa using hquotes)]
          exact .quote hquotes (ih _)
        · rw [if_neg (by simpa using hquotes)]
          exact .escape rfl .quote (ih 0)
      · rw [escapeAll, if_neg hquote]
        obtain ⟨chars, hescape, hc⟩ | ⟨hescape, hbackslash, hc⟩ := escape_eq true c
        · rw [hescape]
          exact .escape rfl hc (ih 0)
        · rw [hescape]
          exact .plain (hc.imp_right And.right) hquote (absurd · hbackslash) (ih 0)

/-! ### Runs of a quote -/

/-- The run of a character that a text ends with and the longest one, after one more character. -/
def runStep (c : Char) (runs : Nat × Nat) (d : Char) : Nat × Nat :=
  if d = c then (runs.1 + 1, max runs.2 (runs.1 + 1)) else (0, runs.2)

theorem longestRun_eq (c : Char) (cs : List Char) :
    longestRun c cs = (cs.foldl (runStep c) (0, 0)).2 := rfl

section

variable {c : Char} {cs : List Char}

theorem le_foldl_runStep (c : Char) (cs : List Char) (runs : Nat × Nat) :
    runs.2 ≤ (cs.foldl (runStep c) runs).2 := by
  induction cs generalizing runs with
  | nil => exact le_refl _
  | cons d cs ih =>
      refine le_trans ?_ (ih _)
      unfold runStep
      split_ifs
      · exact le_max_left _ _
      · exact le_refl _

/-- One more character of the kind makes the run longer. -/
theorem lt_foldl_runStep_cons (c : Char) (cs : List Char) (runs : Nat × Nat) :
    runs.1 < ((c :: cs).foldl (runStep c) runs).2 := by
  have hstep : runStep c runs c = (runs.1 + 1, max runs.2 (runs.1 + 1)) := if_pos rfl
  have hle := le_foldl_runStep c cs (runs.1 + 1, max runs.2 (runs.1 + 1))
  rw [List.foldl_cons, hstep]
  omega

theorem not_mem_of_longestRun_eq_zero (h : longestRun c cs = 0) : c ∉ cs := by
  intro hc
  obtain ⟨before, after, rfl⟩ := List.append_of_mem hc
  rw [longestRun_eq, List.foldl_append] at h
  have hlt := lt_foldl_runStep_cons c after (before.foldl (runStep c) (0, 0))
  omega

/-- A text without three single quotes in a row stands for itself between them. -/
theorem body_of_foldl_runStep (hplain : ∀ c ∈ cs, isPlain c ∨ c = '\n') (runs : Nat × Nat)
    (h : (cs.foldl (runStep '\'') runs).2 ≤ 2) : Body '\'' false runs.1 cs cs := by
  induction cs generalizing runs with
  | nil => exact .nil
  | cons d cs ih =>
      obtain ⟨hd, hcs⟩ := List.forall_mem_cons.mp hplain
      by_cases hquote : d = '\''
      · subst hquote
        have hlt := lt_foldl_runStep_cons '\'' cs runs
        have hbody := ih hcs _ h
        rw [runStep, if_pos rfl] at hbody
        exact .quote (by omega) hbody
      · have hbody := ih hcs _ h
        rw [runStep, if_neg hquote] at hbody
        exact .plain hd hquote (fun _ => rfl) hbody

end

/-! ### Strings in any form -/

section

variable {cs text rest : List Char}

theorem reads_takeString_basic (h : Reads (takeBasic cs) text rest)
    (hquotes : ∀ after, cs ≠ '"' :: '"' :: after) :
    Reads (takeString ('"' :: cs)) (String.ofList text) rest := by
  obtain ⟨_, h⟩ := h
  rw [takeString, h]
  · exact ⟨_, rfl⟩
  · exact hquotes

theorem reads_takeString_literal (h : Reads (takeLiteral cs) text rest)
    (hquotes : ∀ after, cs ≠ '\'' :: '\'' :: after) :
    Reads (takeString ('\'' :: cs)) (String.ofList text) rest := by
  obtain ⟨_, h⟩ := h
  rw [takeString, h]
  · exact ⟨_, rfl⟩
  · exact hquotes

theorem reads_takeString_basicLines (h : Reads (takeLines '"' true (dropFirstBreak cs)) text rest) :
    Reads (takeString ('"' :: '"' :: '"' :: cs)) (String.ofList text) rest := by
  obtain ⟨_, h⟩ := h
  rw [takeString, h]
  exact ⟨_, rfl⟩

theorem reads_takeString_literalLines
    (h : Reads (takeLines '\'' false (dropFirstBreak cs)) text rest) :
    Reads (takeString ('\'' :: '\'' :: '\'' :: cs)) (String.ofList text) rest := by
  obtain ⟨_, h⟩ := h
  rw [takeString, h]
  exact ⟨_, rfl⟩

end

section

variable {cs rest : List Char}

/-- What stands between double quotes on one line does not begin with a quote. -/
theorem head?_escapeAll_ne (cs : List Char) : (escapeAll false 0 cs).head? ≠ some '"' := by
  cases cs with
  | nil => nofun
  | cons c cs =>
      by_cases hquote : c = '"'
      · rw [escapeAll, if_pos hquote, if_neg (by simp)]
        simp
      · rw [escapeAll, if_neg hquote]
        obtain ⟨chars, hescape, hc⟩ | ⟨hescape, hbackslash, hc⟩ := escape_eq false c
        · rw [hescape]
          simp
        · rw [hescape]
          simpa using hquote

/-- Two marks stand in front of what is between quotes on one line only if a mark follows it. -/
theorem ne_mark_mark {mark : Char} (hcs : cs.head? ≠ some mark)
    (hstops : Text.Stops (· == mark) rest) (after : List Char) :
    cs ++ mark :: rest ≠ mark :: mark :: after := by
  cases cs with
  | nil =>
      rintro heq
      cases heq
      simpa using hstops mark rfl
  | cons c cs =>
      intro heq
      have hc : c = mark := List.head_eq_of_cons_eq heq
      exact hcs (by rw [hc]; rfl)

/-- The quotes that do not end a string which was written. -/
def isQuote (c : Char) : Bool :=
  c == '"' || c == '\''

theorem stops_double (h : Text.Stops isQuote rest) : Text.Stops (· == '"') rest :=
  fun c hc => (Bool.or_eq_false_iff.mp (h c hc)).1

theorem stops_single (h : Text.Stops isQuote rest) : Text.Stops (· == '\'') rest :=
  fun c hc => (Bool.or_eq_false_iff.mp (h c hc)).2

theorem reads_writeBasic (cs : List Char) (hstops : Text.Stops isQuote rest) :
    Reads (takeString (writeBasic cs ++ rest)) (String.ofList cs) rest := by
  rw [writeBasic, List.cons_append, List.cons_append, List.append_assoc]
  exact reads_takeString_basic (reads_takeBasic cs rest)
    (ne_mark_mark (head?_escapeAll_ne cs) (stops_double hstops))

theorem reads_writeLiteral (hplain : ∀ c ∈ cs, isPlain c) (hquote : '\'' ∉ cs)
    (hstops : Text.Stops isQuote rest) :
    Reads (takeString (writeLiteral cs ++ rest)) (String.ofList cs) rest := by
  have hhead : cs.head? ≠ some '\'' := fun h => hquote (List.mem_of_head? h)
  rw [writeLiteral, List.cons_append, List.cons_append, List.append_assoc]
  exact reads_takeString_literal (reads_takeLiteral hplain hquote)
    (ne_mark_mark hhead (stops_single hstops))

theorem reads_writeBasicLines (cs : List Char) (hstops : Text.Stops isQuote rest) :
    Reads (takeString (writeBasicLines cs ++ rest)) (String.ofList cs) rest := by
  have hbody := body_escapeAll 0 cs
  have hread := hbody.reads (by decide) (stops_double hstops)
  rw [← hbody.dropFirstBreak_firstBreak (by decide)] at hread
  have hstring := reads_takeString_basicLines hread
  rw [writeBasicLines, List.append_assoc, List.append_assoc, List.append_assoc]
  exact hstring

theorem reads_writeLiteralLines (hplain : ∀ c ∈ cs, isPlain c ∨ c = '\n')
    (hruns : longestRun '\'' cs ≤ 2) (hstops : Text.Stops isQuote rest) :
    Reads (takeString (writeLiteralLines cs ++ rest)) (String.ofList cs) rest := by
  have hbody := body_of_foldl_runStep hplain (0, 0) hruns
  have hread := hbody.reads (by decide) (stops_single hstops)
  rw [← hbody.dropFirstBreak_firstBreak (by decide)] at hread
  have hstring := reads_takeString_literalLines hread
  rw [writeLiteralLines, List.append_assoc, List.append_assoc, List.append_assoc]
  exact hstring

/-- A string is written in a form with escapes, or it stands for itself in a form without. -/
theorem writeString_eq (cs : List Char) :
    writeString cs = writeBasic cs ∨ writeString cs = writeBasicLines cs ∨
      writeString cs = writeLiteral cs ∧ (∀ c ∈ cs, isPlain c) ∧ '\'' ∉ cs ∨
      writeString cs = writeLiteralLines cs ∧ (∀ c ∈ cs, isPlain c ∨ c = '\n') ∧
        longestRun '\'' cs ≤ 2 := by
  have hplain : cs.any isControl = false → ∀ c ∈ cs, isPlain c ∨ c = '\n' := by
    intro hcontrols c hc
    have hcontrol : isControl c = false := by simpa using List.any_eq_false.mp hcontrols c hc
    exact or_iff_not_imp_right.mpr (isPlain_of_not_isControl hcontrol)
  unfold writeString
  dsimp only
  split_ifs with hbasic hliteral hbasicLines hliteralLines hbreaks
  · exact .inl rfl
  · simp only [Bool.and_eq_true, Bool.not_eq_true', beq_iff_eq] at hliteral
    obtain ⟨⟨hcontrols, hsingles⟩, hbreaks⟩ := hliteral
    have hbreak : '\n' ∉ cs := by simpa using hbreaks
    refine .inr (.inr (.inl ⟨rfl, fun c hc => ?_, not_mem_of_longestRun_eq_zero hsingles⟩))
    exact (hplain hcontrols c hc).resolve_right (ne_of_mem_of_not_mem hc hbreak)
  · exact .inr (.inl rfl)
  · simp only [Bool.and_eq_true, Bool.not_eq_true', decide_eq_true_eq] at hliteralLines
    exact .inr (.inr (.inr ⟨rfl, hplain hliteralLines.1, hliteralLines.2⟩))
  · exact .inr (.inl rfl)
  · exact .inl rfl

/-- A written string is read as the string that was written, and all of it is read. -/
theorem reads_writeString (cs : List Char) (hstops : Text.Stops isQuote rest) :
    Reads (takeString (writeString cs ++ rest)) (String.ofList cs) rest := by
  obtain hform | hform | ⟨hform, hplain, hquote⟩ | ⟨hform, hplain, hruns⟩ := writeString_eq cs
  · rw [hform]
    exact reads_writeBasic cs hstops
  · rw [hform]
    exact reads_writeBasicLines cs hstops
  · rw [hform]
    exact reads_writeLiteral hplain hquote hstops
  · rw [hform]
    exact reads_writeLiteralLines hplain hruns hstops

end

end Retrieval.Toml
