import Retrieval.Proofs.Decimal.Numerals
import Retrieval.Query.Lexeme

/-!
Which tokens a text is cut into, without their places. The relation follows the text one lexeme at a
time, so a text that is put together from the spellings of tokens is lexed from its end: what a
token needs of the text after it is only how that text begins.
-/

namespace Retrieval

/-- The tokens that a text is cut into. -/
inductive Lexes : List Char → List Token → Prop
  | nil : Lexes [] []
  | blank {c : Char} {cs : List Char} {tokens : List Token} (hc : Text.isBlank c)
      (h : Lexes cs tokens) : Lexes (c :: cs) tokens
  | skip {c : Char} {cs : List Char} {tokens : List Token} (hc : Text.isBlank c = false)
      (hscan : (Lexeme.scan c cs).outcome = .ok none) (h : Lexes (Lexeme.scan c cs).rest tokens) :
      Lexes (c :: cs) tokens
  | token {c : Char} {cs : List Char} {token : Token} {tokens : List Token}
      (hc : Text.isBlank c = false) (hscan : (Lexeme.scan c cs).outcome = .ok (some token))
      (h : Lexes (Lexeme.scan c cs).rest tokens) : Lexes (c :: cs) (token :: tokens)

/-! ### Places do not matter -/

def Lexeme.locate (lexeme : Lexeme) (start : Nat) : Except (LexFault × Span) (List Located) :=
  let span := ⟨start, start + Text.byteSize lexeme.text⟩
  match lexeme.outcome with
  | .error fault => .error (fault, span)
  | .ok none => Retrieval.locate span.stop lexeme.rest
  | .ok (some token) => (Retrieval.locate span.stop lexeme.rest).map (⟨token, span⟩ :: ·)

theorem locate_of_dropWhile_eq_nil {cs : List Char} (h : cs.dropWhile Text.isBlank = [])
    (position : Nat) : locate position cs = .ok [] := by
  rw [locate]
  split
  · rfl
  · rename_i hcons
    rw [h] at hcons
    cases hcons

theorem locate_of_dropWhile_eq_cons {cs rest : List Char} {c : Char}
    (h : cs.dropWhile Text.isBlank = c :: rest) (position : Nat) :
    locate position cs =
      (Lexeme.scan c rest).locate (position + Text.byteSize (cs.takeWhile Text.isBlank)) := by
  rw [locate.eq_def]
  split
  · rename_i hnil
    rw [h] at hnil
    cases hnil
  · rename_i hcons
    rw [h] at hcons
    cases hcons
    rfl

theorem locate_cons_blank {c : Char} (hc : Text.isBlank c) (position : Nat) (cs : List Char) :
    locate position (c :: cs) = locate (position + c.utf8Size) cs := by
  have hdrop : (c :: cs).dropWhile Text.isBlank = cs.dropWhile Text.isBlank := by
    rw [List.dropWhile_cons, if_pos hc]
  cases hcs : cs.dropWhile Text.isBlank with
  | nil =>
      rw [locate_of_dropWhile_eq_nil (hdrop.trans hcs), locate_of_dropWhile_eq_nil hcs]
  | cons d rest =>
      rw [locate_of_dropWhile_eq_cons (hdrop.trans hcs), locate_of_dropWhile_eq_cons hcs,
        List.takeWhile_cons, if_pos hc, Text.byteSize_cons, Nat.add_assoc]

theorem locate_cons_solid {c : Char} (hc : Text.isBlank c = false) (position : Nat)
    (cs : List Char) :
    locate position (c :: cs) = (Lexeme.scan c cs).locate position := by
  have hdrop : (c :: cs).dropWhile Text.isBlank = c :: cs := by
    rw [List.dropWhile_cons, hc]
    rfl
  rw [locate_of_dropWhile_eq_cons hdrop, List.takeWhile_cons, hc]
  rfl

/-- A text is cut into the same tokens from every position. -/
theorem Lexes.locate_eq {cs : List Char} {tokens : List Token} (h : Lexes cs tokens)
    (position : Nat) :
    ∃ located, locate position cs = .ok located ∧ located.map Located.token = tokens := by
  induction h generalizing position with
  | nil => exact ⟨[], locate_of_dropWhile_eq_nil rfl position, rfl⟩
  | @blank c cs tokens hc _ ih =>
      rw [locate_cons_blank hc]
      exact ih _
  | @skip c cs tokens hc hscan _ ih =>
      rw [locate_cons_solid hc, Lexeme.locate, hscan]
      exact ih _
  | @token c cs token tokens hc hscan _ ih =>
      obtain ⟨located, hlocated, htokens⟩ := ih (position + Text.byteSize (Lexeme.scan c cs).text)
      rw [locate_cons_solid hc, Lexeme.locate, hscan]
      refine ⟨_ :: located, congrArg (Except.map _) hlocated, ?_⟩
      rw [List.map_cons, htokens]

/-! ### Boundaries -/

/-- Whether a text is at its end or goes on with white space. -/
abbrev Ended (rest : List Char) : Prop :=
  Text.Stops Text.isSolid rest

theorem Ended.stops {rest : List Char} (h : Ended rest) {p : Char → Bool}
    (hp : ∀ c, Text.isBlank c → p c = false) : Text.Stops p rest := by
  intro c hc
  exact hp c (Text.isSolid_eq_false_iff.mp (h c hc))

theorem Lexeme.atBoundary_of_stops {follows : Char → Bool} {rest : List Char}
    (h : Text.Stops (fun c => Text.isSolid c && !follows c) rest) : atBoundary follows rest := by
  cases rest with
  | nil => rfl
  | cons c rest =>
      have hc := h c rfl
      rw [Bool.and_eq_false_iff, Text.isSolid_eq_false_iff, Bool.not_eq_false'] at hc
      rwa [atBoundary, Bool.or_eq_true]

theorem Ended.atBoundary {rest : List Char} (h : Ended rest) (follows : Char → Bool) :
    Lexeme.atBoundary follows rest := by
  refine Lexeme.atBoundary_of_stops (h.stops ?_)
  intro c hc
  rw [Text.isSolid_eq_false_iff.mpr hc, Bool.false_and]

theorem isDigit_of_isBlank {c : Char} (h : Text.isBlank c) : c.isDigit = false := by
  rw [← Bool.not_eq_true, Char.isDigit_iff_toNat]
  rintro ⟨hlow, hhigh⟩
  have hlow : 48 ≤ c.toNat := hlow
  have hhigh : c.toNat ≤ 57 := hhigh
  simp [Text.isBlank] at h
  omega

theorem inWord_of_isBlank {c : Char} (h : Text.isBlank c) : Lexeme.inWord c = false := by
  simp [Lexeme.inWord, h]

theorem inNumeral_of_isBlank {c : Char} (h : Text.isBlank c) : Decimal.inNumeral c = false := by
  rw [Decimal.inNumeral, isDigit_of_isBlank h, Bool.false_or, beq_eq_false_iff_ne]
  rintro rfl
  cases h

/-! ### Spellings of tokens -/

structure IsWord (text : String) : Prop where
  ne_empty : text ≠ ""
  solid : ∀ c ∈ text.toList, Text.isSolid c
  unmarked : ∀ c ∈ text.toList, c ∉ ['{', '}', '"', '^', '~', ':']
  unsigned : ∀ c ∈ text.toList.head?, c ∉ ['+', '-']

namespace Lexeme

theorem inWord_iff {c : Char} :
    inWord c ↔ Text.isBlank c = false ∧ c ∉ ['{', '}', '"', '^', '~', ':'] := by
  simp [inWord, and_assoc]

theorem scan_word {c : Char} {cs : List Char} (hc : inWord c) (hsign : c ∉ ['+', '-']) :
    scan c cs = word c cs := by
  unfold scan
  split
  · cases hc
  · cases hc
  · cases hc
  · exact absurd rfl (List.ne_of_not_mem_cons hsign)
  · exact absurd rfl (List.ne_of_not_mem_cons (List.not_mem_of_not_mem_cons hsign))
  · cases hc
  · cases hc
  · cases hc
  · rfl

end Lexeme

theorem IsWord.inWord {text : String} (h : IsWord text) : ∀ c ∈ text.toList, Lexeme.inWord c :=
  fun c hc => Lexeme.inWord_iff.mpr ⟨Text.isSolid_iff.mp (h.solid c hc), h.unmarked c hc⟩

/-- The first character of a word makes the lexeme a word, and the others belong to it. -/
theorem IsWord.exists_cons {text : String} (h : IsWord text) :
    ∃ c cs, text.toList = c :: cs ∧ Text.isBlank c = false ∧ (∀ d ∈ cs, Lexeme.inWord d) ∧
      ∀ rest, Lexeme.scan c rest = Lexeme.word c rest := by
  have hne : text.toList ≠ [] := fun hnil => h.ne_empty (String.toList_eq_nil_iff.mp hnil)
  obtain ⟨c, cs, hcs⟩ := List.exists_cons_of_ne_nil hne
  have hword := h.inWord
  have hsolid := Text.isSolid_iff.mp (h.solid c (hcs ▸ List.mem_cons_self))
  have hunsigned := h.unsigned c (by simp [hcs])
  rw [hcs] at hword
  obtain ⟨hc, hrest⟩ := List.forall_mem_cons.mp hword
  exact ⟨c, cs, hcs, hsolid, hrest, fun rest => Lexeme.scan_word hc hunsigned⟩

namespace Lexes

variable {rest : List Char} {tokens : List Token}

theorem of_scan {c : Char} {cs text : List Char} {token : Token} (hc : Text.isBlank c = false)
    (hscan : Lexeme.scan c cs = ⟨text, .ok (some token), rest⟩) (h : Lexes rest tokens) :
    Lexes (c :: cs) (token :: tokens) := by
  refine .token hc ?_ ?_
  · rw [hscan]
  · rw [hscan]
    exact h

theorem plus (h : Lexes rest tokens) : Lexes ('+' :: rest) (.plus :: tokens) :=
  of_scan rfl rfl h

theorem minus (h : Lexes rest tokens) : Lexes ('-' :: rest) (.minus :: tokens) :=
  of_scan rfl rfl h

theorem field {name : String} (hname : IsWord name) (h : Lexes rest tokens) :
    Lexes (name.toList ++ ':' :: rest) (.field name :: tokens) := by
  obtain ⟨c, cs, hcs, hc, hword, hscan⟩ := hname.exists_cons
  have hstops : Text.Stops Lexeme.inWord (':' :: rest) := Text.stops_cons rfl
  have hscan : Lexeme.scan c (cs ++ ':' :: rest) =
      ⟨name.toList ++ [':'], .ok (some (.field name)), rest⟩ := by
    rw [hscan, Lexeme.word, Text.takeWhile_run hword hstops, Text.dropWhile_run hword hstops, ← hcs,
      String.ofList_toList]
    rfl
  rw [hcs, List.cons_append]
  exact of_scan hc hscan h

theorem term {text : String} (htext : IsWord text)
    (hrest : Text.Stops (fun c => Lexeme.inWord c || c == ':') rest) (h : Lexes rest tokens) :
    Lexes (text.toList ++ rest) (.term text :: tokens) := by
  obtain ⟨c, cs, hcs, hc, hword, hscan⟩ := htext.exists_cons
  have hstops : Text.Stops Lexeme.inWord rest := by
    intro d hd
    exact (Bool.or_eq_false_iff.mp (hrest d hd)).1
  have hcolon : ∀ after, rest ≠ ':' :: after := by
    rintro after rfl
    cases hrest ':' rfl
  have hscan : Lexeme.scan c (cs ++ rest) = ⟨text.toList, .ok (some (.term text)), rest⟩ := by
    rw [hscan, Lexeme.word, Text.takeWhile_run hword hstops, Text.dropWhile_run hword hstops, ← hcs,
      String.ofList_toList]
    simp
  rw [hcs, List.cons_append]
  exact of_scan hc hscan h

theorem phrase {content : String} (hcontent : '"' ∉ content.toList) (h : Lexes rest tokens) :
    Lexes ('"' :: (content.toList ++ '"' :: rest)) (.phrase content :: tokens) := by
  have hrun : ∀ c ∈ content.toList, (c != '"') = true := by
    intro c hc
    rw [bne_iff_ne]
    rintro rfl
    exact hcontent hc
  have hstops : Text.Stops (· != '"') ('"' :: rest) := Text.stops_cons rfl
  have hscan : Lexeme.scan '"' (content.toList ++ '"' :: rest) =
      ⟨'"' :: (content.toList ++ ['"']), .ok (some (.phrase content)), rest⟩ := by
    change Lexeme.phrase _ = _
    rw [Lexeme.phrase, Text.takeWhile_run hrun hstops, Text.dropWhile_run hrun hstops]
    simp
  exact of_scan rfl hscan h

theorem window {size : Nat} (hsize : size < Lexeme.windowLimit)
    (hstops : Text.Stops Char.isDigit rest)
    (hrest : Lexeme.atBoundary (fun c => c == '}' || c == '^') rest) (h : Lexes rest tokens) :
    Lexes ('~' :: ((Nat.repr size).toList ++ rest)) (.window size :: tokens) := by
  have hdigits : (Nat.repr size).toList = Nat.toDigits 10 size := by
    rw [Nat.repr, String.toList_ofList]
  have hrun : ∀ c ∈ Nat.toDigits 10 size, c.isDigit := by
    intro c hc
    exact Nat.isDigit_of_mem_toDigits (by decide) (by decide) hc
  have hne : (Nat.toDigits 10 size).isEmpty = false := by
    rw [List.isEmpty_eq_false_iff]
    exact Nat.toDigits_ne_nil
  have hscan : Lexeme.scan '~' (Nat.toDigits 10 size ++ rest) =
      ⟨'~' :: Nat.toDigits 10 size, .ok (some (.window size)), rest⟩ := by
    change Lexeme.window _ = _
    simp only [Lexeme.window, Text.takeWhile_run hrun hstops, Text.dropWhile_run hrun hstops, hne,
      Nat.ofDigitChars_ten_toDigits, hsize, hrest]
    rfl
  rw [hdigits]
  exact of_scan rfl hscan h

theorem weight {w : Float} (hfinite : w.isFinite) (hsign : w.toBits.toNat < 2 ^ 63)
    (hread : Decimal.parse? (Decimal.write w) = some w) (hrest : Ended rest)
    (h : Lexes rest tokens) :
    Lexes ('^' :: ((Decimal.write w).toList ++ rest)) (.weight w :: tokens) := by
  obtain ⟨numeral, hnumeral, hvalue⟩ := Decimal.scan_write_append hfinite hsign hread
    (hrest.stops fun c hc => inNumeral_of_isBlank hc)
  have hchars : numeral.chars = (Decimal.write w).toList := by
    have happend := Lexeme.chars_append_rest_scan ((Decimal.write w).toList ++ rest)
    rw [hnumeral] at happend
    exact List.append_cancel_right happend
  have hne : numeral.chars.isEmpty = false := by
    rw [hchars, List.isEmpty_eq_false_iff]
    intro hnil
    rw [String.toList_eq_nil_iff.mp hnil] at hread
    cases hread
  have hscan : Lexeme.scan '^' ((Decimal.write w).toList ++ rest) =
      ⟨'^' :: numeral.chars, .ok (some (.weight w)), rest⟩ := by
    change Lexeme.weight _ = _
    simp only [Lexeme.weight, hnumeral, hne, hvalue, hrest.atBoundary]
    rfl
  exact of_scan rfl hscan h

end Lexes

end Retrieval
