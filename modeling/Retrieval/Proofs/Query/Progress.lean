import Retrieval.Proofs.Query.Places

/-!
How far a text has been read. Reading goes on by a blank or by a lexeme at a time, and whatever
comes next is seen from a place that was reached in this way. The tokens until there are settled;
all that is open is what becomes of the characters that are left. So a lexeme that has a fault
decides the outcome of the whole text, and a text that fails has such a lexeme.
-/

namespace Retrieval

/-- How far a text has been read: the tokens until a byte position, and the characters from there
on. -/
inductive ReadTo (text : List Char) : List Located → Nat → List Char → Prop
  | start : ReadTo text [] 0 text
  | blank {tokens : List Located} {position : Nat} {c : Char} {cs : List Char}
      (h : ReadTo text tokens position (c :: cs)) (hc : Text.isBlank c) :
      ReadTo text tokens (position + c.utf8Size) cs
  | skip {tokens : List Located} {position : Nat} {c : Char} {cs : List Char}
      (h : ReadTo text tokens position (c :: cs)) (hc : Text.isBlank c = false)
      (hscan : (Lexeme.scan c cs).outcome = .ok none) :
      ReadTo text tokens (position + Text.byteSize (Lexeme.scan c cs).text)
        (Lexeme.scan c cs).rest
  | token {tokens : List Located} {position : Nat} {c : Char} {cs : List Char} {token : Token}
      (h : ReadTo text tokens position (c :: cs)) (hc : Text.isBlank c = false)
      (hscan : (Lexeme.scan c cs).outcome = .ok (some token)) :
      ReadTo text
        (tokens ++ [⟨token, ⟨position, position + Text.byteSize (Lexeme.scan c cs).text⟩⟩])
        (position + Text.byteSize (Lexeme.scan c cs).text) (Lexeme.scan c cs).rest

namespace ReadTo

variable {text rest : List Char} {tokens : List Located} {position : Nat}

/-- The characters that are left are those from the position on. -/
theorem exists_before (h : ReadTo text tokens position rest) :
    ∃ before, text = before ++ rest ∧ Text.byteSize before = position := by
  induction h with
  | start => exact ⟨[], rfl, rfl⟩
  | @blank tokens position c cs _ hc ih =>
      obtain ⟨before, rfl, rfl⟩ := ih
      exact ⟨before ++ [c], by simp, by simp⟩
  | @skip tokens position c cs _ hc hscan ih =>
      obtain ⟨before, rfl, rfl⟩ := ih
      refine ⟨before ++ (Lexeme.scan c cs).text, ?_, Text.byteSize_append ..⟩
      rw [List.append_assoc, Lexeme.text_append_rest]
  | @token tokens position c cs token _ hc hscan ih =>
      obtain ⟨before, rfl, rfl⟩ := ih
      refine ⟨before ++ (Lexeme.scan c cs).text, ?_, Text.byteSize_append ..⟩
      rw [List.append_assoc, Lexeme.text_append_rest]

/-- The tokens of a text are those that were read and those of the characters that are left. -/
theorem locate_eq (h : ReadTo text tokens position rest) :
    locate 0 text = (locate position rest).map (tokens ++ ·) := by
  induction h with
  | start => cases locate 0 text <;> rfl
  | blank _ hc ih => rw [ih, locate_cons_blank hc]
  | skip _ hc hscan ih =>
      rw [ih, locate_cons_solid hc, Lexeme.locate, hscan]
  | @token tokens position c cs token _ hc hscan ih =>
      rw [ih, locate_cons_solid hc, Lexeme.locate, hscan]
      simp only
      cases locate (position + Text.byteSize (Lexeme.scan c cs).text) (Lexeme.scan c cs).rest with
      | error failure => rfl
      | ok after => simp [Except.map]

theorem locate_of_token {c : Char} {cs taken : List Char} {token : Token}
    (h : ReadTo text tokens position (c :: cs)) (hc : Text.isBlank c = false)
    (hscan : Lexeme.scan c cs = ⟨taken, .ok (some token), rest⟩) :
    locate 0 text = (locate (position + Text.byteSize taken) rest).map fun after =>
      tokens ++ ⟨token, ⟨position, position + Text.byteSize taken⟩⟩ :: after := by
  rw [h.locate_eq, locate_cons_solid hc, Lexeme.locate, hscan]
  simp only
  cases locate (position + Text.byteSize taken) rest <;> rfl

/-- The span of what is taken next holds it. -/
theorem holds {taken : List Char} (h : ReadTo text tokens position (taken ++ rest)) :
    Span.Holds ⟨position, position + Text.byteSize taken⟩ 0 text taken := by
  obtain ⟨before, rfl, rfl⟩ := h.exists_before
  exact ⟨before, rest, rfl, (Nat.zero_add _).symm, by rw [Nat.zero_add]⟩

theorem blanks (h : ReadTo text tokens position rest) :
    ReadTo text tokens (position + Text.byteSize (rest.takeWhile Text.isBlank))
      (rest.dropWhile Text.isBlank) := by
  induction rest generalizing position with
  | nil => exact h
  | cons c rest ih =>
      rw [List.takeWhile_cons, List.dropWhile_cons]
      rcases hc : Text.isBlank c with _ | _
      · exact h
      · simp only [if_true, Text.byteSize_cons]
        rw [← Nat.add_assoc]
        exact ih (h.blank hc)

/-- A fault is that of a lexeme to which reading comes. -/
theorem exists_fault {fault : LexFault} {span : Span} (h : ReadTo text tokens position rest)
    (hlocate : locate position rest = .error (fault, span)) :
    ∃ tokens c cs, ReadTo text tokens span.start (c :: cs) ∧ Text.isBlank c = false ∧
      (Lexeme.scan c cs).outcome = .error fault ∧
      span = ⟨span.start, span.start + Text.byteSize (Lexeme.scan c cs).text⟩ := by
  fun_induction locate position rest generalizing tokens with
  | case1 => cases hlocate
  | case2 position rest c cs hcons lexeme start span' fault' =>
      rename_i hscan
      obtain ⟨rfl, rfl⟩ := Prod.mk.inj (Except.error.inj hlocate)
      exact ⟨tokens, c, cs, hcons ▸ h.blanks, Text.isBlank_of_dropWhile hcons, hscan, rfl⟩
  | case3 position rest c cs hcons lexeme start span' hscan =>
      rename_i ih
      have hblanks := h.blanks
      rw [hcons] at hblanks
      exact ih (hblanks.skip (Text.isBlank_of_dropWhile hcons) hscan) hlocate
  | case4 position rest c cs hcons lexeme start span' token hscan =>
      rename_i ih
      have hblanks := h.blanks
      rw [hcons] at hblanks
      exact ih (hblanks.token (Text.isBlank_of_dropWhile hcons) hscan)
        (Except.map_eq_error_iff.mp hlocate)

end ReadTo

/-- A text fails if reading comes to a lexeme with a fault, and only then. -/
theorem locateTokens_eq_error_iff {text : String} {failure : LexError} :
    locateTokens text = .error failure ↔ ∃ tokens position c cs fault,
      ReadTo text.toList tokens position (c :: cs) ∧ Text.isBlank c = false ∧
      (Lexeme.scan c cs).outcome = .error fault ∧
      failure = ⟨fault, ⟨position, position + Text.byteSize (Lexeme.scan c cs).text⟩, text⟩ := by
  constructor
  · intro h
    unfold locateTokens at h
    split at h
    · cases h
    · rename_i fault span hlocate
      obtain ⟨tokens, c, cs, hread, hc, hscan, hspan⟩ := ReadTo.start.exists_fault hlocate
      rw [← Except.error.inj h]
      exact ⟨tokens, span.start, c, cs, fault, hread, hc, hscan, by rw [← hspan]⟩
  · rintro ⟨tokens, position, c, cs, fault, hread, hc, hscan, rfl⟩
    have hlocate : locate 0 text.toList =
        .error (fault, ⟨position, position + Text.byteSize (Lexeme.scan c cs).text⟩) := by
      rw [hread.locate_eq, locate_cons_solid hc, Lexeme.locate, hscan]
      rfl
    rw [locateTokens, hlocate]

theorem ReadTo.locateTokens_of_fault {text : String} {tokens : List Located} {position : Nat}
    {c : Char} {cs taken rest : List Char} {fault : LexFault}
    (h : ReadTo text.toList tokens position (c :: cs)) (hc : Text.isBlank c = false)
    (hscan : Lexeme.scan c cs = ⟨taken, .error fault, rest⟩) :
    locateTokens text = .error ⟨fault, ⟨position, position + Text.byteSize taken⟩, text⟩ :=
  locateTokens_eq_error_iff.mpr
    ⟨tokens, position, c, cs, fault, h, hc, by rw [hscan], by rw [hscan]⟩

end Retrieval
