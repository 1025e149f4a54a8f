import Retrieval.Proofs.Query.Grammar
import Retrieval.Proofs.Query.Lexing
import Retrieval.Proofs.Text.Slices

/-!
The places of tokens. The text at the place of a token spells the token, and between the places
there is nothing but white space and colons, so every character of a text belongs to one token or
to a gap. The places follow from the lexemes alone: each of them is the text that a reader took, and
the next one begins where it ends.
-/

namespace Retrieval

/-! ### Spellings -/

/-- Characters that make up a word: at least one, no white space and no mark of the language. -/
structure IsBare (cs : List Char) : Prop where
  ne_nil : cs ≠ []
  solid : ∀ c ∈ cs, Text.isBlank c = false
  unmarked : ∀ c ∈ cs, c ∉ ['{', '}', '"', '^', '~', ':']

/-- The token that some characters spell. Colons before a word are skipped. -/
inductive Token.Spells : List Char → Token → Prop
  | term {colons word : List Char} (hcolons : ∀ c ∈ colons, c = ':') (hword : IsBare word) :
      Spells (colons ++ word) (.term (String.ofList word))
  | field {colons word : List Char} (hcolons : ∀ c ∈ colons, c = ':') (hword : IsBare word) :
      Spells (colons ++ (word ++ [':'])) (.field (String.ofList word))
  | phrase {content : List Char} (hcontent : '"' ∉ content) :
      Spells ('"' :: (content ++ ['"'])) (.phrase (String.ofList content))
  | plus : Spells ['+'] .plus
  | minus : Spells ['-'] .minus
  | openBrace : Spells ['{'] .openBrace
  | closeBrace : Spells ['}'] .closeBrace
  | weight {chars : List Char} {factor : Float} (hchars : ∀ c ∈ chars, c.isDigit ∨ c = '.')
      (hfactor : Decimal.read? chars = some factor) : Spells ('^' :: chars) (.weight factor)
  | window {digits : List Char} (hne : digits ≠ []) (hdigits : ∀ c ∈ digits, c.isDigit)
      (hsize : Nat.ofDigitChars 10 digits 0 < 2 ^ 32) :
      Spells ('~' :: digits) (.window (Nat.ofDigitChars 10 digits 0))

theorem Token.Spells.ne_nil {chars : List Char} {token : Token} (h : token.Spells chars) :
    chars ≠ [] := by
  cases h with
  | term _ hword => exact List.append_ne_nil_of_right_ne_nil _ hword.ne_nil
  | field _ hword => simp
  | _ => exact List.cons_ne_nil _ _

namespace Lexeme

theorem isBare_run {c : Char} (hc : inWord c) (cs : List Char) :
    IsBare (c :: cs.takeWhile inWord) := by
  have hrun : ∀ d ∈ c :: cs.takeWhile inWord, inWord d :=
    List.forall_mem_cons.mpr ⟨hc, fun d => List.mem_takeWhile_imp⟩
  exact ⟨List.cons_ne_nil _ _, fun d hd => (inWord_iff.mp (hrun d hd)).1,
    fun d hd => (inWord_iff.mp (hrun d hd)).2⟩

/-- A text with something other than white space in it, up to its first lexeme and after it. -/
theorem eq_append_of_dropWhile {cs rest : List Char} {c : Char}
    (h : cs.dropWhile Text.isBlank = c :: rest) :
    cs = cs.takeWhile Text.isBlank ++ ((scan c rest).text ++ (scan c rest).rest) := by
  rw [text_append_rest, ← h, List.takeWhile_append_dropWhile]

variable {cs : List Char} {token : Token}

theorem spells_phrase (h : (phrase cs).outcome = .ok (some token)) :
    token.Spells (phrase cs).text := by
  simp only [phrase] at h ⊢
  cases hquote : cs.dropWhile (· != '"') with
  | nil => simp [hquote] at h
  | cons quote rest =>
      simp only [hquote, Except.ok.injEq, Option.some.injEq] at h ⊢
      have hstop := List.head?_dropWhile_not (· != '"') cs
      rw [hquote] at hstop
      obtain rfl : quote = '"' := by simpa using hstop
      subst h
      refine .phrase ?_
      intro hmem
      have hne := List.mem_takeWhile_imp hmem
      simp at hne

theorem spells_word {c : Char} {colons : List Char} (hcolons : ∀ d ∈ colons, d = ':')
    (hc : inWord c) (h : (word c cs).outcome = .ok (some token)) :
    token.Spells (colons ++ (word c cs).text) := by
  simp only [word] at h ⊢
  split at h
  · cases h
    exact .field hcolons (isBare_run hc cs)
  · cases h
    exact .term hcolons (isBare_run hc cs)

theorem spells_colons (h : (colons cs).outcome = .ok (some token)) :
    token.Spells (colons cs).text := by
  simp only [colons] at h ⊢
  split at h
  · cases h
  · rename_i c rest hrest
    by_cases hc : inWord c
    · simp only [hc, if_true] at h ⊢
      refine spells_word ?_ hc h
      intro d hd
      obtain rfl | hd := List.mem_cons.mp hd
      · rfl
      · exact beq_iff_eq.mp (List.mem_takeWhile_imp (p := (· == ':')) hd)
    · simp [hc] at h

theorem spells_weight (h : (weight cs).outcome = .ok (some token)) :
    token.Spells (weight cs).text := by
  have hdigits := Decimal.Numeral.isDigits_scan cs
  simp only [weight] at h ⊢
  split at h
  · cases h
  · rename_i hne
    rw [if_neg hne]
    split at h
    · rename_i factor hfactor
      split at h
      · rename_i hboundary
        cases h
        rw [if_pos hboundary]
        refine .weight (fun c hc => ?_) (hdigits.read?_chars.trans hfactor)
        simpa [Decimal.inNumeral] using hdigits.inNumeral_of_mem_chars hc
      · cases h
    · cases h

theorem spells_window (h : (window cs).outcome = .ok (some token)) :
    token.Spells (window cs).text := by
  simp only [window] at h ⊢
  split at h
  · cases h
  · rename_i hne
    rw [if_neg hne]
    split at h
    · rename_i hsize
      cases h
      rw [if_pos hsize]
      rw [Bool.and_eq_true, decide_eq_true_iff] at hsize
      exact .window (by simpa using hne) (fun c => List.mem_takeWhile_imp) hsize.1
    · cases h

/-- What a lexeme takes from a text spells its token. -/
theorem spells_scan {c : Char} (hc : Text.isBlank c = false)
    (h : (scan c cs).outcome = .ok (some token)) : token.Spells (scan c cs).text := by
  unfold scan at h ⊢
  split at h
  · exact spells_phrase h
  · cases h
    exact .openBrace
  · cases h
    exact .closeBrace
  · cases h
    exact .plus
  · cases h
    exact .minus
  · exact spells_weight h
  · exact spells_window h
  · exact spells_colons h
  · rename_i hquote hopen hclose _ _ hweight hwindow hcolon
    refine spells_word (List.forall_mem_nil _) (inWord_iff.mpr ⟨hc, ?_⟩) h
    simp only [List.mem_cons, List.not_mem_nil, or_false, not_or]
    exact ⟨hopen, hclose, hquote, hweight, hwindow, hcolon⟩

theorem word_outcome_ne_none (c : Char) (cs : List Char) : (word c cs).outcome ≠ .ok none := by
  unfold word
  split <;> exact nofun

theorem colon_of_mem_colons (h : (colons cs).outcome = .ok none) :
    ∀ d ∈ (colons cs).text, d = ':' := by
  have hskipped : ∀ d ∈ ':' :: cs.takeWhile (· == ':'), d = ':' :=
    List.forall_mem_cons.mpr
      ⟨rfl, fun d hd => beq_iff_eq.mp (List.mem_takeWhile_imp (p := (· == ':')) hd)⟩
  simp only [colons] at h ⊢
  split
  · exact hskipped
  · rename_i c rest hrest
    rw [hrest] at h
    by_cases hc : inWord c
    · simp only [hc, if_true] at h
      exact absurd h (word_outcome_ne_none c rest)
    · simp only [hc, Bool.false_eq_true, if_false]
      exact hskipped

/-- A lexeme without a token consists of colons. -/
theorem colon_of_mem_scan {c : Char} (h : (scan c cs).outcome = .ok none) :
    ∀ d ∈ (scan c cs).text, d = ':' := by
  unfold scan at h ⊢
  split at h
  · simp only [phrase] at h
    split at h <;> cases h
  · cases h
  · cases h
  · cases h
  · cases h
  · simp only [weight, malformed] at h
    repeat' split at h
    all_goals cases h
  · simp only [window, malformed] at h
    repeat' split at h
    all_goals cases h
  · exact colon_of_mem_colons h
  · exact absurd h (word_outcome_ne_none _ cs)

end Lexeme

/-! ### Spans -/

namespace Span

def Holds (span : Span) (position : Nat) (cs part : List Char) : Prop :=
  ∃ before after, cs = before ++ (part ++ after) ∧
    span.start = position + Text.byteSize before ∧
    span.stop = position + Text.byteSize before + Text.byteSize part

section

variable {span : Span} {position : Nat} {cs part : List Char}

theorem holds_append (position : Nat) (before part after : List Char) :
    Holds ⟨position + Text.byteSize before, position + Text.byteSize before + Text.byteSize part⟩
      position (before ++ (part ++ after)) part :=
  ⟨before, after, rfl, rfl, rfl⟩

/-- A part of what is left of a text is a part of the text. -/
theorem Holds.later {skipped : List Char}
    (h : span.Holds (position + Text.byteSize skipped) cs part) :
    span.Holds position (skipped ++ cs) part := by
  obtain ⟨before, after, rfl, hstart, hstop⟩ := h
  refine ⟨skipped ++ before, after, by rw [List.append_assoc], ?_, ?_⟩
  · rw [hstart, Text.byteSize_append, Nat.add_assoc]
  · rw [hstop, Text.byteSize_append, Nat.add_assoc position]

theorem Holds.le_start (h : span.Holds position cs part) : position ≤ span.start := by
  obtain ⟨before, after, -, hstart, -⟩ := h
  rw [hstart]
  exact Nat.le_add_right ..

theorem Holds.substring_eq {text : String} (h : span.Holds 0 text.toList part) :
    Text.substring span.start span.stop text = some (String.ofList part) := by
  obtain ⟨before, after, htext, hstart, hstop⟩ := h
  rw [Nat.zero_add] at hstart hstop
  rw [hstart, hstop, Text.substring, htext, Text.slice_append, Option.map_some]

/-- A span that cuts a part out of a text: between characters, and at least one of them. -/
structure Within (text : String) (span : Span) : Prop where
  start : Text.IsBoundary text.toList span.start
  stop : Text.IsBoundary text.toList span.stop
  lt : span.start < span.stop

theorem Holds.within {text : String} (h : span.Holds 0 text.toList part) (hpart : part ≠ []) :
    span.Within text := by
  obtain ⟨before, after, htext, hstart, hstop⟩ := h
  rw [Nat.zero_add] at hstart hstop
  refine ⟨⟨before, part ++ after, htext, hstart.symm⟩, ⟨before ++ part, after, ?_, ?_⟩, ?_⟩
  · rw [htext, List.append_assoc]
  · rw [hstop, Text.byteSize_append]
  · rw [hstart, hstop]
    exact Nat.lt_add_of_pos_right (Text.byteSize_pos hpart)

end

end Span

/-! ### Gaps -/

def Text.IsFiller (c : Char) : Prop :=
  isBlank c ∨ c = ':'

/-- How the text from a byte position on is cut into fillers and the spellings of tokens. -/
inductive Cut : Nat → List Char → List Located → Prop
  | nil (position : Nat) : Cut position [] []
  | filler {position : Nat} {c : Char} {cs : List Char} {tokens : List Located}
      (hc : Text.IsFiller c) (h : Cut (position + c.utf8Size) cs tokens) :
      Cut position (c :: cs) tokens
  | token {position : Nat} {spelling rest : List Char} {token : Token} {tokens : List Located}
      (hspelling : token.Spells spelling)
      (h : Cut (position + Text.byteSize spelling) rest tokens) :
      Cut position (spelling ++ rest)
        (⟨token, ⟨position, position + Text.byteSize spelling⟩⟩ :: tokens)

namespace Cut

theorem fillers {position : Nat} {fillers cs : List Char} {tokens : List Located}
    (hfillers : ∀ c ∈ fillers, Text.IsFiller c)
    (h : Cut (position + Text.byteSize fillers) cs tokens) :
    Cut position (fillers ++ cs) tokens := by
  induction fillers generalizing position with
  | nil => exact h
  | cons c fillers ih =>
      obtain ⟨hc, hfillers⟩ := List.forall_mem_cons.mp hfillers
      rw [Text.byteSize_cons, ← Nat.add_assoc] at h
      exact .filler hc (ih hfillers h)

theorem of_locate {position : Nat} {cs : List Char} {tokens : List Located}
    (h : locate position cs = .ok tokens) : Cut position cs tokens := by
  have hblanks : ∀ cs : List Char, ∀ c ∈ cs.takeWhile Text.isBlank, Text.IsFiller c :=
    fun cs c hc => .inl (List.mem_takeWhile_imp hc)
  fun_induction locate position cs generalizing tokens with
  | case1 position cs hnil =>
      cases h
      have hcs := Cut.fillers (hblanks cs) (.nil (position + _))
      rwa [← hnil, List.takeWhile_append_dropWhile] at hcs
  | case2 => cases h
  | case3 position cs c rest hcons lexeme start span hscan =>
      rename_i ih
      have hcolons : ∀ d ∈ (Lexeme.scan c rest).text, Text.IsFiller d :=
        fun d hd => .inr (Lexeme.colon_of_mem_scan hscan d hd)
      rw [Lexeme.eq_append_of_dropWhile hcons]
      exact .fillers (hblanks cs) (.fillers hcolons (ih h))
  | case4 position cs c rest hcons lexeme start span token hscan =>
      rename_i ih
      obtain ⟨after, hafter, rfl⟩ := Except.map_eq_ok_iff.mp h
      have hspells := Lexeme.spells_scan (Text.isBlank_of_dropWhile hcons) hscan
      rw [Lexeme.eq_append_of_dropWhile hcons]
      exact .fillers (hblanks cs) (.token hspells (ih hafter))

section

variable {position : Nat} {cs : List Char} {tokens : List Located}

/-- The span of a token holds the spelling of the token. -/
theorem exists_spelling (h : Cut position cs tokens) : ∀ located ∈ tokens,
    ∃ spelling, located.span.Holds position cs spelling ∧ located.token.Spells spelling := by
  induction h with
  | nil => exact List.forall_mem_nil _
  | @filler position c cs tokens hc _ ih =>
      intro located hmem
      obtain ⟨spelling, hholds, hspelling⟩ := ih located hmem
      have hlater : located.span.Holds position ([c] ++ cs) spelling := hholds.later
      exact ⟨spelling, hlater, hspelling⟩
  | @token position head rest token tokens hhead _ ih =>
      refine List.forall_mem_cons.mpr ⟨⟨head, Span.holds_append position [] head rest, hhead⟩, ?_⟩
      intro located hmem
      obtain ⟨spelling, hholds, hspelling⟩ := ih located hmem
      exact ⟨spelling, hholds.later, hspelling⟩

/-- Tokens do not overlap and come in the order of the text. -/
theorem pairwise (h : Cut position cs tokens) :
    tokens.Pairwise fun first second => first.span.stop ≤ second.span.start := by
  induction h with
  | nil => exact .nil
  | filler _ _ ih => exact ih
  | token _ h ih =>
      refine .cons (fun second hmem => ?_) ih
      obtain ⟨spelling, hholds, -⟩ := h.exists_spelling second hmem
      exact hholds.le_start

/-- A character that is at the place of no token is a filler. -/
theorem filled (h : Cut position cs tokens) {before after : List Char} {c : Char}
    (hcs : cs = before ++ c :: after) :
    Text.IsFiller c ∨ ∃ located ∈ tokens, located.span.start ≤ position + Text.byteSize before ∧
      position + Text.byteSize before < located.span.stop := by
  induction h generalizing before with
  | nil => simp at hcs
  | @filler position d cs tokens hd _ ih =>
      cases before with
      | nil =>
          cases hcs
          exact .inl hd
      | cons _ before =>
          cases hcs
          rw [Text.byteSize_cons, ← Nat.add_assoc]
          exact ih rfl
  | @token position spelling rest token tokens _ _ ih =>
      obtain ⟨before, rfl, rfl⟩ | ⟨part, rfl, hpart⟩ := List.append_eq_append_iff.mp hcs
      · rw [Text.byteSize_append, ← Nat.add_assoc]
        obtain hc | ⟨located, hmem, hlocated⟩ := ih rfl
        · exact .inl hc
        · exact .inr ⟨located, List.mem_cons_of_mem _ hmem, hlocated⟩
      · cases part with
        | nil =>
            have hrest : rest = [] ++ c :: after := hpart.symm
            obtain hc | ⟨located, hmem, hlocated⟩ := ih hrest
            · exact .inl hc
            · rw [Text.byteSize_append, Text.byteSize_nil, Nat.add_zero] at hlocated
              exact .inr ⟨located, List.mem_cons_of_mem _ hmem, hlocated⟩
        | cons d part =>
            refine .inr ⟨_, List.mem_cons_self, Nat.le_add_right .., ?_⟩
            rw [Text.byteSize_append]
            exact Nat.add_lt_add_left
              (Nat.lt_add_of_pos_right (Text.byteSize_pos (List.cons_ne_nil d part))) _

end

end Cut

/-! ### The tokens of a whole text -/

/-- Tokens that have places in a text: their spans are parts of it, in order and apart from each
other. -/
structure Placed (text : String) (tokens : List Located) : Prop where
  within : ∀ located ∈ tokens, located.span.Within text
  pairwise : tokens.Pairwise fun first second => first.span.stop ≤ second.span.start

/-- Tokens that account for a whole text: they have places in it, the text of a span spells its
token, and all characters outside the spans are fillers. -/
structure Accounts (text : String) (tokens : List Located) : Prop extends Placed text tokens where
  spells : ∀ located ∈ tokens, ∃ spelling,
    Text.substring located.span.start located.span.stop text = some spelling ∧
      located.token.Spells spelling.toList
  filled : ∀ before c after, text.toList = before ++ c :: after → Text.IsFiller c ∨
    ∃ located ∈ tokens, located.span.start ≤ Text.byteSize before ∧
      Text.byteSize before < located.span.stop

theorem locate_of_locateTokens {text : String} {tokens : List Located}
    (h : locateTokens text = .ok tokens) : locate 0 text.toList = .ok tokens := by
  unfold locateTokens at h
  split at h
  · rename_i hlocate
    rw [hlocate, Except.ok.inj h]
  · cases h

theorem Cut.accounts {text : String} {tokens : List Located} (h : Cut 0 text.toList tokens) :
    Accounts text tokens where
  within located hmem := by
    obtain ⟨spelling, hholds, hspelling⟩ := h.exists_spelling located hmem
    exact hholds.within hspelling.ne_nil
  pairwise := h.pairwise
  spells located hmem := by
    obtain ⟨spelling, hholds, hspelling⟩ := h.exists_spelling located hmem
    exact ⟨_, hholds.substring_eq, by rwa [String.toList_ofList]⟩
  filled before c after htext := by
    simpa using h.filled htext

/-- Reading tokens loses nothing of a text: the tokens with their places account for all of it, and
every lexeme, also one without a token, takes the text on by at least one character. -/
theorem locateTokens_lossless {text : String} {tokens : List Located}
    (h : locateTokens text = .ok tokens) :
    Accounts text tokens ∧ ∀ (c : Char) (rest : List Char), (Lexeme.scan c rest).text ≠ [] ∧
      (Lexeme.scan c rest).text ++ (Lexeme.scan c rest).rest = c :: rest :=
  ⟨(Cut.of_locate (locate_of_locateTokens h)).accounts,
    fun c rest => ⟨Lexeme.text_ne_nil c rest, Lexeme.text_append_rest c rest⟩⟩

/-- A stray colon, colons before the name of a field, and characters of two bytes. -/
theorem locateTokens_lossless_stray_colons :
    let text := "é : ::ñ:\"x ü\"~08"
    let tokens : List Located := [⟨.term "é", ⟨0, 2⟩⟩, ⟨.field "ñ", ⟨5, 10⟩⟩,
      ⟨.phrase "x ü", ⟨10, 16⟩⟩, ⟨.window 8, ⟨16, 19⟩⟩]
    locateTokens text = .ok tokens ∧ Accounts text tokens := by
  intro text tokens
  have htokens : locateTokens text = .ok tokens := by
    cbv
  exact ⟨htokens, (locateTokens_lossless htokens).1⟩

end Retrieval
