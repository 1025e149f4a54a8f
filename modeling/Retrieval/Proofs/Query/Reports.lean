import Retrieval.Proofs.Query.Failures
import Retrieval.Proofs.Query.Hints
import Retrieval.Proofs.Query.Reading

/-!
Reports of failures, line by line. The wording of a failure quotes runs and names of fields, none of
which holds white space, so it is one line; the report on a text of one line has this line, the
text, the caret and the hint. The caret stands behind as many spaces as there are bytes before the
place of the failure, which is under that place if all characters before it take one byte.
-/

namespace Retrieval

/-! ### Lines -/

namespace Text

def IsLine (text : String) : Prop :=
  '\n' ∉ text.toList

instance (text : String) : Decidable (IsLine text) :=
  inferInstanceAs (Decidable (¬ _))

def lines (text : String) : List String :=
  (text.toList.splitOn '\n').map String.ofList

theorem IsLine.append {first second : String} (hfirst : IsLine first) (hsecond : IsLine second) :
    IsLine (first ++ second) := by
  rw [IsLine, String.toList_append, List.mem_append]
  exact not_or.mpr ⟨hfirst, hsecond⟩

theorem IsLine.of_solid {text : String} (h : ∀ c ∈ text.toList, isSolid c) : IsLine text :=
  fun hmem => absurd (h '\n' hmem) (by decide)

theorem lines_of_isLine {text : String} (h : IsLine text) : lines text = [text] := by
  rw [lines, List.splitOn_eq_singleton h, List.map_singleton, String.ofList_toList]

theorem lines_append_break {line : String} (h : IsLine line) (rest : String) :
    lines (line ++ ("\n" ++ rest)) = line :: lines rest := by
  have hchars : (line ++ ("\n" ++ rest)).toList = line.toList ++ '\n' :: rest.toList := by
    simp
  rw [lines, hchars, List.splitOn_append_cons_self_of_not_mem h, List.map_cons,
    String.ofList_toList, lines]

end Text

/-! ### Wordings -/

theorem LexFault.Spoils.isLine_message {part : List Char} {fault : LexFault}
    (h : fault.Spoils part) : Text.IsLine fault.message := by
  have hquoted : ∀ (label : String) {run : List Char}, Text.IsLine label →
      (∀ c ∈ run, Text.isSolid c) → Text.IsLine (label ++ String.ofList run) := by
    intro label run hlabel hrun
    exact hlabel.append (.of_solid (by rwa [String.toList_ofList]))
  cases h with
  | phrase => decide
  | weight hrun hfault =>
      rw [hfault, weightFault]
      split
      · exact hquoted "invalid weight: " (by decide) hrun
      · decide
  | window hrun hfault =>
      rw [hfault, windowFault]
      split
      · exact hquoted "invalid window size: " (by decide) hrun
      · decide

/-- Whether a fault of some tokens names no fields but those of the tokens. -/
def ParseFault.Names (tokens : List Located) : ParseFault → Prop
  | missingOperand name => ∃ located ∈ tokens, located.token = .field name
  | strayField name => ∃ located ∈ tokens, located.token = .field name
  | lexical _ => False
  | other _ => False
  | _ => True

theorem ParseFault.Names.mono {tokens others : List Located} {fault : ParseFault}
    (h : fault.Names tokens) (hsub : tokens ⊆ others) : fault.Names others := by
  cases fault with
  | missingOperand name =>
      obtain ⟨located, hmem, htoken⟩ := h
      exact ⟨located, hsub hmem, htoken⟩
  | strayField name =>
      obtain ⟨located, hmem, htoken⟩ := h
      exact ⟨located, hsub hmem, htoken⟩
  | _ => exact h

namespace Clause

variable {tokens : List Located} {mismatch : Mismatch}

theorem names_of_takePhrase {head : Located} {content : String} (others : List Located)
    (h : takePhrase head content tokens = .error mismatch) : mismatch.fault.Names others := by
  unfold takePhrase at h
  split at h
  · cases h
    trivial
  · split at h
    · cases h
    · split at h <;> cases h

theorem names_of_takeGroup {brace : Located} (others : List Located)
    (h : takeGroup brace tokens = .error mismatch) : mismatch.fault.Names others := by
  simp only [takeGroup] at h
  split at h
  · split at h
    · cases h
      trivial
    · cases h
  · cases h
    trivial

theorem names_of_takeOperand (h : takeOperand tokens = .error mismatch) :
    mismatch.fault.Names tokens := by
  unfold takeOperand at h
  split at h
  · cases h
    trivial
  · rename_i head rest
    split at h
    · cases h
    · exact names_of_takePhrase _ h
    · exact names_of_takeGroup _ h
    case h_9 name hfield =>
      cases h
      exact ⟨head, List.mem_cons_self, hfield⟩
    all_goals
      cases h
      trivial

theorem names_of_takeFielded (h : takeFielded tokens = .error mismatch) :
    mismatch.fault.Names tokens := by
  unfold takeFielded at h
  split at h
  · rename_i name span rest
    split at h
    · have hrest := names_of_takeOperand (Except.map_eq_error_iff.mp h)
      exact hrest.mono (List.subset_cons_self _ _)
    · cases h
      exact ⟨_, List.mem_cons_self, rfl⟩
  · exact names_of_takeOperand (Except.map_eq_error_iff.mp h)

theorem names_of_takeWeighted (h : takeWeighted tokens = .error mismatch) :
    mismatch.fault.Names tokens :=
  names_of_takeFielded (Except.map_eq_error_iff.mp h)

theorem names_of_takeClause (h : takeClause tokens = .error mismatch) :
    mismatch.fault.Names tokens := by
  unfold takeClause at h
  split at h
  · have hrest := names_of_takeWeighted (Except.map_eq_error_iff.mp h)
    exact hrest.mono (List.subset_cons_self _ _)
  · have hrest := names_of_takeWeighted (Except.map_eq_error_iff.mp h)
    exact hrest.mono (List.subset_cons_self _ _)
  · exact names_of_takeWeighted h

/-- Tokens that are no query fail for a fault that names no fields but theirs. -/
theorem names_of_ofTokens (h : ofTokens tokens = .error mismatch) :
    mismatch.fault.Names tokens := by
  fun_induction ofTokens tokens with
  | case1 => cases h
  | case2 tokens hne mismatch' htake =>
      cases h
      exact names_of_takeClause htake
  | case3 tokens hne clause rest htake ih =>
      obtain ⟨segment, rfl, -⟩ := spells_of_takeClause htake
      exact (ih (Except.map_eq_error_iff.mp h)).mono (List.subset_append_right _ _)

end Clause

theorem ParseFault.Names.isLine_message {text : String} {tokens : List Located}
    {fault : ParseFault} (h : fault.Names tokens) (hcut : Cut 0 text.toList tokens) :
    Text.IsLine fault.message := by
  have hname : ∀ {name : String}, (∃ located ∈ tokens, located.token = .field name) →
      Text.IsLine name := by
    rintro name ⟨located, hmem, htoken⟩
    obtain ⟨spelling, -, hspells⟩ := hcut.exists_spelling located hmem
    rw [htoken] at hspells
    exact .of_solid (IsBare.isSolid hspells.scanned).solid
  have hquoted : ∀ (front back : String) {name : String}, Text.IsLine front → Text.IsLine back →
      (∃ located ∈ tokens, located.token = .field name) → Text.IsLine (front ++ name ++ back) :=
    fun front back name hfront hback h => (hfront.append (hname h)).append hback
  cases fault with
  | missingOperand name =>
      exact hquoted "expected term, phrase or synonym group after '" ":'" (by decide) (by decide) h
  | strayField name => exact hquoted "unexpected field prefix '" ":'" (by decide) (by decide) h
  | lexical fault => exact h.elim
  | other message => exact h.elim
  | _ => decide

namespace Query

/-- The wording of a failure is one line, whatever the text. -/
theorem isLine_message_of_parse {text : String} {error : QueryError}
    (h : parse text = .error error) : Text.IsLine error.message := by
  obtain ⟨failure, hfailure, rfl⟩ | ⟨tokens, mismatch, htokens, hmismatch, rfl⟩ :=
    failure_of_parse h
  · obtain ⟨part, -, -, hspoils⟩ := LexError.exists_spoils hfailure
    exact hspoils.isLine_message
  · have hcut := Cut.of_locate (locate_of_locateTokens htokens)
    have hnames := Clause.names_of_ofTokens hmismatch
    obtain ⟨fault, place⟩ := mismatch
    cases place <;> exact hnames.isLine_message hcut

end Query

/-! ### The caret -/

def caretAfter (spaces : Nat) : String :=
  String.ofList (List.replicate spaces ' ' ++ ['^'])

theorem caretAfter_inj {spaces others : Nat} :
    caretAfter spaces = caretAfter others ↔ spaces = others := by
  refine ⟨fun h => ?_, congrArg caretAfter⟩
  have hlength := congrArg List.length (String.ofList_injective h)
  simpa using hlength

theorem caretLine_eq (position : Nat) : caretLine position = caretAfter (2 + position) := by
  rw [← String.toList_inj, caretLine, caretAfter, List.replicate_add]
  simp

theorem isLine_caretAfter (spaces : Nat) : Text.IsLine (caretAfter spaces) := by
  simp [Text.IsLine, caretAfter]

namespace QueryError

/-- The last line of a report, which is empty if there is no hint. -/
def advice (error : QueryError) : String :=
  match error.hint? with
  | some hint => "hint: " ++ hint.message
  | none => ""

theorem isLine_advice (error : QueryError) : Text.IsLine error.advice := by
  rw [advice]
  cases error.hint? with
  | none => decide
  | some hint => cases hint <;> decide

theorem isLine_heading (error : QueryError) : Text.IsLine error.heading := by
  unfold heading
  split <;> decide

variable {error : QueryError} {text : String} {position : Nat}

/-- The lines of a report on a text of one line. -/
theorem LiesAt.lines_report (h : error.LiesAt text position) (htext : Text.IsLine text)
    (hmessage : Text.IsLine error.message) :
    Text.lines error.report = [error.heading ++ ": " ++ error.message, "  " ++ text,
      caretAfter (2 + position), error.advice] := by
  have hreport : error.report = (error.heading ++ ": " ++ error.message) ++ ("\n" ++
      (("  " ++ text) ++ ("\n" ++ (caretLine position ++ ("\n" ++ error.advice))))) := by
    rw [report, h.query_eq, advice]
    cases error.hint? <;>
      simp only [context, h.position_eq, Nat.min_eq_left h.le, String.append_assoc]
  have hheading := ((isLine_heading error).append (by decide : Text.IsLine ": ")).append hmessage
  have hcaret := caretLine_eq position ▸ isLine_caretAfter (2 + position)
  have hspaces : Text.IsLine ("  " ++ text) := Text.IsLine.append (by decide) htext
  rw [hreport, Text.lines_append_break hheading, Text.lines_append_break hspaces,
    Text.lines_append_break hcaret, Text.lines_of_isLine (isLine_advice error), caretLine_eq]

end QueryError

theorem LexError.lines_report {failure : LexError} (htext : Text.IsLine failure.input)
    (hmessage : Text.IsLine failure.fault.message) :
    Text.lines failure.report = ["query syntax error: " ++ failure.fault.message,
      "  " ++ failure.input, caretAfter (2 + failure.span.start)] := by
  have hspaces : "\n  " = "\n" ++ "  " := by
    decide
  have hreport : failure.report = ("query syntax error: " ++ failure.fault.message) ++ ("\n" ++
      (("  " ++ failure.input) ++ ("\n" ++ caretLine failure.span.start))) := by
    change "query syntax error: " ++ failure.fault.message ++ "\n  " ++ failure.input ++ "\n" ++
      caretLine failure.span.start = _
    simp only [hspaces, String.append_assoc]
  have hheading : Text.IsLine ("query syntax error: " ++ failure.fault.message) :=
    Text.IsLine.append (by decide) hmessage
  have hcaret := caretLine_eq failure.span.start ▸ isLine_caretAfter (2 + failure.span.start)
  have hinput : Text.IsLine ("  " ++ failure.input) := Text.IsLine.append (by decide) htext
  rw [hreport, Text.lines_append_break hheading, Text.lines_append_break hinput,
    Text.lines_of_isLine hcaret, caretLine_eq]

namespace Query

/-- A report on a text of one line shows the text in its second line and a caret in its third one,
also where a failure to read tokens is reported by itself. The caret stands behind two spaces and as
many as there are bytes before the place of the failure. So it stands under the first character of
what is found there, or just past the text if that is nothing, if each character before takes one
byte, and only then. -/
theorem caret_behind_bytes {text : String} {error : QueryError} (htext : '\n' ∉ text.toList)
    (h : parse text = .error error) :
    ∃ before after, text.toList = before ++ after ∧
      error.position? = some (Text.byteSize before) ∧ (error.fragment? = none ↔ after = []) ∧
      (∀ fragment ∈ error.fragment?, fragment ≠ "" ∧ fragment.toList <+: after) ∧
      Text.lines error.report = [error.heading ++ ": " ++ error.message, "  " ++ text,
        caretAfter (2 + Text.byteSize before), error.advice] ∧
      (∀ failure, locateTokens text = .error failure →
        Text.lines failure.report = (Text.lines error.report).take 3) ∧
      ((Text.lines error.report)[2]? = some (caretAfter (2 + before.length)) ↔
        ∀ c ∈ before, c.utf8Size = 1) := by
  obtain ⟨position, hlies⟩ := liesAt_of_parse h
  have hmessage := isLine_message_of_parse h
  have hlines := hlies.lines_report htext hmessage
  obtain ⟨before, after, hcut, rfl⟩ := hlies.boundary
  refine ⟨before, after, hcut, hlies.position_eq, ?_, ?_, hlines, ?_, ?_⟩
  · have hempty : Text.byteSize after = 0 ↔ after = [] := by
      refine ⟨fun hzero => ?_, fun hnil => by rw [hnil, Text.byteSize_nil]⟩
      by_contra hne
      exact absurd hzero (Text.byteSize_pos hne).ne'
    rw [hlies.fragment_eq_none, hcut, Text.byteSize_append, ← hempty]
    omega
  · intro fragment hfragment
    obtain ⟨hne, hpart⟩ := hlies.fragment fragment hfragment
    exact ⟨hne, Text.prefix_of_substring hcut hpart⟩
  · intro failure hfailure
    obtain ⟨_, hother, rfl⟩ | ⟨tokens, mismatch, htokens, -, rfl⟩ := failure_of_parse h
    · cases hother.symm.trans hfailure
      obtain ⟨rfl, -⟩ := LexError.within hfailure
      have hstart : failure.span.start = Text.byteSize before :=
        Option.some.inj hlies.position_eq
      rw [hlines, LexError.lines_report htext hmessage, hstart]
      rfl
    · rw [hfailure] at htokens
      cases htokens
  · rw [hlines, ← Text.byteSize_eq_length_iff]
    simp only [List.getElem?_cons_succ, List.getElem?_cons_zero, Option.some.injEq, caretAfter_inj]
    omega

/-- A fault in a lexeme behind a character of three bytes. -/
theorem caret_behind_bytes_euro :
    '\n' ∉ "€ \"ü".toList ∧ ∃ error, parse "€ \"ü" = .error error ∧
      Text.lines error.report = ["query syntax error: unclosed quote", "  € \"ü", "      ^",
        "hint: Add a closing quote (\") to complete the phrase"] := by
  have htext : '\n' ∉ "€ \"ü".toList := by
    decide
  have hparse : parse "€ \"ü" = .error ⟨.lex .unclosedQuote ⟨4, 7⟩, some "€ \"ü"⟩ := by
    cbv
  obtain ⟨before, after, -, hposition, -, -, hlines, -⟩ := caret_behind_bytes htext hparse
  refine ⟨htext, _, hparse, hlines.trans ?_⟩
  rw [← Option.some.inj hposition, QueryError.advice, QueryError.hint?_unclosedQuote]
  decide

/-- Behind a character of two bytes and a space the caret stands past the brace that it is for. -/
theorem caret_past_brace :
    ∃ error, parse "é \x7d" = .error error ∧ error.fragment? = some "\x7d" ∧
      "é \x7d".toList = ['é', ' '] ++ ['}'] ∧ error.position? = some (Text.byteSize ['é', ' ']) ∧
      (Text.lines error.report)[1]? = some "  é \x7d" ∧
      (Text.lines error.report)[2]? = some "     ^" ∧
      (Text.lines error.report)[2]? ≠ some (caretAfter (2 + ['é', ' '].length)) := by
  have hparse : parse "é \x7d" =
      .error ⟨.parse .strayBrace (some 3) (some "\x7d"), some "é \x7d"⟩ := by
    cbv
  obtain ⟨position, hlies⟩ := liesAt_of_parse hparse
  have hposition : 3 = position := Option.some.inj hlies.position_eq
  have hlines := hlies.lines_report (by decide) (isLine_message_of_parse hparse)
  refine ⟨_, hparse, rfl, rfl, rfl, ?_⟩
  rw [hlines, ← hposition]
  exact ⟨rfl, rfl, by decide⟩

end Query

end Retrieval
