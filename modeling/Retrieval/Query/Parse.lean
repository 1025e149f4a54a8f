import Retrieval.Query.Clause
import Retrieval.Query.Failure
import Retrieval.Query.Lexeme

/-!
Reading queries. A clause is a sign, a field, an operand and a weight, of which only the operand
must be there; an operand is a term, a phrase with or without a window, or a group of terms in
braces. Each function takes the tokens of one part from the front of a list and returns the rest.
-/

namespace Retrieval

/-- Tokens that do not fit, with their place. Without a place the text ends too early. -/
structure Mismatch where
  fault : ParseFault
  place : Option Span
  deriving DecidableEq, Repr

/-- The mismatch at the first of the tokens that are left. -/
def Mismatch.here (fault : ParseFault) (tokens : List Located) : Mismatch :=
  ⟨fault, tokens.head?.map Located.span⟩

def Token.termText? : Token → Option String
  | term text => some text
  | _ => none

def Token.beginsOperand : Token → Bool
  | term _ => true
  | phrase _ => true
  | openBrace => true
  | _ => false

namespace Clause

/-- A phrase, its own token and those after it. A phrase of one word without a window is that
word. -/
def takePhrase (phrase : Located) (content : String) (tokens : List Located) :
    Except Mismatch (Pattern × List Located) :=
  match Text.splitWords content with
  | [] => .error ⟨.emptyPhrase, some phrase.span⟩
  | word :: words =>
      match tokens with
      | ⟨.window size, _⟩ :: rest => .ok (.phrase (word :: words) (some size), rest)
      | rest =>
          if words.isEmpty then .ok (.term word, rest)
          else .ok (.phrase (word :: words) none, rest)

/-- A group of terms, its opening brace and the tokens after it. -/
def takeGroup (brace : Located) (tokens : List Located) :
    Except Mismatch (Pattern × List Located) :=
  let isMember := fun (token : Located) => token.token.termText?.isSome
  let members := tokens.takeWhile isMember
  let last := members.getLast?.getD brace
  match tokens.dropWhile isMember with
  | ⟨.closeBrace, span⟩ :: rest =>
      if members.isEmpty then .error ⟨.emptyGroup, some ⟨brace.span.start, span.stop⟩⟩
      else .ok (.synonym (members.filterMap fun token => token.token.termText?), rest)
  | _ => .error ⟨.unclosedGroup, some ⟨brace.span.start, last.span.stop⟩⟩

def takeOperand : List Located → Except Mismatch (Pattern × List Located)
  | [] => .error (.here .endOfQuery [])
  | head :: rest =>
      match head.token with
      | .term text => .ok (.term text, rest)
      | .phrase content => takePhrase head content rest
      | .openBrace => takeGroup head rest
      | .closeBrace => .error ⟨.strayBrace, some head.span⟩
      | .plus => .error ⟨.strayRequirement, some head.span⟩
      | .minus => .error ⟨.strayRequirement, some head.span⟩
      | .weight _ => .error ⟨.strayWeight, some head.span⟩
      | .window _ => .error ⟨.strayWindow, some head.span⟩
      | .field name => .error ⟨.strayField name, some head.span⟩

def takeFielded (tokens : List Located) : Except Mismatch (Clause × List Located) :=
  match tokens with
  | ⟨.field name, _⟩ :: rest =>
      if (rest.head?.any fun next => next.token.beginsOperand) then
        (takeOperand rest).map fun (pattern, rest) => (field name (ofPattern pattern), rest)
      else .error (.here (.missingOperand name) rest)
  | _ => (takeOperand tokens).map fun (pattern, rest) => (ofPattern pattern, rest)

def takeWeight (clause : Clause) : List Located → Clause × List Located
  | ⟨.weight factor, _⟩ :: rest => (clause.scale factor, rest)
  | rest => (clause, rest)

def takeWeighted (tokens : List Located) : Except Mismatch (Clause × List Located) :=
  (takeFielded tokens).map fun (clause, rest) => takeWeight clause rest

def takeClause : List Located → Except Mismatch (Clause × List Located)
  | ⟨.plus, _⟩ :: rest =>
      (takeWeighted rest).map fun (clause, rest) => (required true clause, rest)
  | ⟨.minus, _⟩ :: rest =>
      (takeWeighted rest).map fun (clause, rest) => (required false clause, rest)
  | tokens => takeWeighted tokens

theorem length_le_of_takePhrase {phrase : Located} {content : String}
    {tokens rest : List Located} {pattern : Pattern}
    (h : takePhrase phrase content tokens = .ok (pattern, rest)) :
    rest.length ≤ tokens.length := by
  unfold takePhrase at h
  split at h
  · cases h
  · split at h
    · cases h
      simp
    · split at h <;> cases h <;> exact Nat.le_refl _

theorem length_lt_of_takeGroup {brace : Located} {tokens rest : List Located}
    {pattern : Pattern} (h : takeGroup brace tokens = .ok (pattern, rest)) :
    rest.length < tokens.length := by
  have hle := Text.length_dropWhile_le (fun token : Located => token.token.termText?.isSome) tokens
  simp only [takeGroup] at h
  split at h
  · rename_i hd
    rw [hd, List.length_cons] at hle
    split at h <;> cases h
    omega
  · cases h

theorem length_lt_of_takeOperand {tokens rest : List Located} {pattern : Pattern}
    (h : takeOperand tokens = .ok (pattern, rest)) : rest.length < tokens.length := by
  unfold takeOperand at h
  split at h
  · cases h
  · simp only [List.length_cons]
    split at h
    · cases h
      omega
    · have := length_le_of_takePhrase h
      omega
    · have := length_lt_of_takeGroup h
      omega
    all_goals cases h

theorem length_lt_of_takeFielded {tokens rest : List Located} {clause : Clause}
    (h : takeFielded tokens = .ok (clause, rest)) : rest.length < tokens.length := by
  unfold takeFielded at h
  split at h
  · rename_i name span after
    split at h
    · cases ho : takeOperand after with
      | error _ => simp [ho, Except.map] at h
      | ok result =>
          obtain ⟨pattern, after⟩ := result
          simp only [ho, Except.map, Except.ok.injEq, Prod.mk.injEq] at h
          have := length_lt_of_takeOperand ho
          simp only [← h.2, List.length_cons]
          omega
    · cases h
  · cases ho : takeOperand tokens with
    | error _ => simp [ho, Except.map] at h
    | ok result =>
        obtain ⟨pattern, after⟩ := result
        simp only [ho, Except.map, Except.ok.injEq, Prod.mk.injEq] at h
        exact h.2 ▸ length_lt_of_takeOperand ho

theorem length_takeWeight_le (clause : Clause) (tokens : List Located) :
    (takeWeight clause tokens).2.length ≤ tokens.length := by
  unfold takeWeight
  split <;> simp

theorem length_lt_of_takeWeighted {tokens rest : List Located} {clause : Clause}
    (h : takeWeighted tokens = .ok (clause, rest)) : rest.length < tokens.length := by
  unfold takeWeighted at h
  cases hf : takeFielded tokens with
  | error _ => simp [hf, Except.map] at h
  | ok result =>
      obtain ⟨inner, after⟩ := result
      simp only [hf, Except.map, Except.ok.injEq] at h
      have hlt := length_lt_of_takeFielded hf
      have hle := length_takeWeight_le inner after
      rw [h] at hle
      exact Nat.lt_of_le_of_lt hle hlt

/-- A clause takes at least one token. -/
theorem length_lt_of_takeClause {tokens rest : List Located} {clause : Clause}
    (h : takeClause tokens = .ok (clause, rest)) : rest.length < tokens.length := by
  unfold takeClause at h
  split at h
  · rename_i span after
    cases hw : takeWeighted after with
    | error _ => simp [hw, Except.map] at h
    | ok result =>
        obtain ⟨inner, after⟩ := result
        simp only [hw, Except.map, Except.ok.injEq, Prod.mk.injEq] at h
        have := length_lt_of_takeWeighted hw
        simp only [← h.2, List.length_cons]
        omega
  · rename_i span after
    cases hw : takeWeighted after with
    | error _ => simp [hw, Except.map] at h
    | ok result =>
        obtain ⟨inner, after⟩ := result
        simp only [hw, Except.map, Except.ok.injEq, Prod.mk.injEq] at h
        have := length_lt_of_takeWeighted hw
        simp only [← h.2, List.length_cons]
        omega
  · exact length_lt_of_takeWeighted h

def ofTokens (tokens : List Located) : Except Mismatch (List Clause) :=
  if tokens.isEmpty then .ok []
  else
    match _h : takeClause tokens with
    | .error mismatch => .error mismatch
    | .ok (clause, rest) => (ofTokens rest).map (clause :: ·)
termination_by tokens.length
decreasing_by exact length_lt_of_takeClause _h

end Clause

def Mismatch.toParseError (text : String) (mismatch : Mismatch) : ParseError :=
  match mismatch.place with
  | some span => ⟨mismatch.fault, some span.start, Text.substring span.start span.stop text⟩
  | none => ⟨mismatch.fault, some (Text.byteSize text.toList), none⟩

/-- Reads a query. White space alone gives a query without clauses. -/
def Query.parse (text : String) : Except QueryError Query :=
  match locateTokens text with
  | .error error => .error (.ofLexError error)
  | .ok tokens =>
      match Clause.ofTokens tokens with
      | .ok clauses => .ok ⟨clauses⟩
      | .error mismatch =>
          .error ((QueryError.ofParseError (mismatch.toParseError text)).withQuery text)

end Retrieval
