import Retrieval.Query.Token
import Retrieval.Text.Bytes

/-!
Failures of a query and what its user is told of them. A failure names its cause and, where there
is one, its place in the text, counted in bytes; the report shows the text with a caret under that
place, and a hint for the common mistakes.
-/

namespace Retrieval

inductive ParseFault where
  | missingOperand (field : String)
  | strayBrace
  | strayRequirement
  | strayWeight
  | strayWindow
  | strayField (name : String)
  | endOfQuery
  | emptyPhrase
  | unclosedGroup
  | emptyGroup
  | lexical (fault : LexFault)
  | other (message : String)
  deriving DecidableEq, Repr

def ParseFault.message : ParseFault → String
  | missingOperand field =>
      "expected term, phrase or synonym group after '" ++ field ++ ":'"
  | strayBrace => "unexpected '\x7d' without opening brace"
  | strayRequirement => "expected term after requirement prefix"
  | strayWeight => "unexpected weight (needs a term before it)"
  | strayWindow => "unexpected window (only phrases take '~N')"
  | strayField name => "unexpected field prefix '" ++ name ++ ":'"
  | endOfQuery => "unexpected end of query"
  | emptyPhrase => "empty phrase"
  | unclosedGroup => "expected closing brace"
  | emptyGroup => "empty synonym group"
  | lexical fault => fault.message
  | other message => message

/-- A fault with its place and the text found there, where they are known. -/
structure ParseError where
  fault : ParseFault
  position : Option Nat
  fragment : Option String
  deriving DecidableEq, Repr

/-- The position of a caret: that many spaces and the caret. -/
def caretLine (position : Nat) : String :=
  "  " ++ String.ofList (List.replicate position ' ') ++ "^"

def LexError.report (error : LexError) : String :=
  "query syntax error: " ++ error.fault.message ++ "\n  " ++ error.input ++ "\n" ++
    caretLine error.span.start

def LexError.toParseError (error : LexError) : ParseError :=
  ⟨.lexical error.fault, some error.span.start,
    Text.substring error.span.start error.span.stop error.input⟩

inductive QueryError.Cause where
  | lex (fault : LexFault) (span : Span)
  | parse (fault : ParseFault) (position : Option Nat) (fragment : Option String)
  | empty
  deriving DecidableEq, Repr

/-- The failure of a query, with its text where it is known. -/
structure QueryError where
  cause : QueryError.Cause
  query : Option String
  deriving DecidableEq, Repr

inductive Hint where
  | closeQuote
  | giveNumber
  | closeBrace
  | allDiscarded
  deriving DecidableEq, Repr

def Hint.message : Hint → String
  | closeQuote => "Add a closing quote (\") to complete the phrase"
  | giveNumber => "A weight needs a number, e.g., 'zebra^0.5'"
  | closeBrace => "Add a closing brace \x7d to complete the synonym group"
  | allDiscarded => "All terms were removed by the term pipeline (stopwords?)"

namespace QueryError

def ofLexError (error : LexError) : QueryError :=
  ⟨.lex error.fault error.span, some error.input⟩

/-- The failure of tokens that cannot be read as a query. The text is not yet known. -/
def ofParseError (error : ParseError) : QueryError :=
  ⟨.parse error.fault error.position error.fragment, none⟩

def ofEmpty (query : String) : QueryError :=
  ⟨.empty, some query⟩

def withQuery (error : QueryError) (query : String) : QueryError :=
  { error with query := some query }

def message (error : QueryError) : String :=
  match error.cause with
  | .lex fault _ => fault.message
  | .parse fault _ _ => fault.message
  | .empty => "query has no terms after normalization"

def position? (error : QueryError) : Option Nat :=
  match error.cause with
  | .lex _ span => some span.start
  | .parse _ position _ => position
  | .empty => none

def fragment? (error : QueryError) : Option String :=
  match error.cause with
  | .lex _ span => error.query.bind (Text.substring span.start span.stop)
  | .parse _ _ fragment => fragment
  | .empty => none

/-- The hint for a failure, chosen by its wording. -/
def hint? (error : QueryError) : Option Hint :=
  match error.cause with
  | .lex fault _ =>
      if fault.message.contains "unclosed quote" then some .closeQuote
      else if fault.message.contains "'^'" || fault.message.contains "weight" then
        some .giveNumber
      else none
  | .parse fault _ _ =>
      if fault.message.contains "closing brace" then some .closeBrace else none
  | .empty => some .allDiscarded

def heading (error : QueryError) : String :=
  match error.cause with
  | .empty => "query error"
  | _ => "query syntax error"

/-- The lines that show a query, with a caret if the place of the failure is known. The caret stands
at most just past the text. -/
def context (query : String) (position? : Option Nat) : String :=
  "  " ++ query ++ "\n" ++
    match position? with
    | some position => caretLine (min position (Text.byteSize query.toList)) ++ "\n"
    | none => ""

def report (error : QueryError) : String :=
  error.heading ++ ": " ++ error.message ++ "\n" ++
    (match error.query with
      | some query => context query error.position?
      | none => "") ++
    (match error.hint? with
      | some hint => "hint: " ++ hint.message
      | none => "")

end QueryError

end Retrieval
