/-!
The tokens of the query language, each with the part of the text from which it was read, and the
faults that keep a text from being read as tokens.
-/

namespace Retrieval

/-- A token. The content of a phrase stands between its quotes; the name of a field stands before
its colon. -/
inductive Token where
  | term (text : String)
  | phrase (content : String)
  | plus
  | minus
  | openBrace
  | closeBrace
  | field (name : String)
  | weight (factor : Float)
  | window (size : Nat)

/-- A part of a text from one byte position up to another one. -/
structure Span where
  start : Nat
  stop : Nat
  deriving DecidableEq, Repr

structure Located where
  token : Token
  span : Span

/-- Why a text cannot be read as tokens. A malformed number comes with the characters up to the
next white space or closing brace. -/
inductive LexFault where
  | unclosedQuote
  | missingWeight
  | invalidWeight (run : String)
  | missingWindow
  | invalidWindow (run : String)
  | other (message : String)
  deriving DecidableEq, Repr

def LexFault.message : LexFault → String
  | unclosedQuote => "unclosed quote"
  | missingWeight => "expected number after '^'"
  | invalidWeight run => "invalid weight: " ++ run
  | missingWindow => "expected window size after '~'"
  | invalidWindow run => "invalid window size: " ++ run
  | other message => message

structure LexError where
  fault : LexFault
  span : Span
  input : String
  deriving DecidableEq, Repr

end Retrieval
