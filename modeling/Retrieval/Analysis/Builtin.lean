import Retrieval.Analysis.EnglishStopwords
import Retrieval.Analysis.Pipeline
import Retrieval.Analysis.Stemmer

/-!
The stages that come with the engine, and the names by which settings refer to them. Names are
matched in lower case.
-/

namespace Retrieval

/-- A stage that comes with the engine. -/
inductive Builtin where
  | lowercase
  | stemmer
  | stopwords (list : Stopwords)
  | removeLong (limit : Nat)

inductive StageError where
  | unknown (name : String)
  | zeroLimit
  deriving DecidableEq, Repr

def StageError.message : StageError → String
  | unknown name => "unknown pipeline stage: " ++ name
  | zeroLimit =>
      "invalid parameter for stage remove-long: maximum term length must be positive"

namespace Builtin

/-- The number of bytes to which a term is limited when nothing else is said. -/
def defaultLimit : Nat := 40

def name : Builtin → String
  | lowercase => "lowercase"
  | stemmer => "sstemmer"
  | stopwords _ => "stopwords"
  | removeLong _ => "remove-long"

def process : Builtin → String → Option String
  | lowercase, token => some (Text.lowercase token)
  | stemmer, token => some (Stemmer.stem token)
  | stopwords list, token => if list.contains token then none else some token
  | removeLong limit, token => if limit < token.utf8ByteSize then none else some token

def stage (builtin : Builtin) : Stage :=
  ⟨builtin.name, builtin.process⟩

/-- Finds a stage by its name. The limit is that of the stage that discards long tokens. -/
def ofName (limit : Nat) (name : String) : Except StageError Builtin :=
  match Text.lowercase name with
  | "lowercase" => .ok lowercase
  | "sstemmer" | "s-stemmer" => .ok stemmer
  | "stopwords" => .ok (stopwords .english)
  | "remove-long" => if limit = 0 then .error .zeroLimit else .ok (removeLong limit)
  | other => .error (.unknown other)

end Builtin

namespace Pipeline

def ofBuiltins (builtins : List Builtin) : Pipeline :=
  ⟨builtins.map Builtin.stage⟩

/-- The chain that is used when no settings choose another. -/
def default : Pipeline :=
  ofBuiltins [.stemmer]

/-- Builds a chain from the names of its stages. The first name that fails decides the error. -/
def ofNames (limit : Nat) (names : List String) : Except StageError Pipeline :=
  (names.mapM (Builtin.ofName limit)).map ofBuiltins

end Pipeline

end Retrieval
