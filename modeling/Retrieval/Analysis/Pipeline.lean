import Retrieval.Analysis.Stage
import Retrieval.Text.Quoted

/-!
Pipelines, the chains of stages that turn the tokens of queries and documents into terms. The
stages run from left to right, each on the result of the one before, until one discards the token.
-/

namespace Retrieval

/-- A chain of stages. -/
structure Pipeline where
  stages : List Stage

namespace Pipeline

def empty : Pipeline := ⟨[]⟩

def push (pipeline : Pipeline) (stage : Stage) : Pipeline :=
  ⟨pipeline.stages ++ [stage]⟩

def append (first second : Pipeline) : Pipeline :=
  ⟨first.stages ++ second.stages⟩

instance : Append Pipeline := ⟨append⟩

def process (pipeline : Pipeline) (token : String) : Option String :=
  pipeline.stages.foldlM (fun current stage => stage.process current) token

/-- The term that a token becomes, if it is kept and not empty. -/
def term? (pipeline : Pipeline) (token : String) : Option String :=
  (pipeline.process token).filter fun term => !term.isEmpty

def names (pipeline : Pipeline) : List String :=
  pipeline.stages.map Stage.name

def size (pipeline : Pipeline) : Nat :=
  pipeline.stages.length

def isEmpty (pipeline : Pipeline) : Bool :=
  pipeline.stages.isEmpty

def describe (pipeline : Pipeline) : String :=
  "TermPipeline \x7b stages: " ++ Text.quotedList pipeline.names ++ " \x7d"

theorem process_append (first second : Pipeline) (token : String) :
    (first ++ second).process token = (first.process token).bind second.process := by
  change List.foldlM _ token (first.stages ++ second.stages) = _
  rw [List.foldlM_append]
  rfl

end Pipeline

end Retrieval
