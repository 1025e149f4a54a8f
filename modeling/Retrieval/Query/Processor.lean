import Retrieval.Query.Compile
import Retrieval.Query.Controls
import Retrieval.Query.Parse
import Retrieval.Settings.Stages

/-!
Processing queries from their texts to match terms: the text is read, its controls are taken out,
its tokens become terms, and what is left is compiled. The control named `qid` names the query.
-/

namespace Retrieval

/-- How queries are processed. The names of controls are in lower case. -/
structure Processor where
  pipeline : Pipeline
  controls : Std.ExtTreeSet String := ∅
  lowercase : Bool := true
  rejectEmpty : Bool := false

structure ProcessedQuery where
  query : Query
  controls : Controls
  terms : Collection

namespace Processor

def withControls (processor : Processor) (names : List String) : Processor :=
  { processor with controls := processor.controls.insertMany (names.map Text.lowercase) }

def ofSettings (settings : Settings) : Except StageError Processor :=
  settings.pipeline.build.map fun pipeline =>
    { pipeline
      controls := Std.ExtTreeSet.ofList (settings.query.controls.map Text.lowercase)
      lowercase := settings.query.lowercase
      rejectEmpty := settings.query.rejectEmpty }

def processQuery (processor : Processor) (query : Query) : ProcessedQuery :=
  let taken := query.takeControls processor.controls ∅
  let normalised := taken.query.normalise processor.pipeline
  let start : Collection := { queryId := taken.controls["qid"]? }
  { query := normalised
    controls := taken.controls
    terms := start.compile normalised { lowercase := processor.lowercase } }

def process (processor : Processor) (text : String) : Except QueryError ProcessedQuery :=
  (Query.parse text).bind fun query =>
    let processed := processor.processQuery query
    if processor.rejectEmpty && processed.query.isEmpty then .error (.ofEmpty text)
    else .ok processed

end Processor

end Retrieval
