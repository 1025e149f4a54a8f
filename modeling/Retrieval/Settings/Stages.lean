import Retrieval.Analysis.Builtin
import Retrieval.Settings.Basic

/-!
The pipeline that settings describe by the names of its stages. Queries and documents share it.
-/

namespace Retrieval

def PipelineSettings.build (settings : PipelineSettings) : Except StageError Pipeline :=
  Pipeline.ofNames settings.maxTermLength settings.stages

end Retrieval
