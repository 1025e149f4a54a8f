import Retrieval.Match.Operator
import Std.Data.ExtTreeSet

/-!
Match terms: operators with the weight, the requirement and the labels with which they are matched,
and the statistics that an index supplies later.
-/

namespace Retrieval

/-- What an index knows of one term: its place in the lexicon, the number of documents that hold
it, and the number of its occurrences in all documents. -/
structure TermStatistics where
  termId : Nat
  documentFrequency : Nat
  frequency : Nat
  deriving DecidableEq, Repr, Inhabited

/-- An operator with its configuration. The models are names, in the order of their use. -/
structure MatchTerm where
  operator : Operator
  weight : Float := 1
  required : Option Bool := none
  tags : Std.ExtTreeSet String := ∅
  models : List String := []
  statistics : Option TermStatistics := none

namespace MatchTerm

def key (term : MatchTerm) : String :=
  term.operator.canonical

/-- Takes in a later occurrence of the same operator: weights are added and tags united, and all
else stays as it was at the first occurrence. -/
def merge (first later : MatchTerm) : MatchTerm :=
  { first with
    weight := first.weight + later.weight
    tags := first.tags ∪ later.tags }

@[simp] theorem key_merge (first later : MatchTerm) : (first.merge later).key = first.key := rfl

end MatchTerm

end Retrieval
