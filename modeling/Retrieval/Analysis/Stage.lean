/-!
Stages, the single steps by which a token becomes a term. A stage changes a token or discards it,
and keeps nothing from one token to the next.
-/

namespace Retrieval

/-- One step of a pipeline. The result `none` discards the token. -/
structure Stage where
  name : String
  process : String → Option String

end Retrieval
