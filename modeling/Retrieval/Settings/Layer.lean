import Retrieval.Settings.Basic
import Retrieval.Toml.Value

/-!
Layers of settings. A document says something about some of the settings only, and the layer keeps
what it says. A section is a table of its settings, or a list of their values in order.
-/

namespace Retrieval

open Toml (Value Entries)

structure PipelineLayer where
  stages : Option (List String) := none
  maxTermLength : Option Nat := none
  deriving DecidableEq, Repr

structure QueryLayer where
  lowercase : Option Bool := none
  rejectEmpty : Option Bool := none
  controls : Option (List String) := none
  deriving DecidableEq, Repr

structure IndexingLayer where
  maxDocnoLength : Option Nat := none
  flushEvery : Option Nat := none
  deriving DecidableEq, Repr

/-- What a document says about the settings, section by section. -/
structure Layer where
  pipeline : Option PipelineLayer := none
  query : Option QueryLayer := none
  indexing : Option IndexingLayer := none
  deriving DecidableEq, Repr

namespace Toml.Value

def string? : Value → Option String
  | string text => some text
  | _ => none

def boolean? : Value → Option Bool
  | boolean flag => some flag
  | _ => none

def countLimit : Nat := UInt64.size

def count? : Value → Option Nat
  | integer (some number) =>
      if 0 ≤ number ∧ number.toNat < countLimit then some number.toNat else none
  | _ => none

/-- A value that is a list of strings. A single string is a list of one. -/
def strings? : Value → Option (List String)
  | string text => some [text]
  | array items => items.mapM string?
  | _ => none

/-- The entries of a value that is a section with some keys. -/
def sectionEntries? (keys : List String) : Value → Option Entries
  | table _ entries => some entries
  | array items => some (keys.zip items)
  | tables elements => some (keys.zip (elements.map (table .header)))
  | _ => none

end Toml.Value

namespace PipelineLayer

def keys : List String := ["stages", "max_term_length"]

def set? (layer : PipelineLayer) : String × Value → Option PipelineLayer
  | ("stages", value) => value.strings?.map ({ layer with stages := some · })
  | ("max_term_length", value) => value.count?.map ({ layer with maxTermLength := some · })
  | _ => none

def ofValue? (value : Value) : Option PipelineLayer :=
  (value.sectionEntries? keys).bind fun entries => entries.foldlM set? {}

end PipelineLayer

namespace QueryLayer

def keys : List String := ["lowercase", "reject_empty", "controls"]

def set? (layer : QueryLayer) : String × Value → Option QueryLayer
  | ("lowercase", value) => value.boolean?.map ({ layer with lowercase := some · })
  | ("reject_empty", value) => value.boolean?.map ({ layer with rejectEmpty := some · })
  | ("controls", value) => value.strings?.map ({ layer with controls := some · })
  | _ => none

def ofValue? (value : Value) : Option QueryLayer :=
  (value.sectionEntries? keys).bind fun entries => entries.foldlM set? {}

end QueryLayer

namespace IndexingLayer

def keys : List String := ["max_docno_length", "flush_every"]

def set? (layer : IndexingLayer) : String × Value → Option IndexingLayer
  | ("max_docno_length", value) => value.count?.map ({ layer with maxDocnoLength := some · })
  | ("flush_every", value) => value.count?.map ({ layer with flushEvery := some · })
  | _ => none

def ofValue? (value : Value) : Option IndexingLayer :=
  (value.sectionEntries? keys).bind fun entries => entries.foldlM set? {}

end IndexingLayer

namespace Layer

def set? (layer : Layer) : String × Value → Option Layer
  | ("pipeline", value) => (PipelineLayer.ofValue? value).map ({ layer with pipeline := some · })
  | ("query", value) => (QueryLayer.ofValue? value).map ({ layer with query := some · })
  | ("indexing", value) => (IndexingLayer.ofValue? value).map ({ layer with indexing := some · })
  | _ => none

def ofEntries? (entries : Entries) : Option Layer :=
  entries.foldlM set? {}

end Layer

end Retrieval
