/-!
The settings of the engine, in three sections: how tokens become terms, how queries are processed,
and how documents are indexed. Each setting has a default.
-/

namespace Retrieval

/-- Settings of the pipeline: the names of its stages, and the longest term in bytes. -/
structure PipelineSettings where
  stages : List String := ["sstemmer"]
  maxTermLength : Nat := 40
  deriving DecidableEq, Repr

/-- Settings of query processing: whether terms are lowered, whether a query without any term left
is an error, and the names of the fields that are controls. -/
structure QuerySettings where
  lowercase : Bool := true
  rejectEmpty : Bool := false
  controls : List String := []
  deriving DecidableEq, Repr

/-- Settings of indexing: the longest identifier of a document in bytes, and the number of
documents in a run. -/
structure IndexingSettings where
  maxDocnoLength : Nat := 20
  flushEvery : Nat := 1000
  deriving DecidableEq, Repr

structure Settings where
  pipeline : PipelineSettings := {}
  query : QuerySettings := {}
  indexing : IndexingSettings := {}
  deriving DecidableEq, Repr

/-- A setting that must not be zero. -/
inductive PositiveSetting where
  | maxTermLength
  | maxDocnoLength
  | flushEvery
  deriving DecidableEq, Repr

def PositiveSetting.key : PositiveSetting → String
  | maxTermLength => "pipeline.max_term_length"
  | maxDocnoLength => "indexing.max_docno_length"
  | flushEvery => "indexing.flush_every"

def PositiveSetting.value (settings : Settings) : PositiveSetting → Nat
  | maxTermLength => settings.pipeline.maxTermLength
  | maxDocnoLength => settings.indexing.maxDocnoLength
  | flushEvery => settings.indexing.flushEvery

/-- Why settings cannot be had: a file cannot be read, its text is not a document of settings, or a
setting is zero. -/
inductive SettingsError where
  | unreadable (path : String)
  | malformed (path : String)
  | notPositive (setting : PositiveSetting)
  deriving DecidableEq, Repr

def PositiveSetting.message (setting : PositiveSetting) : String :=
  "invalid value for " ++ setting.key ++ ": must be greater than zero"

/-- Accepts settings of which none is zero that must not be. The first one that is decides the
error. -/
def Settings.validate (settings : Settings) : Except SettingsError Settings :=
  match [PositiveSetting.maxTermLength, .maxDocnoLength, .flushEvery].find? fun setting =>
      setting.value settings = 0 with
  | some setting => .error (.notPositive setting)
  | none => .ok settings

end Retrieval
