import Retrieval.Settings.Layer
import Retrieval.Toml.Reader
import Retrieval.Toml.Writer

/-!
Settings from documents. The documents stand in the order of precedence, the strongest first: a
setting has the value of the first document that speaks of it, or its default. The settings can be
written as a document that speaks of all of them.
-/

namespace Retrieval

def PipelineLayer.apply (layer : PipelineLayer) (settings : PipelineSettings) :
    PipelineSettings where
  stages := layer.stages.getD settings.stages
  maxTermLength := layer.maxTermLength.getD settings.maxTermLength

def QueryLayer.apply (layer : QueryLayer) (settings : QuerySettings) : QuerySettings where
  lowercase := layer.lowercase.getD settings.lowercase
  rejectEmpty := layer.rejectEmpty.getD settings.rejectEmpty
  controls := layer.controls.getD settings.controls

def IndexingLayer.apply (layer : IndexingLayer) (settings : IndexingSettings) :
    IndexingSettings where
  maxDocnoLength := layer.maxDocnoLength.getD settings.maxDocnoLength
  flushEvery := layer.flushEvery.getD settings.flushEvery

namespace Layer

def apply (layer : Layer) (settings : Settings) : Settings where
  pipeline := (layer.pipeline.map (·.apply settings.pipeline)).getD settings.pipeline
  query := (layer.query.map (·.apply settings.query)).getD settings.query
  indexing := (layer.indexing.map (·.apply settings.indexing)).getD settings.indexing

/-- Reads a document of settings. The path only names the document in an error. -/
def parse (path text : String) : Except SettingsError Layer :=
  match (Toml.read? text).bind ofEntries? with
  | some layer => .ok layer
  | none => .error (.malformed path)

end Layer

/-- A file of settings, with its bytes if it can be opened. -/
structure SettingsFile where
  path : String
  bytes? : Option ByteArray

/-- Reads a file of settings, which must be text in UTF-8. -/
def SettingsFile.layer (file : SettingsFile) : Except SettingsError Layer :=
  match file.bytes?.bind String.fromUTF8? with
  | some text => Layer.parse file.path text
  | none => .error (.unreadable file.path)

namespace Settings

/-- The defaults with some layers over them, the strongest first. -/
def overlay (layers : List Layer) : Settings :=
  layers.foldr Layer.apply {}

def resolve (layers : List Layer) : Except SettingsError Settings :=
  (overlay layers).validate

def parse (text : String) : Except SettingsError Settings :=
  (Layer.parse "<string>" text).bind fun layer => (layer.apply {}).validate

/-- The settings that some files describe, the strongest first. The first file that fails decides
the error. -/
def load (files : List SettingsFile) : Except SettingsError Settings :=
  (files.mapM SettingsFile.layer).bind resolve

def sections (settings : Settings) : List Toml.Section :=
  [⟨"pipeline",
      [("stages", .strings settings.pipeline.stages),
        ("max_term_length", .integer settings.pipeline.maxTermLength)]⟩,
    ⟨"query",
      [("lowercase", .boolean settings.query.lowercase),
        ("reject_empty", .boolean settings.query.rejectEmpty),
        ("controls", .strings settings.query.controls)]⟩,
    ⟨"indexing",
      [("max_docno_length", .integer settings.indexing.maxDocnoLength),
        ("flush_every", .integer settings.indexing.flushEvery)]⟩]

def write (settings : Settings) : String :=
  Toml.write settings.sections

end Settings

end Retrieval
