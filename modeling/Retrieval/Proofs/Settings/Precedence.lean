import Retrieval.Proofs.Settings.Acceptance

/-!
Precedence among layers. Layers are laid over the defaults from the weakest to the strongest, so a
value that was laid last hides the others. Seen from one setting, that is the value of the first
layer that speaks of it, whatever the layers say about other settings and however they divide them
into sections. The check for zeros sees these values only. A file has the layer of the document that
its bytes spell, and without one it has a failure of its own, so that no file is passed over.
-/

namespace Retrieval

/-- A setting, with the type of its values. -/
inductive Setting : Type → Type where
  | stages : Setting (List String)
  | maxTermLength : Setting Nat
  | lowercase : Setting Bool
  | rejectEmpty : Setting Bool
  | controls : Setting (List String)
  | maxDocnoLength : Setting Nat
  | flushEvery : Setting Nat

namespace Setting

variable {α : Type}

def said? : Setting α → Layer → Option α
  | stages, layer => layer.pipeline.bind (·.stages)
  | maxTermLength, layer => layer.pipeline.bind (·.maxTermLength)
  | lowercase, layer => layer.query.bind (·.lowercase)
  | rejectEmpty, layer => layer.query.bind (·.rejectEmpty)
  | controls, layer => layer.query.bind (·.controls)
  | maxDocnoLength, layer => layer.indexing.bind (·.maxDocnoLength)
  | flushEvery, layer => layer.indexing.bind (·.flushEvery)

def value : Setting α → Settings → α
  | stages, settings => settings.pipeline.stages
  | maxTermLength, settings => settings.pipeline.maxTermLength
  | lowercase, settings => settings.query.lowercase
  | rejectEmpty, settings => settings.query.rejectEmpty
  | controls, settings => settings.query.controls
  | maxDocnoLength, settings => settings.indexing.maxDocnoLength
  | flushEvery, settings => settings.indexing.flushEvery

/-- What the first layer says that speaks of the setting, or its default if none does. -/
def resolved (setting : Setting α) (layers : List Layer) : α :=
  (layers.findSome? setting.said?).getD (setting.value {})

/-- A layer changes the settings of which it speaks. A section that is there but does not speak of
a setting does as much as one that is absent. -/
theorem value_apply (setting : Setting α) (layer : Layer) (settings : Settings) :
    setting.value (layer.apply settings) = (setting.said? layer).getD (setting.value settings) := by
  obtain ⟨pipeline, query, indexing⟩ := layer
  cases setting with
  | stages => cases pipeline <;> rfl
  | maxTermLength => cases pipeline <;> rfl
  | lowercase => cases query <;> rfl
  | rejectEmpty => cases query <;> rfl
  | controls => cases query <;> rfl
  | maxDocnoLength => cases indexing <;> rfl
  | flushEvery => cases indexing <;> rfl

theorem value_overlay (setting : Setting α) (layers : List Layer) :
    setting.value (Settings.overlay layers) = setting.resolved layers := by
  induction layers with
  | nil => rfl
  | cons layer layers ih =>
      have happly : setting.value (Settings.overlay (layer :: layers)) =
          (setting.said? layer).getD (setting.value (Settings.overlay layers)) :=
        setting.value_apply layer _
      rw [happly, ih, resolved, resolved, List.findSome?_cons]
      cases setting.said? layer <;> rfl

end Setting

/-- Settings with the same values are the same. -/
theorem Settings.ext_value {first second : Settings}
    (h : ∀ {α : Type} (setting : Setting α), setting.value first = setting.value second) :
    first = second := by
  obtain ⟨⟨stages, maxTermLength⟩, ⟨lowercase, rejectEmpty, controls⟩,
    ⟨maxDocnoLength, flushEvery⟩⟩ := first
  obtain rfl : stages = _ := h .stages
  obtain rfl : maxTermLength = _ := h .maxTermLength
  obtain rfl : lowercase = _ := h .lowercase
  obtain rfl : rejectEmpty = _ := h .rejectEmpty
  obtain rfl : controls = _ := h .controls
  obtain rfl : maxDocnoLength = _ := h .maxDocnoLength
  obtain rfl : flushEvery = _ := h .flushEvery
  rfl

theorem Settings.eq_overlay_iff {settings : Settings} {layers : List Layer} :
    settings = overlay layers ↔
      ∀ {α : Type} (setting : Setting α), setting.value settings = setting.resolved layers := by
  constructor
  · rintro rfl α setting
    exact setting.value_overlay layers
  · intro h
    refine ext_value fun setting => ?_
    rw [h setting, setting.value_overlay]

/-! ### Zeros -/

namespace PositiveSetting

def setting : PositiveSetting → Setting Nat
  | maxTermLength => .maxTermLength
  | maxDocnoLength => .maxDocnoLength
  | flushEvery => .flushEvery

/-- Whether a setting is zero and those that are checked before it are not. -/
def IsFirstZero (value : PositiveSetting → Nat) : PositiveSetting → Prop
  | maxTermLength => value maxTermLength = 0
  | maxDocnoLength => 0 < value maxTermLength ∧ value maxDocnoLength = 0
  | flushEvery => 0 < value maxTermLength ∧ 0 < value maxDocnoLength ∧ value flushEvery = 0

theorem value_setting (positive : PositiveSetting) (settings : Settings) :
    positive.setting.value settings = positive.value settings := by
  cases positive <;> rfl

theorem find?_zero_eq_some_iff {value : PositiveSetting → Nat} {positive : PositiveSetting} :
    [PositiveSetting.maxTermLength, .maxDocnoLength, .flushEvery].find?
        (fun checked => value checked = 0) = some positive ↔ positive.IsFirstZero value := by
  by_cases hterm : value .maxTermLength = 0
  · cases positive <;> simp [IsFirstZero, hterm]
  · by_cases hdocno : value .maxDocnoLength = 0
    · cases positive <;> simp [IsFirstZero, hterm, hdocno, Nat.pos_iff_ne_zero]
    · cases positive <;> simp [IsFirstZero, hterm, hdocno, Nat.pos_iff_ne_zero]

end PositiveSetting

namespace Settings

theorem validate_eq_error_iff {settings : Settings} {error : SettingsError} :
    settings.validate = .error error ↔
      ∃ positive : PositiveSetting, positive.IsFirstZero (·.value settings) ∧
        error = .notPositive positive := by
  simp only [← PositiveSetting.find?_zero_eq_some_iff, validate]
  split
  · rename_i positive hpositive
    simp only [hpositive, Except.error.injEq, Option.some.injEq, exists_eq_left']
    exact eq_comm
  · rename_i hnone
    simp [hnone]

/-- Layers are resolved to the settings whose values come first among them, unless one of these
values is a zero that must not be. -/
theorem resolve_eq_ok_iff {layers : List Layer} {settings : Settings} :
    resolve layers = .ok settings ↔
      (∀ {α : Type} (setting : Setting α), setting.value settings = setting.resolved layers) ∧
      ∀ positive : PositiveSetting, 0 < positive.setting.resolved layers := by
  rw [resolve, validate_eq_ok_iff, ← eq_overlay_iff, eq_comm]
  simp only [IsPositive, ← PositiveSetting.value_setting, Setting.value_overlay]

theorem resolve_eq_error_iff {layers : List Layer} {error : SettingsError} :
    resolve layers = .error error ↔
      ∃ positive : PositiveSetting, positive.IsFirstZero (·.setting.resolved layers) ∧
        error = .notPositive positive := by
  rw [resolve, validate_eq_error_iff]
  simp only [← PositiveSetting.value_setting, Setting.value_overlay]

end Settings

/-! ### Documents and files -/

namespace Layer

variable {path text : String}

theorem parse_eq_ok_iff {layer : Layer} :
    parse path text = .ok layer ↔
      ∃ entries, Toml.read? text = some entries ∧ ofEntries? entries = some layer := by
  rw [← Option.bind_eq_some_iff, parse]
  cases (Toml.read? text).bind ofEntries? <;> simp

theorem parse_eq_error_iff {error : SettingsError} :
    parse path text = .error error ↔
      (∀ layer, parse path text ≠ .ok layer) ∧ error = .malformed path := by
  rw [parse]
  cases (Toml.read? text).bind ofEntries? <;> simp [eq_comm]

end Layer

theorem fromUTF8?_eq_some_iff {bytes : ByteArray} {text : String} :
    String.fromUTF8? bytes = some text ↔ bytes = text.toUTF8 := by
  unfold String.fromUTF8?
  constructor
  · intro h
    split at h
    · cases h
      rfl
    · cases h
  · rintro rfl
    exact dif_pos text.isValidUTF8

namespace SettingsFile

/-- Whether a file has the layer: its bytes are those of a text, and this document has it. -/
def Says (file : SettingsFile) (layer : Layer) : Prop :=
  ∃ text : String, file.bytes? = some text.toUTF8 ∧ Layer.parse file.path text = .ok layer

/-- How a file fails: it cannot be opened, or its bytes are those of no text, or they are those of a
text that is no document of settings. -/
inductive Fails : SettingsFile → SettingsError → Prop
  | unopened (path : String) : Fails ⟨path, none⟩ (.unreadable path)
  | undecoded (path : String) {bytes : ByteArray} (h : ∀ text : String, text.toUTF8 ≠ bytes) :
      Fails ⟨path, some bytes⟩ (.unreadable path)
  | malformed {path text : String} (h : ∀ layer, Layer.parse path text ≠ .ok layer) :
      Fails ⟨path, some text.toUTF8⟩ (.malformed path)

variable {file : SettingsFile}

theorem layer_of_text {text : String} (h : file.bytes? = some text.toUTF8) :
    file.layer = Layer.parse file.path text := by
  rw [layer, h, Option.bind_some, fromUTF8?_eq_some_iff.mpr rfl]

theorem layer_of_not_text (h : ∀ text : String, file.bytes? ≠ some text.toUTF8) :
    file.layer = .error (.unreadable file.path) := by
  have hnone : file.bytes?.bind String.fromUTF8? = none := by
    rw [Option.eq_none_iff_forall_ne_some]
    intro text htext
    obtain ⟨bytes, hbytes, hdecode⟩ := Option.bind_eq_some_iff.mp htext
    exact h text (by rw [hbytes, fromUTF8?_eq_some_iff.mp hdecode])
  rw [layer, hnone]

theorem layer_eq_ok_iff {read : Layer} : file.layer = .ok read ↔ file.Says read := by
  constructor
  · intro h
    by_cases htext : ∃ text : String, file.bytes? = some text.toUTF8
    · obtain ⟨text, htext⟩ := htext
      exact ⟨text, htext, layer_of_text htext ▸ h⟩
    · rw [layer_of_not_text (not_exists.mp htext)] at h
      cases h
  · rintro ⟨text, htext, hparse⟩
    rw [layer_of_text htext, hparse]

theorem layer_eq_error_iff {error : SettingsError} :
    file.layer = .error error ↔ file.Fails error := by
  constructor
  · intro h
    obtain ⟨path, bytes?⟩ := file
    by_cases htext : ∃ text : String, bytes? = some text.toUTF8
    · obtain ⟨text, rfl⟩ := htext
      rw [layer_of_text rfl] at h
      obtain ⟨hparse, rfl⟩ := Layer.parse_eq_error_iff.mp h
      exact .malformed hparse
    · have hnot := not_exists.mp htext
      rw [layer_of_not_text hnot] at h
      cases h
      cases bytes? with
      | none => exact .unopened path
      | some bytes => exact .undecoded path fun text hbytes => hnot text (congrArg some hbytes.symm)
  · intro h
    cases h with
    | unopened path => rfl
    | undecoded path hbytes =>
        exact layer_of_not_text fun text htext => hbytes text (Option.some.inj htext).symm
    | malformed hparse =>
        rw [layer_of_text rfl]
        exact Layer.parse_eq_error_iff.mpr ⟨hparse, rfl⟩

end SettingsFile

namespace Settings

/-- Files are resolved like the layers that they have, or the first of them that has none is how
they fail. -/
theorem load_cases (files : List SettingsFile) :
    (∃ read, List.Forall₂ SettingsFile.Says files read ∧ load files = resolve read) ∨
      ∃ before file after error, files = before ++ file :: after ∧
        (∀ earlier ∈ before, ∃ layer, earlier.Says layer) ∧ file.Fails error ∧
        load files = .error error := by
  cases hmap : files.mapM SettingsFile.layer with
  | ok read =>
      have hread := Except.mapM_eq_ok_iff.mp hmap
      refine .inl ⟨read, hread.imp fun _ _ => SettingsFile.layer_eq_ok_iff.mp, ?_⟩
      rw [load, hmap]
      rfl
  | error error =>
      obtain ⟨before, file, after, hfiles, hbefore, hfile⟩ := Except.mapM_eq_error_iff.mp hmap
      simp only [SettingsFile.layer_eq_ok_iff] at hbefore
      have hfails := SettingsFile.layer_eq_error_iff.mp hfile
      refine .inr ⟨before, file, after, error, hfiles, hbefore, hfails, ?_⟩
      rw [load, hmap]
      rfl

/-- A document is one layer. -/
theorem parse_eq (text : String) :
    parse text = (Layer.parse "<string>" text).bind fun layer => resolve [layer] := rfl

theorem load_text (path text : String) :
    load [⟨path, some text.toUTF8⟩] =
      (Layer.parse path text).bind fun layer => resolve [layer] := by
  rw [load, List.mapM_cons, SettingsFile.layer_of_text rfl]
  cases Layer.parse path text <;> rfl

theorem load_text_eq_ok_iff {path text : String} {settings : Settings} :
    load [⟨path, some text.toUTF8⟩] = .ok settings ↔ parse text = .ok settings := by
  simp only [load_text, parse_eq, Except.bind_eq_ok_iff, Layer.parse_eq_ok_iff]

/-- Every setting has the value of the first layer that speaks of it, or else its default. Layers
fail if one of these values is a zero that must not be, and for the first of them; a zero that is
hidden does no harm. A document is one layer, which is read from its entries, and in a file it is
accepted as by itself. Files are resolved like the documents in them. If a file cannot be opened or
decoded, or what it holds is no document, then the first such file is how they fail. -/
theorem resolve_by_precedence (layers : List Layer) (text : String) (files : List SettingsFile) :
    (∀ settings, resolve layers = .ok settings ↔
      (∀ {α : Type} (setting : Setting α), setting.value settings = setting.resolved layers) ∧
      ∀ positive : PositiveSetting, 0 < positive.setting.resolved layers) ∧
    (∀ error, resolve layers = .error error ↔
      ∃ positive : PositiveSetting, positive.IsFirstZero (·.setting.resolved layers) ∧
        error = .notPositive positive) ∧
    (∀ path layer, Layer.parse path text = .ok layer ↔
      ∃ entries, Toml.read? text = some entries ∧ Layer.ofEntries? entries = some layer) ∧
    parse text = (Layer.parse "<string>" text).bind (fun layer => resolve [layer]) ∧
    (∀ path settings,
      load [⟨path, some text.toUTF8⟩] = .ok settings ↔ parse text = .ok settings) ∧
    ((∃ read, List.Forall₂ SettingsFile.Says files read ∧ load files = resolve read) ∨
      ∃ before file after error, files = before ++ file :: after ∧
        (∀ earlier ∈ before, ∃ layer, earlier.Says layer) ∧ file.Fails error ∧
        load files = .error error) :=
  ⟨fun _ => resolve_eq_ok_iff, fun _ => resolve_eq_error_iff, fun _ _ => Layer.parse_eq_ok_iff,
    parse_eq text, fun _ _ => load_text_eq_ok_iff, load_cases files⟩

/-- The empty section of the first layer hides nothing, and its empty list hides the list of the
second one. -/
example :
    resolve [
      { pipeline := some {}
        query := some { controls := some [] } },
      { pipeline := some { stages := some ["lowercase"] }
        query := some { lowercase := some false, controls := some ["start"] }
        indexing := some { flushEvery := some 3 } },
      { indexing := some { flushEvery := some 0 } }] =
    .ok
      { pipeline := { stages := ["lowercase"] }
        query := { lowercase := false, controls := [] }
        indexing := { flushEvery := 3 } } := rfl

/-- The second file hides no value of the first one, but without a text it fails them both. -/
example :
    load [⟨"near", some "[query]\nlowercase = false".toUTF8⟩,
        ⟨"far", some "[query]\nlowercase = true\nreject_empty = true".toUTF8⟩] =
      .ok { query := { lowercase := false, rejectEmpty := true } } ∧
    load [⟨"near", some "[query]\nlowercase = false".toUTF8⟩, ⟨"far", some ⟨#[0xFF]⟩⟩] =
      .error (.unreadable "far") := by
  decide +kernel

end Settings

end Retrieval
