import Retrieval.Proofs.Settings.Acceptance
import Retrieval.Proofs.Toml.Documents

/-!
Settings that are written are read back. A written document speaks of every setting, so the defaults
over which it is laid do not show, and what was accepted once is accepted again. Main statement:
`Settings.parse_write`.
-/

namespace Retrieval

/-! ### Layers that speak of every setting -/

def Settings.layer (settings : Settings) : Layer where
  pipeline := some
    { stages := some settings.pipeline.stages
      maxTermLength := some settings.pipeline.maxTermLength }
  query := some
    { lowercase := some settings.query.lowercase
      rejectEmpty := some settings.query.rejectEmpty
      controls := some settings.query.controls }
  indexing := some
    { maxDocnoLength := some settings.indexing.maxDocnoLength
      flushEvery := some settings.indexing.flushEvery }

/-- Whatever such a layer is laid over does not show. -/
theorem Settings.layer_apply (settings base : Settings) : settings.layer.apply base = settings :=
  rfl

namespace Toml

theorem Item.boolean?_toValue (flag : Bool) : (boolean flag).toValue.boolean? = some flag :=
  rfl

theorem Item.count?_toValue {number : Nat} (h : number < Value.countLimit) :
    (integer number).toValue.count? = some number := by
  have hcount : (0 : Int) ≤ number ∧ (number : Int).toNat < Value.countLimit :=
    ⟨Int.natCast_nonneg number, h⟩
  rw [toValue, Value.count?, if_pos hcount]
  rfl

theorem Item.strings?_toValue (texts : List String) :
    (strings texts).toValue.strings? = some texts := by
  rw [toValue, Value.strings?]
  induction texts with
  | nil => rfl
  | cons text texts ih =>
      rw [List.map_cons, List.mapM_cons, ih]
      rfl

end Toml

section

open Toml (Item Value)

theorem PipelineLayer.ofValue?_table (stages : List String) {maxTermLength : Nat}
    (h : maxTermLength < Value.countLimit) :
    ofValue? (.table .header [("stages", (Item.strings stages).toValue),
        ("max_term_length", (Item.integer maxTermLength).toValue)]) =
      some ⟨some stages, some maxTermLength⟩ := by
  simp [ofValue?, Value.sectionEntries?, set?, Item.strings?_toValue, Item.count?_toValue h]

theorem QueryLayer.ofValue?_table (lowercase rejectEmpty : Bool) (controls : List String) :
    ofValue? (.table .header [("lowercase", (Item.boolean lowercase).toValue),
        ("reject_empty", (Item.boolean rejectEmpty).toValue),
        ("controls", (Item.strings controls).toValue)]) =
      some ⟨some lowercase, some rejectEmpty, some controls⟩ := by
  simp [ofValue?, Value.sectionEntries?, set?, Item.boolean?_toValue, Item.strings?_toValue]

theorem IndexingLayer.ofValue?_table {maxDocnoLength flushEvery : Nat}
    (hdocno : maxDocnoLength < Value.countLimit) (hflush : flushEvery < Value.countLimit) :
    ofValue? (.table .header [("max_docno_length", (Item.integer maxDocnoLength).toValue),
        ("flush_every", (Item.integer flushEvery).toValue)]) =
      some ⟨some maxDocnoLength, some flushEvery⟩ := by
  simp [ofValue?, Value.sectionEntries?, set?, Item.count?_toValue hdocno,
    Item.count?_toValue hflush]

end

/-! ### Documents of settings -/

namespace Settings

/-- No name in a document of settings needs quotes. -/
theorem isBare_sections (settings : Settings) : ∀ part ∈ settings.sections, part.IsBare := by
  -- No name depends on the settings, so all of them can be checked here.
  have hnames : ∀ name ∈ ["pipeline", "query", "indexing"], Toml.IsBareKey name := by
    decide +kernel
  have hpipeline : (∀ key ∈ PipelineLayer.keys, Toml.IsBareKey key) ∧ PipelineLayer.keys.Nodup := by
    decide +kernel
  have hquery : (∀ key ∈ QueryLayer.keys, Toml.IsBareKey key) ∧ QueryLayer.keys.Nodup := by
    decide +kernel
  have hindexing : (∀ key ∈ IndexingLayer.keys, Toml.IsBareKey key) ∧ IndexingLayer.keys.Nodup := by
    decide +kernel
  intro part hpart
  simp only [sections, List.mem_cons, List.not_mem_nil, or_false] at hpart
  obtain rfl | rfl | rfl := hpart
  · exact ⟨hnames _ (by simp), hpipeline.1, hpipeline.2⟩
  · exact ⟨hnames _ (by simp), hquery.1, hquery.2⟩
  · exact ⟨hnames _ (by simp), hindexing.1, hindexing.2⟩

theorem nodup_sections (settings : Settings) :
    (settings.sections.map Toml.Section.name).Nodup := by
  have hnames : ["pipeline", "query", "indexing"].Nodup := by decide
  exact hnames

variable {settings : Settings}

open Toml.Value (countLimit)

/-- The tables of the sections say what the settings are. -/
theorem ofEntries?_table
    (hcounts : ∀ setting : PositiveSetting, setting.value settings < countLimit) :
    Layer.ofEntries? (settings.sections.map Toml.Section.table) = some settings.layer := by
  have hpipeline := PipelineLayer.ofValue?_table settings.pipeline.stages (hcounts .maxTermLength)
  have hquery := QueryLayer.ofValue?_table settings.query.lowercase settings.query.rejectEmpty
    settings.query.controls
  have hindexing := IndexingLayer.ofValue?_table (hcounts .maxDocnoLength) (hcounts .flushEvery)
  simp only [PositiveSetting.value] at hpipeline hindexing
  simp [sections, Toml.Section.table, Toml.Section.values, Layer.ofEntries?, Layer.set?,
    hpipeline, hquery, hindexing, layer]

/-- Settings that were accepted are written as a document from which they are read back, if their
numbers can be counts of a document. -/
theorem parse_write (h : settings.Accepted)
    (hcounts : ∀ setting : PositiveSetting, setting.value settings < countLimit) :
    parse settings.write = .ok settings := by
  have hread : (Toml.read? settings.write).bind Layer.ofEntries? = some settings.layer := by
    rw [write, Toml.read?_write settings.isBare_sections settings.nodup_sections]
    exact ofEntries?_table hcounts
  have hlayer : Layer.parse "<string>" settings.write = .ok settings.layer := by
    rw [Layer.parse, hread]
  rw [parse, hlayer]
  exact validate_eq_ok_iff.mpr ⟨settings.layer_apply {}, h.isPositive⟩

/-- Names with quotes, backslashes, line breaks and controls in them, and one that is empty. -/
theorem parse_write_awkward_names :
    ∃ settings : Settings,
      settings.pipeline.stages = ["it's \"quoted\"", "a\\b\n'''\"\"\"", "\r\x00\x7f\t"] ∧
        settings.query.controls = [""] ∧ settings.indexing.flushEvery = 9223372036854775807 ∧
        settings.Accepted ∧ (∀ setting : PositiveSetting, setting.value settings < countLimit) ∧
        parse settings.write = .ok settings := by
  let settings : Settings :=
    { pipeline := { stages := ["it's \"quoted\"", "a\\b\n'''\"\"\"", "\r\x00\x7f\t"] }
      query := { controls := [""] }
      indexing := { flushEvery := 9223372036854775807 } }
  have hresolve : resolve [settings.layer] = .ok settings := rfl
  have haccepted : settings.Accepted := .resolved hresolve
  have hcounts : ∀ setting : PositiveSetting, setting.value settings < countLimit := by
    intro setting
    cases setting <;> decide
  exact ⟨settings, rfl, rfl, rfl, haccepted, hcounts, parse_write haccepted hcounts⟩

end Settings

end Retrieval
