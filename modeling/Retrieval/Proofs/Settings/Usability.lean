import Retrieval.Corpus.Indexer
import Retrieval.Proofs.Analysis.Chains
import Retrieval.Proofs.Settings.Acceptance
import Retrieval.Query.Processor

/-!
Settings that can be used. What accepted settings are used for is built from the names of their
stages, so only an unknown name can be in the way, and it is in the way of queries and of documents
alike. The checks for zeros that stages and indexers make of their own never find one.
-/

namespace Retrieval

/-! ### Stages -/

def PipelineSettings.unknownStage? (settings : PipelineSettings) : Option String :=
  settings.stages.find? fun name => Text.lowercase name ∉ Builtin.names

theorem Builtin.ofName_of_unknown (limit : Nat) {name : String}
    (h : Text.lowercase name ∉ names) :
    ofName limit name = .error (.unknown (Text.lowercase name)) := by
  unfold ofName
  generalize Text.lowercase name = lower at h ⊢
  simp only [names, List.mem_cons, List.not_mem_nil, or_false, not_or] at h
  obtain ⟨hlowercase, hstemmer, hstemmer', hstopwords, hlong⟩ := h
  split
  · exact absurd rfl hlowercase
  · exact absurd rfl hstemmer
  · exact absurd rfl hstemmer'
  · exact absurd rfl hstopwords
  · exact absurd rfl hlong
  · rfl

/-- The first unknown name decides the error, if the names before it do not fail. -/
theorem Pipeline.ofNames_of_unknown {limit : Nat} (hlimit : limit ≠ 0) {names : List String}
    {name : String}
    (h : names.find? (fun name => Text.lowercase name ∉ Builtin.names) = some name) :
    ofNames limit names = .error (.unknown (Text.lowercase name)) := by
  have hmap : names.mapM (Builtin.ofName limit) = .error (.unknown (Text.lowercase name)) := by
    obtain ⟨hname, before, after, rfl, hbefore⟩ := List.find?_eq_some_iff_append.mp h
    simp only [decide_eq_true_eq] at hname
    refine Except.mapM_eq_error_iff.mpr
      ⟨before, name, after, rfl, fun other hother => ?_, Builtin.ofName_of_unknown limit hname⟩
    have hknown : Text.lowercase other ∈ Builtin.names := by
      simpa using hbefore other hother
    obtain ⟨builtin, hbuiltin, -⟩ := Builtin.exists_ofName hlimit hknown
    exact ⟨builtin, hbuiltin⟩
  rw [ofNames, hmap]
  rfl

namespace PipelineSettings

variable {settings : PipelineSettings}

theorem unknownStage?_eq_none_iff :
    settings.unknownStage? = none ↔
      ∀ name ∈ settings.stages, Text.lowercase name ∈ Builtin.names := by
  simp [unknownStage?]

theorem build_of_unknownStage? (hlimit : settings.maxTermLength ≠ 0) {name : String}
    (h : settings.unknownStage? = some name) :
    settings.build = .error (.unknown (Text.lowercase name)) :=
  Pipeline.ofNames_of_unknown hlimit h

/-- Settings with a positive limit describe a pipeline unless a stage is unknown. -/
theorem exists_build_iff (hlimit : settings.maxTermLength ≠ 0) :
    (∃ pipeline, settings.build = .ok pipeline) ↔
      ∀ name ∈ settings.stages, Text.lowercase name ∈ Builtin.names := by
  constructor
  · rintro ⟨pipeline, hpipeline⟩
    rw [← unknownStage?_eq_none_iff, Option.eq_none_iff_forall_ne_some]
    intro name hname
    cases (build_of_unknownStage? hlimit hname).symm.trans hpipeline
  · intro hknown
    obtain ⟨builtins, hbuild, -⟩ := Pipeline.exists_ofNames hlimit hknown
    exact ⟨_, hbuild⟩

end PipelineSettings

/-! ### Batches -/

/-- No run of a batch is empty. -/
theorem ne_nil_of_mem_cutRuns {α : Type} {length : Nat} (positive : 0 < length) {items run : List α}
    (h : run ∈ cutRuns length positive items) : run ≠ [] := by
  fun_induction cutRuns length positive items with
  | case1 items hempty => cases h
  | case2 items hne ih =>
      obtain rfl | h := List.mem_cons.mp h
      · intro hnil
        obtain hlength | hnil := List.take_eq_nil_iff.mp hnil
        · omega
        · exact hne (List.isEmpty_iff.mpr hnil)
      · exact ih h

namespace Indexer

variable {indexer : Indexer}

/-- An indexer with a run length that is not zero has a plan. If it indexes in runs, they are of
this length. -/
theorem exists_plan (indexer : Indexer) (h : 0 < indexer.flushEvery) :
    ∃ plan, indexer.plan = .ok plan ∧
      ∀ length positive, plan = .inRuns length positive → length = indexer.flushEvery := by
  cases hsingle : indexer.kind.isSinglePass with
  | false => exact ⟨.atOnce, by simp [plan, hsingle], nofun⟩
  | true =>
      refine ⟨.inRuns indexer.flushEvery h, by simp [plan, hsingle, h], ?_⟩
      rintro length positive ⟨⟩
      rfl

/-- An indexer that has a plan fails only for an identifier that is too long. -/
theorem eq_docnoTooLong_of_index {plan : IndexPlan} (hplan : indexer.plan = .ok plan)
    {documents : List Document} {error : IndexError} (h : indexer.index documents = .error error) :
    ∃ document ∈ documents, indexer.maxDocnoLength < document.docno.utf8ByteSize ∧
      error = .docnoTooLong document.docno document.docno.utf8ByteSize indexer.maxDocnoLength := by
  cases hoverlong : indexer.overlong? documents with
  | none => simp [index, validate, hplan, hoverlong, Except.bind, Except.map] at h
  | some document =>
      simp only [index, validate, hplan, hoverlong, Except.bind, Except.map,
        Except.error.injEq] at h
      refine ⟨document, List.mem_of_find?_eq_some hoverlong, ?_, h.symm⟩
      simpa using List.find?_some hoverlong

end Indexer

/-! ### Queries and documents -/

section

variable {settings : Settings} {kind : IndexerKind} {indexer : Indexer}

/-- The indexer of accepted settings fails only for an identifier that is too long, and the runs in
which it indexes hold documents. -/
theorem Indexer.index_of_ofSettings (h : settings.Accepted)
    (hindexer : ofSettings kind settings = .ok indexer) :
    (∀ documents error, indexer.index documents = .error error →
      ∃ document ∈ documents, settings.indexing.maxDocnoLength < document.docno.utf8ByteSize ∧
        error = .docnoTooLong document.docno document.docno.utf8ByteSize
          settings.indexing.maxDocnoLength) ∧
    ∃ plan, indexer.plan = .ok plan ∧ ∀ length positive, plan = .inRuns length positive →
      length = settings.indexing.flushEvery ∧
      ∀ documents : List (List String), ∀ run ∈ cutRuns length positive documents, run ≠ [] := by
  obtain ⟨pipeline, -, rfl⟩ := Except.map_eq_ok_iff.mp hindexer
  obtain ⟨plan, hplan, hruns⟩ := exists_plan
    { kind, pipeline
      maxDocnoLength := settings.indexing.maxDocnoLength
      flushEvery := settings.indexing.flushEvery } (h.isPositive .flushEvery)
  refine ⟨fun documents error herror => eq_docnoTooLong_of_index hplan herror, plan, hplan, ?_⟩
  intro length positive hlength
  exact ⟨hruns length positive hlength, fun documents run => ne_nil_of_mem_cutRuns positive⟩

/-- Accepted settings describe a processor and an indexer of every kind if all their stages are
known, and only then; else both fail for the first stage that is unknown. Such an indexer fails only
for an identifier that is too long, and it never indexes in runs of no documents. -/
theorem Settings.usable (h : settings.Accepted) (kind : IndexerKind) :
    ((∃ processor, Processor.ofSettings settings = .ok processor) ↔
      ∀ name ∈ settings.pipeline.stages, Text.lowercase name ∈ Builtin.names) ∧
    ((∃ indexer, Indexer.ofSettings kind settings = .ok indexer) ↔
      ∀ name ∈ settings.pipeline.stages, Text.lowercase name ∈ Builtin.names) ∧
    (∀ name, settings.pipeline.unknownStage? = some name →
      Processor.ofSettings settings = .error (.unknown (Text.lowercase name)) ∧
      Indexer.ofSettings kind settings = .error (.unknown (Text.lowercase name))) ∧
    ∀ indexer, Indexer.ofSettings kind settings = .ok indexer →
      (∀ documents error, indexer.index documents = .error error →
        ∃ document ∈ documents, settings.indexing.maxDocnoLength < document.docno.utf8ByteSize ∧
          error = .docnoTooLong document.docno document.docno.utf8ByteSize
            settings.indexing.maxDocnoLength) ∧
      ∃ plan, indexer.plan = .ok plan ∧ ∀ length positive, plan = .inRuns length positive →
        length = settings.indexing.flushEvery ∧
        ∀ documents : List (List String), ∀ run ∈ cutRuns length positive documents, run ≠ [] := by
  have hlimit : settings.pipeline.maxTermLength ≠ 0 :=
    Nat.pos_iff_ne_zero.mp (h.isPositive .maxTermLength)
  have hbuild := PipelineSettings.exists_build_iff hlimit
  refine ⟨?_, ?_, fun name hname => ?_, fun indexer => Indexer.index_of_ofSettings h⟩
  · rw [← hbuild, Processor.ofSettings]
    simp only [Except.map_eq_ok_iff, exists_comm, exists_and_left, exists_eq', and_true]
  · rw [← hbuild, Indexer.ofSettings]
    simp only [Except.map_eq_ok_iff, exists_comm, exists_and_left, exists_eq', and_true]
  · have herror := PipelineSettings.build_of_unknownStage? hlimit hname
    exact ⟨Except.map_eq_error_iff.mpr herror, Except.map_eq_error_iff.mpr herror⟩

/-- A zero that a stronger layer hides, and two names of stages that are unknown. -/
theorem Settings.usable_hidden_zero :
    let layers : List Layer := [
      { pipeline := some
          { stages := some ["Remove-Long", "STEM", "fold"], maxTermLength := some 7 } },
      { pipeline := some { maxTermLength := some 0 }, indexing := some { flushEvery := some 2 } }]
    ∃ settings, resolve layers = .ok settings ∧ settings.indexing.flushEvery = 2 ∧ ∀ kind,
      Processor.ofSettings settings = .error (.unknown "stem") ∧
      Indexer.ofSettings kind settings = .error (.unknown "stem") := by
  intro layers
  have hresolve : resolve layers = .ok (overlay layers) := rfl
  have hstage : (overlay layers).pipeline.unknownStage? = some "STEM" := by decide +kernel
  have hlower : Text.lowercase "STEM" = "stem" := by decide +kernel
  refine ⟨_, hresolve, rfl, fun kind => ?_⟩
  obtain ⟨-, -, hunknown, -⟩ := usable (.resolved hresolve) kind
  rw [← hlower]
  exact hunknown "STEM" hstage

end

end Retrieval
