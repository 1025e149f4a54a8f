import Mathlib
import Retrieval.Proofs.Analysis.Chains
import Retrieval.Proofs.Corpus.Lexicon
import Retrieval.Proofs.Match.Attachment
import Retrieval.Proofs.Query.Reading
import Retrieval.Proofs.Settings.Acceptance
import Retrieval.Query.Processor

/-!
Searching for a word. Queries and documents share the pipeline of the settings, but a query is
lowered once more when it is compiled. If a stage of the pipeline lowers its tokens, its terms are
in lower case and stay as they are, so the word of a query meets every word of a document that the
pipeline does not tell from it, and no other.
-/

namespace Retrieval

/-! ### Words that a pipeline does not tell apart -/

namespace Document

/-- Whether a word of a document comes out of a pipeline as another word does. -/
def Matches (pipeline : Pipeline) (word : String) (document : Document) : Prop :=
  ∃ other ∈ Text.splitWords document.text, pipeline.process other = pipeline.process word

instance (pipeline : Pipeline) (word : String) (document : Document) :
    Decidable (document.Matches pipeline word) :=
  inferInstanceAs (Decidable (∃ other ∈ _, _))

def matching (pipeline : Pipeline) (word : String) (document : Document) : Nat :=
  (Text.splitWords document.text).countP fun other =>
    pipeline.process other = pipeline.process word

end Document

section

variable {pipeline : Pipeline} {word term : String}

theorem Pipeline.Yields.yields_iff (h : pipeline.Yields word term) (other : String) :
    pipeline.Yields other term ↔ pipeline.process other = pipeline.process word := by
  rw [Yields, h.1, and_iff_left h.2]

theorem Pipeline.Yields.holds_iff (h : pipeline.Yields word term) (document : Document) :
    document.Holds pipeline term ↔ document.Matches pipeline word := by
  simp only [Document.Holds, Document.Matches, h.yields_iff]

theorem Pipeline.Yields.frequency_eq (h : pipeline.Yields word term) (document : Document) :
    document.frequency pipeline term = document.matching pipeline word := by
  simp only [Document.frequency, Document.matching, h.yields_iff]

end

/-! ### The statistics of a term -/

/-- A match term counts a word in some documents: it has statistics if a document matches the word,
and they count those documents and their words. -/
structure MatchTerm.Counts (pipeline : Pipeline) (documents : List Document) (word : String)
    (matched : MatchTerm) : Prop where
  isSome : matched.statistics.isSome ↔ ∃ document ∈ documents, document.Matches pipeline word
  documentFrequency : ∀ statistics ∈ matched.statistics,
    statistics.documentFrequency = documents.countP fun document => document.Matches pipeline word
  frequency : ∀ statistics ∈ matched.statistics,
    statistics.frequency = (documents.map (Document.matching pipeline word)).sum

/-- What the index of some documents supplies to a term counts every word that yields the term. -/
theorem Index.counts_supply {kind : IndexerKind} {pipeline : Pipeline} {documents : List Document}
    {word term : String} (hyields : pipeline.Yields word term) {matched : MatchTerm}
    (hoperator : matched.operator = .term term) (hstatistics : matched.statistics = none) :
    ((ofDocuments kind pipeline documents).supply matched).Counts pipeline documents word := by
  have hsupply : ((ofDocuments kind pipeline documents).supply matched).statistics =
      Index.entry? (ofDocuments kind pipeline documents) term := by
    have hentry : operatorEntry? (ofDocuments kind pipeline documents) (.term term) =
        (Index.entry? (ofDocuments kind pipeline documents) term).map fun entry =>
          (term, entry) := rfl
    rw [supply, hoperator, hentry]
    cases Index.entry? (ofDocuments kind pipeline documents) term with
    | none => exact hstatistics
    | some statistics => rfl
  have htexts : ∀ statistics ∈ ((ofDocuments kind pipeline documents).supply matched).statistics,
      statistics = .ofTexts pipeline documents
        (ofDocuments kind pipeline documents).lexicon.keys term := by
    intro statistics hmem
    rw [hsupply] at hmem
    exact statistics_eq_ofTexts hmem
  refine ⟨?_, ?_, ?_⟩
  · simp only [hsupply, ← hyields.holds_iff]
    rw [← mem_lexicon_iff]
    exact Std.ExtTreeMap.isSome_getElem?_iff_mem
  · intro statistics hmem
    rw [htexts statistics hmem]
    simp only [TermStatistics.ofTexts, hyields.holds_iff]
  · intro statistics hmem
    rw [htexts statistics hmem]
    exact congrArg List.sum (List.map_congr_left fun document _ => hyields.frequency_eq document)

/-! ### The query of a word -/

def Collection.single (text : String) : Collection :=
  empty.addWeight text (Clause.defaultWeight * 1)

theorem Index.terms_attach_single (index : Index) (text : String) :
    (index.attach (.single text)).2.terms =
      [index.supply { operator := .term text, weight := Clause.defaultWeight * 1 }] := by
  have hempty : Collection.empty.Indexed := Collection.locates_empty
  have hindexed : (Collection.single text).Indexed := hempty.add _
  rw [attach_eq hindexed]
  simp [Collection.single, Collection.addWeight, Collection.add, Collection.empty]

namespace Processor

variable {processor : Processor} {word : String}

/-- A pattern by itself is no control. -/
theorem takeControls_ofPattern (pattern : Pattern) (names : Std.ExtTreeSet String) :
    Query.takeControls ⟨[.ofPattern pattern]⟩ names ∅ = ⟨⟨[.ofPattern pattern]⟩, ∅, false⟩ :=
  rfl

/-- A processor keeps the term of a word if lowering it once more does not change it. -/
def KeepsTerm (processor : Processor) (word : String) : Prop :=
  processor.lowercase →
    ∀ term, processor.pipeline.Yields word term → Text.lowercase term = term

/-- The query of a word is what the pipeline makes of it. -/
theorem processQuery_word (hkeeps : processor.KeepsTerm word) :
    processor.processQuery ⟨[.ofPattern (.term word)]⟩ =
      match processor.pipeline.term? word with
      | some term => ⟨⟨[.ofPattern (.term term)]⟩, ∅, .single term⟩
      | none => ⟨.empty, ∅, .empty⟩ := by
  rw [processQuery, takeControls_ofPattern]
  cases hterm : processor.pipeline.term? word with
  | none =>
      have hnormalise :
          Query.normalise processor.pipeline ⟨[.ofPattern (.term word)]⟩ = .empty := by
        simp [Query.normalise, Clause.ofPattern, Clause.normalise?, Pattern.normalise?, hterm,
          Query.empty]
      simp [hnormalise, Query.empty, Collection.compile, Query.matchTerms, Collection.empty]
  | some term =>
      have hyields := Pipeline.term?_eq_some_iff.mp hterm
      have hnormalise : Query.normalise processor.pipeline ⟨[.ofPattern (.term word)]⟩ =
          ⟨[.ofPattern (.term term)]⟩ := by
        simp [Query.normalise, Clause.ofPattern, Clause.normalise?, Pattern.normalise?, hterm]
      have hlower : CompileOptions.term { lowercase := processor.lowercase } term = term := by
        unfold CompileOptions.term
        split
        · rename_i hlowercase
          exact hkeeps hlowercase term hyields
        · rfl
      have hmatch : (Clause.ofPattern (.term term)).matchTerm?
          { lowercase := processor.lowercase } =
            some { operator := .term term, weight := Clause.defaultWeight * 1 } := by
        simp [Clause.ofPattern, Clause.matchTerm?, Pattern.shape?, hlower, hyields.2, Operator.term]
      simp [hnormalise, Collection.compile, Query.matchTerms, hmatch, Collection.single,
        Collection.empty, Collection.addWeight]

theorem process_word (hword : IsWord word) (hkeeps : processor.KeepsTerm word) :
    processor.process word =
      match processor.pipeline.term? word with
      | some term => .ok ⟨⟨[.ofPattern (.term term)]⟩, ∅, .single term⟩
      | none =>
          if processor.rejectEmpty then .error (.ofEmpty word) else .ok ⟨.empty, ∅, .empty⟩ := by
  rw [process, Query.parse_word hword, Except.bind, processQuery_word hkeeps]
  cases processor.pipeline.term? word with
  | none => simp [Query.isEmpty, Query.empty]
  | some term => simp [Query.isEmpty]

end Processor

/-! ### Settings -/

namespace Settings

variable {text : String} {settings : Settings}

/-- Settings that were read and name known stages describe a pipeline. If a stage lowers its tokens,
the terms that the pipeline yields are in lower case. -/
theorem exists_pipeline (h : parse text = .ok settings)
    (hnames : ∀ name ∈ settings.pipeline.stages, Text.lowercase name ∈ Builtin.names) :
    ∃ pipeline, settings.pipeline.build = .ok pipeline ∧
      ((∃ name ∈ settings.pipeline.stages, Text.lowercase name ∈ Builtin.loweringNames) →
        ∀ word term, pipeline.Yields word term → Text.lowercase term = term) := by
  have hlimit : settings.pipeline.maxTermLength ≠ 0 :=
    Nat.pos_iff_ne_zero.mp ((Accepted.parsed h).isPositive .maxTermLength)
  obtain ⟨builtins, hbuild, hlowers⟩ := Pipeline.exists_ofNames hlimit hnames
  refine ⟨_, hbuild, fun hlower word term hyields => ?_⟩
  exact Text.lowercase_of_lowered
    (Pipeline.lowered_of_process hyields.1 (.inl (hlowers hlower)))

theorem exists_processor {pipeline : Pipeline} (hbuild : settings.pipeline.build = .ok pipeline) :
    ∃ processor, Processor.ofSettings settings = .ok processor ∧ processor.pipeline = pipeline ∧
      processor.lowercase = settings.query.lowercase ∧
      processor.rejectEmpty = settings.query.rejectEmpty := by
  rw [Processor.ofSettings, hbuild]
  exact ⟨_, rfl, rfl, rfl, rfl⟩

/-- Settings that were read index every batch with identifiers that are short enough. -/
theorem exists_index (h : parse text = .ok settings) (kind : IndexerKind) {pipeline : Pipeline}
    (hbuild : settings.pipeline.build = .ok pipeline) {documents : List Document}
    (hdocnos : ∀ document ∈ documents,
      document.docno.utf8ByteSize ≤ settings.indexing.maxDocnoLength) :
    ∃ indexer, Indexer.ofSettings kind settings = .ok indexer ∧ indexer.pipeline = pipeline ∧
      indexer.index documents = .ok (.ofDocuments kind pipeline documents) := by
  rw [Indexer.ofSettings, hbuild]
  have hflush : 0 < settings.indexing.flushEvery := (Accepted.parsed h).isPositive .flushEvery
  exact ⟨_, rfl, rfl, Indexer.index_eq_ok (fun _ => hflush) hdocnos⟩

/-- A word is searched for in documents under settings that were read. Their stages are known, and
one of them lowers its tokens unless queries are not lowered. Either the pipeline discards the word,
or there is one match term, and the index counts for it what the pipeline makes equal to the
word. -/
theorem search_word (h : parse text = .ok settings)
    (hnames : ∀ name ∈ settings.pipeline.stages, Text.lowercase name ∈ Builtin.names)
    (hlower : settings.query.lowercase = false ∨
      ∃ name ∈ settings.pipeline.stages, Text.lowercase name ∈ Builtin.loweringNames)
    (kind : IndexerKind) {documents : List Document}
    (hdocnos : ∀ document ∈ documents,
      document.docno.utf8ByteSize ≤ settings.indexing.maxDocnoLength)
    {word : String} (hword : IsWord word) :
    ∃ processor indexer index,
      Processor.ofSettings settings = .ok processor ∧
      Indexer.ofSettings kind settings = .ok indexer ∧
      indexer.pipeline = processor.pipeline ∧
      indexer.index documents = .ok index ∧
      ((∀ term, ¬processor.pipeline.Yields word term) →
        processor.process word =
          if settings.query.rejectEmpty then .error (.ofEmpty word)
          else .ok ⟨.empty, ∅, .empty⟩) ∧
      ∀ term, processor.pipeline.Yields word term →
        ∃ processed matched, processor.process word = .ok processed ∧
          (index.attach processed.terms).2.terms = [matched] ∧
          matched.operator = .term term ∧ matched.Counts processor.pipeline documents word := by
  obtain ⟨pipeline, hbuild, hlowered⟩ := exists_pipeline h hnames
  obtain ⟨processor, hprocessor, rfl, hlowercase, hreject⟩ := exists_processor hbuild
  obtain ⟨indexer, hindexer, hpipeline, hindex⟩ := exists_index h kind hbuild hdocnos
  have hkeeps : processor.KeepsTerm word := by
    intro hlowers
    refine hlowered (hlower.resolve_left fun hfalse => ?_) word
    rw [hlowercase, hfalse] at hlowers
    cases hlowers
  have hprocess := Processor.process_word hword hkeeps
  refine ⟨processor, indexer, _, hprocessor, hindexer, hpipeline, hindex, ?_, ?_⟩
  · intro hnone
    have hterm : processor.pipeline.term? word = none :=
      Option.eq_none_iff_forall_ne_some.mpr fun term hterm =>
        hnone term (Pipeline.term?_eq_some_iff.mp hterm)
    rw [hprocess, hterm, hreject]
  · intro term hyields
    rw [Pipeline.term?_eq_some_iff.mpr hyields] at hprocess
    exact ⟨_, _, hprocess, Index.terms_attach_single .., Index.operator_supply ..,
      Index.counts_supply hyields rfl rfl⟩

/-- Two documents and a word that matches three of theirs. -/
theorem search_word_zebras :
    let text := "[pipeline]\nstages = [\"LowerCase\", \"sstemmer\"]\n"
    let documents : List Document := [⟨"d1", "Zebras crossing zebra"⟩, ⟨"d2", "a ZEBRA"⟩]
    ∃ settings processor indexer index processed matched statistics,
      parse text = .ok settings ∧ Processor.ofSettings settings = .ok processor ∧
      Indexer.ofSettings .blockSinglePass settings = .ok indexer ∧
      indexer.index documents = .ok index ∧ processor.process "zebras" = .ok processed ∧
      (index.attach processed.terms).2.terms = [matched] ∧
      matched.statistics = some statistics ∧ statistics.documentFrequency = 2 ∧
      statistics.frequency = 3 := by
  intro text documents
  let settings : Settings := { pipeline := { stages := ["LowerCase", "sstemmer"] } }
  have hparse : parse text = .ok settings := by
    have htext : (parse text).toOption = some settings := by decide +kernel
    cases hresult : parse text with
    | error _ => simp [hresult, Except.toOption] at htext
    | ok other => simpa [hresult, Except.toOption] using htext
  have hnames : ∀ name ∈ settings.pipeline.stages, Text.lowercase name ∈ Builtin.names := by
    decide +kernel
  have hlower : ∃ name ∈ settings.pipeline.stages, Text.lowercase name ∈ Builtin.loweringNames := by
    decide +kernel
  have hdocnos : ∀ document ∈ documents,
      document.docno.utf8ByteSize ≤ settings.indexing.maxDocnoLength := by
    decide
  have hword : IsWord "zebras" :=
    ⟨by simp, by simp [Text.isSolid, Text.isBlank], by simp, by simp⟩
  have hbuild : settings.pipeline.build = .ok (.ofBuiltins [.lowercase, .stemmer]) := by
    cbv
  obtain ⟨processor, indexer, index, hprocessor, hindexer, -, hindex, -, hmatched⟩ :=
    search_word hparse hnames (.inr hlower) .blockSinglePass hdocnos hword
  have hpipeline : processor.pipeline = .ofBuiltins [.lowercase, .stemmer] := by
    rw [Processor.ofSettings, hbuild] at hprocessor
    cases hprocessor
    rfl
  rw [hpipeline] at hmatched
  have hwords : Text.splitWords "Zebras crossing zebra" = ["Zebras", "crossing", "zebra"] ∧
      Text.splitWords "a ZEBRA" = ["a", "ZEBRA"] := by
    decide +kernel
  have hterms : ["zebras", "Zebras", "crossing", "zebra", "a", "ZEBRA"].map
        (Pipeline.ofBuiltins [.lowercase, .stemmer]).process =
      [some "zebra", some "zebra", some "crossing", some "zebra", some "a", some "zebra"] := by
    decide +kernel
  simp only [List.map_cons, List.map_nil, List.cons.injEq, and_true] at hterms
  have hyields : Pipeline.Yields (.ofBuiltins [.lowercase, .stemmer]) "zebras" "zebra" :=
    ⟨hterms.1, by decide⟩
  obtain ⟨processed, matched, hprocess, hattach, -, hcounts⟩ := hmatched "zebra" hyields
  have hmatches : ∃ document ∈ documents,
      document.Matches (.ofBuiltins [.lowercase, .stemmer]) "zebras" := by
    simp [documents, Document.Matches, hwords, hterms]
  obtain ⟨statistics, hstatistics⟩ :=
    Option.isSome_iff_exists.mp (hcounts.isSome.mpr hmatches)
  refine ⟨settings, processor, indexer, index, processed, matched, statistics, hparse, hprocessor,
    hindexer, hindex, hprocess, hattach, hstatistics, ?_, ?_⟩
  · rw [hcounts.documentFrequency statistics hstatistics]
    simp [documents, Document.Matches, hwords, hterms]
  · rw [hcounts.frequency statistics hstatistics]
    simp [documents, Document.matching, hwords, hterms]

end Settings

end Retrieval
