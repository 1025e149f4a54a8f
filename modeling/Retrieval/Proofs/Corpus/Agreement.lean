import Retrieval.Corpus.Indexer
import Retrieval.Proofs.Corpus.Inversion

/-!
The kinds of indexers agree. An index depends on the documents and on whether positions are kept,
and not on how the documents are cut into runs; an index with positions is the one without them and
something more, since only postings keep positions, and nothing else of an index looks at them.
-/

namespace Retrieval

/-! ### Indexes of documents -/

/-- The index of some documents: of their lengths, and of their terms inverted at once. -/
def Index.ofDocuments (kind : IndexerKind) (pipeline : Pipeline) (documents : List Document) :
    Index :=
  let terms := documents.map (Document.terms pipeline)
  .ofPostings kind
    (documents.zipWith (fun document terms => ⟨document.docno, terms.length⟩) terms)
    (Postings.invert kind.hasPositions 0 terms)

theorem IndexPlan.invert_eq (plan : IndexPlan) (withPositions : Bool)
    (documents : List (List String)) :
    plan.invert withPositions documents = .ofDocuments withPositions 0 documents := by
  cases plan with
  | atOnce => rfl
  | inRuns length positive => exact Inversion.ofRuns_cutRuns ..

namespace Indexer

/-- An indexer cannot index if it does so in runs of no documents. -/
def HasZeroRun (indexer : Indexer) : Prop :=
  indexer.kind.isSinglePass ∧ indexer.flushEvery = 0

instance (indexer : Indexer) : Decidable indexer.HasZeroRun :=
  inferInstanceAs (Decidable (_ ∧ _))

theorem not_hasZeroRun_iff {indexer : Indexer} :
    ¬indexer.HasZeroRun ↔ (indexer.kind.isSinglePass → 0 < indexer.flushEvery) := by
  rw [HasZeroRun, not_and, Nat.pos_iff_ne_zero]

/-- What becomes of a batch. The plan of one that is accepted leaves no trace in its index. -/
theorem index_eq (indexer : Indexer) (documents : List Document) :
    indexer.index documents =
      if indexer.HasZeroRun then .error .zeroRun
      else
        match indexer.overlong? documents with
        | some document =>
            .error (.docnoTooLong document.docno document.docno.utf8ByteSize
              indexer.maxDocnoLength)
        | none => .ok (.ofDocuments indexer.kind indexer.pipeline documents) := by
  split
  · rename_i hzero
    have hplan : indexer.plan = .error .zeroRun := by
      simp [plan, hzero.1, hzero.2]
    simp only [index, validate, hplan, Except.bind, Except.map]
  · rename_i hnonzero
    have hplan : ∃ plan, indexer.plan = .ok plan := by
      unfold plan
      split
      · rename_i hsingle
        exact ⟨_, dif_pos (not_hasZeroRun_iff.mp hnonzero hsingle)⟩
      · exact ⟨_, rfl⟩
    obtain ⟨plan, hplan⟩ := hplan
    cases hoverlong : indexer.overlong? documents with
    | some document =>
        simp only [index, validate, hplan, hoverlong, Except.bind, Except.map]
    | none =>
        simp only [index, validate, hplan, hoverlong, Except.bind, Except.map,
          IndexPlan.invert_eq, Inversion.ofDocuments, Index.ofDocuments, List.zipWith_map_right]

theorem overlong?_eq_none_iff {indexer : Indexer} {documents : List Document} :
    indexer.overlong? documents = none ↔
      ∀ document ∈ documents, document.docno.utf8ByteSize ≤ indexer.maxDocnoLength := by
  simp [overlong?]

/-- A batch that is accepted is indexed. -/
theorem index_eq_ok {indexer : Indexer} {documents : List Document}
    (hruns : indexer.kind.isSinglePass → 0 < indexer.flushEvery)
    (hdocnos : ∀ document ∈ documents,
      document.docno.utf8ByteSize ≤ indexer.maxDocnoLength) :
    indexer.index documents = .ok (.ofDocuments indexer.kind indexer.pipeline documents) := by
  rw [index_eq, if_neg (not_hasZeroRun_iff.mpr hruns), overlong?_eq_none_iff.mpr hdocnos]

end Indexer

/-! ### Indexes without positions -/

def Posting.withoutPositions (posting : Posting) : Posting :=
  { posting with positions := [] }

def Postings.withoutPositions (postings : Postings) : Postings :=
  postings.map fun _ list => list.map Posting.withoutPositions

def Index.withoutPositions (index : Index) : Index :=
  { index with postings := index.postings.withoutPositions }

theorem Postings.listed_withoutPositions (first : Nat) (documents : List (List String))
    (term : String) :
    (listed true first documents term).map Posting.withoutPositions =
      listed false first documents term := by
  rw [listed, listed, List.map_filterMap]
  congr 1
  funext entry
  simp only [Posting.ofTerm?]
  split <;> rfl

theorem Postings.invert_withoutPositions (first : Nat) (documents : List (List String)) :
    (invert true first documents).withoutPositions = invert false first documents := by
  apply Std.ExtTreeMap.ext_getElem?
  intro term
  rw [withoutPositions, Std.ExtTreeMap.getElem?_map, getElem?_invert, getElem?_invert,
    ← listed_withoutPositions]
  cases listed true first documents term <;> rfl

theorem TermStatistics.ofPostings_withoutPositions (termId : Nat) (postings : List Posting) :
    ofPostings termId (postings.map Posting.withoutPositions) = ofPostings termId postings := by
  simp [ofPostings, Function.comp_def, Posting.withoutPositions]

theorem Index.lexiconOf_withoutPositions (postings : Postings) :
    lexiconOf postings.withoutPositions = lexiconOf postings := by
  rw [lexiconOf, lexiconOf, Postings.withoutPositions, Std.ExtTreeMap.toList_map,
    List.zipIdx_map, List.foldl_map]
  simp only [Prod.map, TermStatistics.ofPostings_withoutPositions]
  rfl

theorem Index.ofPostings_withoutPositions (kind : IndexerKind)
    (documents : List IndexedDocument) (postings : Postings) :
    (ofPostings kind documents postings).withoutPositions =
      ofPostings kind documents postings.withoutPositions := by
  have hpointers : (postings.withoutPositions.toList.map fun entry => entry.2.length) =
      postings.toList.map fun entry => entry.2.length := by
    simp [Postings.withoutPositions, Std.ExtTreeMap.toList_map, Function.comp_def]
  simp only [ofPostings, withoutPositions, lexiconOf_withoutPositions, hpointers]

theorem Index.ofDocuments_withoutPositions (pipeline : Pipeline) (documents : List Document) :
    { (ofDocuments .block pipeline documents).withoutPositions with kind := .basic } =
      ofDocuments .basic pipeline documents := by
  rw [ofDocuments, ofPostings_withoutPositions]
  have hinvert := Postings.invert_withoutPositions 0
    (documents.map (Document.terms pipeline))
  simp only [IndexerKind.hasPositions, hinvert]
  rfl

/-- On documents with identifiers that are short enough, all kinds of indexers give the same
documents, lexicon and statistics, and both ways of keeping postings give the same ones at once and
in runs, whatever the length of the runs. Without its positions an index with positions is the
basic one. -/
theorem indexer_kinds_agree (pipeline : Pipeline) (maxDocnoLength : Nat)
    (documents : List Document)
    (h : ∀ document ∈ documents, document.docno.utf8ByteSize ≤ maxDocnoLength) :
    ∃ basic block : Index,
      basic.kind = .basic ∧ block.kind = .block ∧
      { block.withoutPositions with kind := .basic } = basic ∧
      ∀ flushEvery,
        Indexer.index ⟨.basic, pipeline, maxDocnoLength, flushEvery⟩ documents = .ok basic ∧
        Indexer.index ⟨.block, pipeline, maxDocnoLength, flushEvery⟩ documents = .ok block ∧
        (0 < flushEvery →
          Indexer.index ⟨.basicSinglePass, pipeline, maxDocnoLength, flushEvery⟩ documents =
              .ok { basic with kind := .basicSinglePass } ∧
          Indexer.index ⟨.blockSinglePass, pipeline, maxDocnoLength, flushEvery⟩ documents =
              .ok { block with kind := .blockSinglePass }) := by
  refine ⟨.ofDocuments .basic pipeline documents, .ofDocuments .block pipeline documents,
    rfl, rfl, Index.ofDocuments_withoutPositions pipeline documents, ?_⟩
  intro flushEvery
  refine ⟨?_, ?_, fun hflush => ⟨?_, ?_⟩⟩
  · exact Indexer.index_eq_ok nofun h
  · exact Indexer.index_eq_ok nofun h
  · exact Indexer.index_eq_ok (fun _ => hflush) h
  · exact Indexer.index_eq_ok (fun _ => hflush) h

/-- Three documents, one of them empty: runs of two leave the last one alone. -/
theorem indexer_kinds_agree_three_documents :
    let documents : List Document := [⟨"d1", "zebra crossing zebra"⟩, ⟨"d2", ""⟩, ⟨"d3", "zebra"⟩]
    (∀ document ∈ documents, document.docno.utf8ByteSize ≤ 20) ∧
    ∃ basic block : Index,
      { block.withoutPositions with kind := .basic } = basic ∧
      Indexer.index ⟨.block, .empty, 20, 2⟩ documents = .ok block ∧
      Indexer.index ⟨.basicSinglePass, .empty, 20, 2⟩ documents =
        .ok { basic with kind := .basicSinglePass } := by
  intro documents
  have h : ∀ document ∈ documents, document.docno.utf8ByteSize ≤ 20 := by decide
  obtain ⟨basic, block, -, -, herase, hindex⟩ := indexer_kinds_agree .empty 20 documents h
  exact ⟨h, basic, block, herase, (hindex 2).2.1, ((hindex 2).2.2 (by decide)).1⟩

end Retrieval
