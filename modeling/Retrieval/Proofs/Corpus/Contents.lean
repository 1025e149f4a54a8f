import Retrieval.Proofs.Corpus.Agreement

/-!
What an index holds, told by the documents of its batch. An accepted batch gives the index of its
documents, however the indexer gets there, and the postings of that index list a document for a term
exactly if the term is what the pipeline makes of one of its words.
-/

namespace Retrieval

/-! ### Accepted batches -/

namespace Indexer

variable {indexer : Indexer} {documents : List Document} {index : Index}

theorem accepts_of_index_eq_ok (h : indexer.index documents = .ok index) :
    (indexer.kind.isSinglePass → 0 < indexer.flushEvery) ∧
      ∀ document ∈ documents, document.docno.utf8ByteSize ≤ indexer.maxDocnoLength := by
  rw [index_eq] at h
  split at h
  · cases h
  · rename_i hnonzero
    split at h
    · cases h
    · rename_i hshort
      exact ⟨not_hasZeroRun_iff.mp hnonzero, overlong?_eq_none_iff.mp hshort⟩

/-- What an accepted batch gives is the index of its documents. -/
theorem eq_ofDocuments_of_index_eq_ok (h : indexer.index documents = .ok index) :
    index = .ofDocuments indexer.kind indexer.pipeline documents := by
  obtain ⟨hruns, hdocnos⟩ := accepts_of_index_eq_ok h
  rw [index_eq_ok hruns hdocnos] at h
  exact (Except.ok.inj h).symm

end Indexer

/-! ### Terms of a document -/

/-- A pipeline yields a term from a word if it turns the word into the term and the term is not
empty. -/
def Pipeline.Yields (pipeline : Pipeline) (word term : String) : Prop :=
  pipeline.process word = some term ∧ term ≠ ""

instance (pipeline : Pipeline) (word term : String) : Decidable (pipeline.Yields word term) :=
  inferInstanceAs (Decidable (_ ∧ _))

theorem Pipeline.term?_eq_some_iff {pipeline : Pipeline} {word term : String} :
    pipeline.term? word = some term ↔ pipeline.Yields word term := by
  simp [term?, Yields, Option.filter_eq_some_iff]

namespace Document

/-- A document holds a term if a pipeline yields it from one of its words. -/
def Holds (pipeline : Pipeline) (term : String) (document : Document) : Prop :=
  ∃ word ∈ Text.splitWords document.text, pipeline.Yields word term

instance (pipeline : Pipeline) (term : String) (document : Document) :
    Decidable (document.Holds pipeline term) :=
  inferInstanceAs (Decidable (∃ word ∈ _, _))

/-- The number of words of a document from which a pipeline yields a term. -/
def frequency (pipeline : Pipeline) (term : String) (document : Document) : Nat :=
  (Text.splitWords document.text).countP fun word => pipeline.Yields word term

theorem mem_terms_iff {pipeline : Pipeline} {document : Document} {term : String} :
    term ∈ document.terms pipeline ↔ document.Holds pipeline term := by
  simp only [terms, List.mem_filterMap, Pipeline.term?_eq_some_iff, Holds]

theorem count_terms (pipeline : Pipeline) (document : Document) (term : String) :
    (document.terms pipeline).count term = document.frequency pipeline term := by
  rw [terms, List.count, List.countP_filterMap, frequency]
  refine List.countP_congr fun word _ => ?_
  cases hterm : pipeline.term? word <;> simp [← Pipeline.term?_eq_some_iff, hterm]

end Document

/-! ### Postings of a term -/

namespace Postings

theorem mem_listed_iff {withPositions : Bool} {documents : List (List String)} {term : String}
    {posting : Posting} :
    posting ∈ listed withPositions 0 documents term ↔
      ∃ terms, documents[posting.document]? = some terms ∧ term ∈ terms ∧
        posting = Posting.occurrences withPositions posting.document terms term := by
  simp only [listed, List.mem_filterMap, Prod.exists, List.mem_zipIdx_iff_getElem?,
    Posting.ofTerm?]
  constructor
  · rintro ⟨terms, number, hterms, h⟩
    split at h
    · rename_i hmem
      cases h
      exact ⟨terms, hterms, hmem, rfl⟩
    · cases h
  · rintro ⟨terms, hterms, hmem, h⟩
    exact ⟨terms, posting.document, hterms, by rw [if_pos hmem, ← h]⟩

theorem extend_none_eq_some_iff {postings more : List Posting} :
    extend none more = some postings ↔ more = postings ∧ more ≠ [] := by
  cases more <;> simp

theorem listed_ne_nil_iff {withPositions : Bool} {documents : List (List String)}
    {term : String} :
    listed withPositions 0 documents term ≠ [] ↔ ∃ terms ∈ documents, term ∈ terms := by
  constructor
  · intro hne
    obtain ⟨posting, hposting⟩ := List.exists_mem_of_ne_nil _ hne
    obtain ⟨terms, hterms, hmem, -⟩ := mem_listed_iff.mp hposting
    exact ⟨terms, List.mem_of_getElem? hterms, hmem⟩
  · rintro ⟨terms, hterms, hmem⟩
    obtain ⟨number, hnumber⟩ := List.mem_iff_getElem?.mp hterms
    have hposting : Posting.occurrences withPositions number terms term ∈
        listed withPositions 0 documents term :=
      mem_listed_iff.mpr ⟨terms, hnumber, hmem, rfl⟩
    exact List.ne_nil_of_mem hposting

end Postings

namespace Index

variable {kind : IndexerKind} {pipeline : Pipeline} {documents : List Document}

/-- The postings of a term are those that the documents hold for it, and there are some. -/
theorem postings?_eq_some_iff {term : String} {postings : List Posting} :
    (ofDocuments kind pipeline documents).postings? term = some postings ↔
      Postings.listed kind.hasPositions 0 (documents.map (Document.terms pipeline)) term =
          postings ∧ postings ≠ [] := by
  rw [postings?]
  change (Postings.invert _ _ _)[term]? = some postings ↔ _
  rw [Postings.getElem?_invert, Postings.extend_none_eq_some_iff]
  constructor
  · rintro ⟨rfl, hne⟩
    exact ⟨rfl, hne⟩
  · rintro ⟨rfl, hne⟩
    exact ⟨rfl, hne⟩

theorem documents_ofDocuments :
    (ofDocuments kind pipeline documents).documents =
      documents.map fun document => ⟨document.docno, (document.terms pipeline).length⟩ := by
  change documents.zipWith _ (documents.map _) = _
  rw [List.zipWith_map_right, List.zipWith_self]

theorem document?_ofDocuments (number : Nat) :
    (ofDocuments kind pipeline documents).document? number =
      documents[number]?.map fun document =>
        ⟨document.docno, (document.terms pipeline).length⟩ := by
  rw [document?, documents_ofDocuments, List.getElem?_map]

end Index

end Retrieval
