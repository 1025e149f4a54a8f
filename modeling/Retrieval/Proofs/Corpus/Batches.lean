import Retrieval.Proofs.Corpus.Contents

/-!
Batches are indexed as a whole or not at all. Nothing but the length of a run and the identifiers
can be in the way, and they are judged before any text is looked at, so every kind of indexer gives
the same verdict. A batch that is accepted loses no document, whether it is empty or ends a run: the
table of documents has the identifiers of the batch in order, each with what was kept of its text.
-/

namespace Retrieval

/-! ### Words that are kept -/

def Pipeline.Keeps (pipeline : Pipeline) (word : String) : Prop :=
  ∃ term, pipeline.Yields word term

theorem Pipeline.isSome_term?_iff {pipeline : Pipeline} {word : String} :
    (pipeline.term? word).isSome ↔ pipeline.Keeps word := by
  simp only [Option.isSome_iff_exists, term?_eq_some_iff, Keeps]

instance (pipeline : Pipeline) (word : String) : Decidable (pipeline.Keeps word) :=
  decidable_of_iff _ Pipeline.isSome_term?_iff

def Document.keptWords (pipeline : Pipeline) (document : Document) : Nat :=
  (Text.splitWords document.text).countP fun word => pipeline.Keeps word

theorem Document.length_terms (pipeline : Pipeline) (document : Document) :
    (document.terms pipeline).length = document.keptWords pipeline := by
  rw [terms, List.length_filterMap_eq_countP, keptWords]
  refine List.countP_congr fun word _ => ?_
  rw [decide_eq_true_iff, Pipeline.isSome_term?_iff]

/-! ### Verdicts -/

namespace Indexer

/-- An identifier is the first one of some that is longer than a limit. -/
def FirstOverlong (limit : Nat) (docnos : List String) (docno : String) : Prop :=
  ∃ before after, docnos = before ++ docno :: after ∧
    (∀ other ∈ before, other.utf8ByteSize ≤ limit) ∧ limit < docno.utf8ByteSize

variable {indexer : Indexer} {documents : List Document}

/-- The verdict on a batch only looks at its identifiers. -/
theorem map_overlong?_eq_some_iff {docno : String} :
    (indexer.overlong? documents).map Document.docno = some docno ↔
      FirstOverlong indexer.maxDocnoLength (documents.map Document.docno) docno := by
  have hfind : (indexer.overlong? documents).map Document.docno =
      (documents.map Document.docno).find? fun docno =>
        indexer.maxDocnoLength < docno.utf8ByteSize := by
    rw [List.find?_map]
    rfl
  simp only [hfind, List.find?_eq_some_iff_append, decide_eq_true_eq, Bool.not_eq_true',
    decide_eq_false_iff_not, Nat.not_lt]
  constructor
  · rintro ⟨hlong, before, after, hdocnos, hbefore⟩
    exact ⟨before, after, hdocnos, hbefore, hlong⟩
  · rintro ⟨before, after, hdocnos, hbefore, hlong⟩
    exact ⟨hlong, before, after, hdocnos, hbefore⟩

/-- An indexer that can index refuses a batch for the first identifier that is too long, and for
nothing else. -/
theorem index_eq_error_iff (h : ¬indexer.HasZeroRun) {error : IndexError} :
    indexer.index documents = .error error ↔
      ∃ docno, FirstOverlong indexer.maxDocnoLength (documents.map Document.docno) docno ∧
        error = .docnoTooLong docno docno.utf8ByteSize indexer.maxDocnoLength := by
  simp only [← map_overlong?_eq_some_iff]
  rw [index_eq, if_neg h]
  cases indexer.overlong? documents with
  | none => simp
  | some document => simp [eq_comm]

theorem exists_error_iff (h : ¬indexer.HasZeroRun) :
    (∃ error, indexer.index documents = .error error) ↔
      ∃ document ∈ documents, indexer.maxDocnoLength < document.docno.utf8ByteSize := by
  rw [index_eq, if_neg h]
  cases hoverlong : indexer.overlong? documents with
  | none =>
      have hshort := overlong?_eq_none_iff.mp hoverlong
      simp only [reduceCtorEq, exists_false, false_iff, not_exists, not_and, Nat.not_lt]
      exact hshort
  | some document =>
      have hlong := List.find?_some hoverlong
      simp only [Except.error.injEq, exists_eq', true_iff]
      exact ⟨document, List.mem_of_find?_eq_some hoverlong, by simpa using hlong⟩

theorem document?_of_index_eq_ok {index : Index} (h : indexer.index documents = .ok index)
    (number : Nat) :
    index.document? number = documents[number]?.map fun document =>
      ⟨document.docno, document.keptWords indexer.pipeline⟩ := by
  rw [eq_ofDocuments_of_index_eq_ok h, Index.document?_ofDocuments]
  simp only [Document.length_terms]

/-- An indexer fails for a run length of zero if it indexes in runs; else it fails for the first
identifier of the batch that is too long, whatever the texts are and whatever its kind is; else it
gives an index with all documents of the batch in order, each with the number of its words that the
pipeline keeps. -/
theorem index_all_or_nothing (indexer : Indexer) (documents : List Document) :
    (indexer.index documents = .error .zeroRun ↔ indexer.HasZeroRun) ∧
    (¬indexer.HasZeroRun →
      ((∃ error, indexer.index documents = .error error) ↔
        ∃ document ∈ documents, indexer.maxDocnoLength < document.docno.utf8ByteSize) ∧
      (∀ error, indexer.index documents = .error error ↔
        ∃ docno, FirstOverlong indexer.maxDocnoLength (documents.map Document.docno) docno ∧
          error = .docnoTooLong docno docno.utf8ByteSize indexer.maxDocnoLength) ∧
      (∀ (other : Indexer) (others : List Document), ¬other.HasZeroRun →
        other.maxDocnoLength = indexer.maxDocnoLength →
        others.map Document.docno = documents.map Document.docno →
        ∀ error, other.index others = .error error ↔ indexer.index documents = .error error) ∧
      ((∀ document ∈ documents, document.docno.utf8ByteSize ≤ indexer.maxDocnoLength) →
        ∃ index, indexer.index documents = .ok index ∧
          index.documents.length = documents.length ∧
          ∀ number : Nat, index.document? number = documents[number]?.map fun document =>
            ⟨document.docno, document.keptWords indexer.pipeline⟩)) := by
  constructor
  · constructor
    · intro hindex
      by_contra hnonzero
      obtain ⟨docno, -, herror⟩ := (index_eq_error_iff hnonzero).mp hindex
      cases herror
    · intro hzero
      rw [index_eq, if_pos hzero]
  · intro hnonzero
    refine ⟨exists_error_iff hnonzero, fun error => index_eq_error_iff hnonzero, ?_, ?_⟩
    · intro other others hother hlimit hdocnos error
      rw [index_eq_error_iff hother, index_eq_error_iff hnonzero, hlimit, hdocnos]
    · intro hdocnos
      have hindex := index_eq_ok (not_hasZeroRun_iff.mp hnonzero) hdocnos
      refine ⟨_, hindex, ?_, document?_of_index_eq_ok hindex⟩
      rw [Index.documents_ofDocuments, List.length_map]

/-- An empty document, alone in the last run, and one whose words are all discarded. -/
example :
    (Indexer.index ⟨.blockSinglePass, .ofBuiltins [.removeLong 6], 20, 2⟩
      [⟨"d1", "zebra crossing zebra"⟩, ⟨"d2", "crossing"⟩, ⟨"d3", ""⟩]).toOption.map
        Index.documents = some [⟨"d1", 2⟩, ⟨"d2", 0⟩, ⟨"d3", 0⟩] := by
  decide +kernel

end Indexer

end Retrieval
