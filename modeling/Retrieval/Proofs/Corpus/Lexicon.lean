import Mathlib.Algebra.BigOperators.Group.List.Lemmas
import Mathlib.Algebra.GroupWithZero.Nat
import Retrieval.Proofs.Corpus.Contents
import Retrieval.Proofs.Text.ByteOrder

/-!
The lexicon and the counts of an index are those of the texts. A document has one posting for each
of its terms, so the postings of a term count the documents that hold it, and their frequencies add
up to the words that yield it. Counted along the documents or along the terms, the tokens are the
same ones. None of this looks at the order of the documents.
-/

namespace Retrieval

/-! ### Counting postings -/

theorem total_eq_sum (counts : List Nat) : total counts = counts.sum :=
  List.sum_eq_foldl.symm

namespace Postings

/-- A term has one posting for each document that holds it. -/
theorem length_listed (withPositions : Bool) (first : Nat) (documents : List (List String))
    (term : String) :
    (listed withPositions first documents term).length =
      documents.countP fun terms => term ∈ terms := by
  induction documents generalizing first with
  | nil => rfl
  | cons terms documents ih =>
      rw [listed_cons, List.length_append, ih, List.countP_cons, Posting.ofTerm?]
      by_cases h : term ∈ terms <;> simp [h, Nat.add_comm]

theorem sum_frequency_listed (withPositions : Bool) (first : Nat)
    (documents : List (List String)) (term : String) :
    ((listed withPositions first documents term).map Posting.frequency).sum =
      (documents.map (List.count term)).sum := by
  induction documents generalizing first with
  | nil => rfl
  | cons terms documents ih =>
      rw [listed_cons, List.map_append, List.sum_append, ih, List.map_cons, List.sum_cons,
        Posting.ofTerm?]
      by_cases h : term ∈ terms <;> simp [h, Posting.occurrences, List.count_eq_zero_of_not_mem]

end Postings

/-! ### Numbering terms -/

/-- The number of texts among some that come before a text in the order of their bytes. -/
def rank (texts : List String) (text : String) : Nat :=
  texts.countP fun other => Text.utf8 other < Text.utf8 text

/-- In a list in order, the texts before one are as many as its position says. -/
theorem rank_of_getElem? {texts : List String} (hsorted : texts.Pairwise (· < ·)) {i : Nat}
    {text : String} (h : texts[i]? = some text) : rank texts text = i := by
  obtain ⟨hi, rfl⟩ := List.getElem?_eq_some_iff.mp h
  have hsplit : texts = texts.take i ++ texts[i] :: texts.drop (i + 1) := by
    rw [List.getElem_cons_drop, List.take_append_drop]
  have hbefore : ∀ other ∈ texts.take i, decide (Text.utf8 other < Text.utf8 texts[i]) := by
    intro other hmem
    rw [decide_eq_true_eq, Text.utf8_lt_utf8_iff]
    rw [hsplit, List.pairwise_append] at hsorted
    exact hsorted.2.2 other hmem _ List.mem_cons_self
  have hbehind : ∀ other ∈ texts[i] :: texts.drop (i + 1),
      ¬decide (Text.utf8 other < Text.utf8 texts[i]) := by
    intro other hmem
    rw [decide_eq_true_eq, Text.utf8_lt_utf8_iff]
    obtain rfl | hmem := List.mem_cons.mp hmem
    · exact String.lt_irrefl _
    · rw [hsplit, List.pairwise_append, List.pairwise_cons] at hsorted
      exact String.lt_asymm (hsorted.2.1.1 other hmem)
  calc rank texts texts[i]
      = (texts.take i ++ texts[i] :: texts.drop (i + 1)).countP
          fun other => Text.utf8 other < Text.utf8 texts[i] := by rw [← hsplit]; rfl
    _ = (texts.take i).length + 0 := by
      rw [List.countP_append, List.countP_eq_length.mpr hbefore, List.countP_eq_zero.mpr hbehind]
    _ = i := by
      rw [List.length_take]
      omega

namespace Index

/-- An entry of a lexicon says at which position its postings stand. -/
theorem getElem?_number {entries : List (String × List Posting)}
    (hdistinct : entries.Pairwise fun entry other => entry.1 ≠ other.1) {term : String}
    {statistics : TermStatistics} :
    (entries.zipIdx.foldl (fun lexicon (entry, termId) =>
      lexicon.insert entry.1 (TermStatistics.ofPostings termId entry.2))
        (∅ : Std.ExtTreeMap String TermStatistics))[term]? = some statistics ↔
      ∃ termId postings, entries[termId]? = some (term, postings) ∧
        statistics = TermStatistics.ofPostings termId postings := by
  induction entries using List.reverseRecOn with
  | nil => simp
  | append_singleton entries last ih =>
      obtain ⟨hentries, -, hlast⟩ := List.pairwise_append.mp hdistinct
      have hnew : ∀ (i : Nat) (postings : List Posting), entries[i]? ≠ some (last.1, postings) := by
        intro i postings hi
        exact hlast _ (List.mem_of_getElem? hi) last List.mem_cons_self rfl
      rw [List.zipIdx_append, List.foldl_append]
      simp only [List.zipIdx_singleton, List.foldl_cons, List.foldl_nil,
        Std.ExtTreeMap.getElem?_insert, Std.compare_eq_iff_eq]
      by_cases hterm : last.1 = term
      · subst hterm
        rw [if_pos rfl, Option.some_inj]
        constructor
        · rintro rfl
          exact ⟨entries.length, last.2, by simp, by simp⟩
        · rintro ⟨i, postings, hi, rfl⟩
          rw [List.getElem?_append] at hi
          split at hi
          · exact absurd hi (hnew i postings)
          · have hi' := (List.getElem?_eq_some_iff.mp hi).1
            simp only [List.length_singleton] at hi'
            have hlength : i = entries.length := by omega
            subst hlength
            simp only [Nat.sub_self, List.getElem?_cons_zero, Option.some_inj] at hi
            rw [hi, Nat.zero_add]
      · rw [if_neg hterm, ih hentries]
        refine exists_congr fun i => exists_congr fun postings => and_congr_left fun _ => ?_
        rw [List.getElem?_append]
        split
        · rfl
        · rename_i hi
          rw [List.getElem?_eq_none (Nat.le_of_not_lt hi)]
          constructor
          · intro h
            cases h
          · intro h
            have hlast := List.mem_singleton.mp (List.mem_of_getElem? h)
            exact absurd (congrArg Prod.fst hlast).symm hterm

/-- The entry of a term counts its postings, and is numbered by the terms before it. -/
theorem getElem?_lexiconOf (postings : Postings) (term : String) :
    (lexiconOf postings)[term]? =
      postings[term]?.map (TermStatistics.ofPostings (rank postings.keys term)) := by
  have hdistinct : postings.toList.Pairwise fun entry other => entry.1 ≠ other.1 := by
    refine Std.ExtTreeMap.distinct_keys_toList.imp ?_
    intro entry other hne heq
    exact hne (Std.compare_eq_iff_eq.mpr heq)
  have hsorted : postings.keys.Pairwise (· < ·) := by
    refine Std.ExtTreeMap.ordered_keys.imp ?_
    intro first second hlt
    exact compareOfLessAndEq_eq_lt.mp hlt
  ext statistics
  rw [lexiconOf, getElem?_number hdistinct, Option.map_eq_some_iff]
  constructor
  · rintro ⟨termId, list, hentry, rfl⟩
    have hkey : postings.keys[termId]? = some term := by
      rw [← Std.ExtTreeMap.map_fst_toList_eq_keys, List.getElem?_map, hentry]
      rfl
    rw [rank_of_getElem? hsorted hkey]
    exact ⟨list, Std.ExtTreeMap.mem_toList_iff_getElem?_eq_some.mp
      (List.mem_of_getElem? hentry), rfl⟩
  · rintro ⟨list, hlist, rfl⟩
    obtain ⟨termId, hentry⟩ := List.mem_iff_getElem?.mp
      (Std.ExtTreeMap.mem_toList_iff_getElem?_eq_some.mpr hlist)
    have hkey : postings.keys[termId]? = some term := by
      rw [← Std.ExtTreeMap.map_fst_toList_eq_keys, List.getElem?_map, hentry]
      rfl
    exact ⟨termId, list, hentry, by rw [rank_of_getElem? hsorted hkey]⟩

end Index

/-! ### The entries of an index -/

/-- The statistics of a term told by the texts of some documents: its number among the terms of a
lexicon, the documents that hold it, and the words that yield it. -/
def TermStatistics.ofTexts (pipeline : Pipeline) (documents : List Document)
    (lexicon : List String) (term : String) : TermStatistics where
  termId := rank lexicon term
  documentFrequency := documents.countP fun document => document.Holds pipeline term
  frequency := (documents.map (Document.frequency pipeline term)).sum

theorem TermStatistics.ofTexts_perm {pipeline : Pipeline} {documents others : List Document}
    {lexicon lexicon' : List String} (hdocuments : documents.Perm others)
    (hlexicon : lexicon.Perm lexicon') (term : String) :
    ofTexts pipeline documents lexicon term = ofTexts pipeline others lexicon' term := by
  rw [ofTexts, ofTexts, rank, rank, hlexicon.countP_eq, hdocuments.countP_eq,
    (hdocuments.map _).sum_eq]

namespace Index

variable {kind : IndexerKind} {pipeline : Pipeline} {documents : List Document}

theorem mem_postings_iff {term : String} :
    term ∈ (ofDocuments kind pipeline documents).postings ↔
      ∃ document ∈ documents, document.Holds pipeline term := by
  rw [← Std.ExtTreeMap.isSome_getElem?_iff_mem, Option.isSome_iff_exists]
  change (∃ list, (ofDocuments kind pipeline documents).postings? term = some list) ↔ _
  simp only [postings?_eq_some_iff, exists_eq_left', Postings.listed_ne_nil_iff, List.mem_map,
    exists_exists_and_eq_and, Document.mem_terms_iff]

theorem lexicon_ofDocuments :
    (ofDocuments kind pipeline documents).lexicon =
      lexiconOf (ofDocuments kind pipeline documents).postings := rfl

theorem mem_postings_iff_mem_lexicon {term : String} :
    term ∈ (ofDocuments kind pipeline documents).postings ↔
      term ∈ (ofDocuments kind pipeline documents).lexicon := by
  rw [lexicon_ofDocuments, ← Std.ExtTreeMap.isSome_getElem?_iff_mem,
    ← Std.ExtTreeMap.isSome_getElem?_iff_mem, getElem?_lexiconOf, Option.isSome_map]

theorem mem_lexicon_iff {term : String} :
    term ∈ (ofDocuments kind pipeline documents).lexicon ↔
      ∃ document ∈ documents, document.Holds pipeline term := by
  rw [← mem_postings_iff_mem_lexicon, mem_postings_iff]

theorem keys_postings_perm :
    (ofDocuments kind pipeline documents).postings.keys.Perm
      (ofDocuments kind pipeline documents).lexicon.keys := by
  rw [List.perm_ext_iff_of_nodup Std.ExtTreeMap.nodup_keys Std.ExtTreeMap.nodup_keys]
  intro term
  rw [Std.ExtTreeMap.mem_keys, Std.ExtTreeMap.mem_keys, mem_postings_iff_mem_lexicon]

theorem length_listed_terms (term : String) :
    (Postings.listed kind.hasPositions 0 (documents.map (Document.terms pipeline)) term).length =
      documents.countP fun document => document.Holds pipeline term := by
  rw [Postings.length_listed, List.countP_map]
  refine List.countP_congr fun document _ => ?_
  simp [Document.mem_terms_iff]

theorem statistics_eq_ofTexts {term : String} {statistics : TermStatistics}
    (h : Index.entry? (ofDocuments kind pipeline documents) term = some statistics) :
    statistics = .ofTexts pipeline documents
      (ofDocuments kind pipeline documents).lexicon.keys term := by
  unfold entry? at h
  rw [lexicon_ofDocuments, getElem?_lexiconOf, Option.map_eq_some_iff] at h
  obtain ⟨list, hlist, rfl⟩ := h
  obtain ⟨rfl, -⟩ := postings?_eq_some_iff.mp hlist
  rw [TermStatistics.ofPostings, TermStatistics.ofTexts, total_eq_sum, length_listed_terms,
    Postings.sum_frequency_listed, List.map_map, rank, rank, keys_postings_perm.countP_eq]
  congr 2
  refine List.map_congr_left fun document _ => ?_
  exact Document.count_terms ..

/-- Something counted for the entries is counted for the terms of the lexicon. -/
theorem map_entries {count : TermStatistics → Nat} {countOf : String → Nat}
    (h : ∀ term statistics,
      Index.entry? (ofDocuments kind pipeline documents) term = some statistics →
        count statistics = countOf term) :
    ((ofDocuments kind pipeline documents).entries.map fun entry => count entry.2) =
      (ofDocuments kind pipeline documents).lexicon.keys.map countOf := by
  rw [← Std.ExtTreeMap.map_fst_toList_eq_keys, List.map_map]
  refine List.map_congr_left fun entry hentry => ?_
  exact h entry.1 entry.2 (Std.ExtTreeMap.mem_toList_iff_getElem?_eq_some.mp hentry)

/-! ### The counts of an index -/

theorem length_flatten_terms :
    ((ofDocuments kind pipeline documents).documents.map IndexedDocument.length).sum =
      (documents.map (Document.terms pipeline)).flatten.length := by
  rw [documents_ofDocuments, List.map_map, List.length_flatten, List.map_map]
  rfl

/-- Every token of the batch is counted for one term of the lexicon. -/
theorem sum_frequencies :
    ((ofDocuments kind pipeline documents).entries.map fun entry => entry.2.frequency).sum =
      (documents.map (Document.terms pipeline)).flatten.length := by
  have hcount : ∀ term statistics,
      Index.entry? (ofDocuments kind pipeline documents) term = some statistics →
        statistics.frequency = (documents.map (Document.terms pipeline)).flatten.count term := by
    intro term statistics hentry
    rw [statistics_eq_ofTexts hentry, List.count_flatten, List.map_map]
    refine congrArg List.sum (List.map_congr_left fun document _ => ?_)
    exact (Document.count_terms ..).symm
  have hterms : (ofDocuments kind pipeline documents).lexicon.keys.Perm
      (documents.map (Document.terms pipeline)).flatten.dedup := by
    rw [List.perm_ext_iff_of_nodup Std.ExtTreeMap.nodup_keys (List.nodup_dedup _)]
    intro term
    simp only [Std.ExtTreeMap.mem_keys, mem_lexicon_iff, List.mem_dedup, List.mem_flatten,
      List.mem_map, exists_exists_and_eq_and, Document.mem_terms_iff]
  rw [map_entries hcount, (hterms.map _).sum_eq, List.sum_map_count_dedup_eq_length]

theorem sum_documentFrequencies :
    ((ofDocuments kind pipeline documents).entries.map fun entry =>
      entry.2.documentFrequency).sum =
      (ofDocuments kind pipeline documents).statistics.pointers := by
  have hcount : ∀ term statistics,
      Index.entry? (ofDocuments kind pipeline documents) term = some statistics →
        statistics.documentFrequency =
          documents.countP fun document => document.Holds pipeline term := by
    intro term statistics hentry
    rw [statistics_eq_ofTexts hentry]
    rfl
  have hpostings : ((ofDocuments kind pipeline documents).postings.toList.map fun entry =>
      entry.2.length) = (ofDocuments kind pipeline documents).postings.keys.map fun term =>
        documents.countP fun document => document.Holds pipeline term := by
    rw [← Std.ExtTreeMap.map_fst_toList_eq_keys, List.map_map]
    refine List.map_congr_left fun entry hentry => ?_
    have hentry := Std.ExtTreeMap.mem_toList_iff_getElem?_eq_some.mp hentry
    obtain ⟨heq, -⟩ := postings?_eq_some_iff.mp hentry
    rw [← heq, length_listed_terms]
    rfl
  rw [map_entries hcount, ← (keys_postings_perm.map _).sum_eq, ← hpostings, ← total_eq_sum]
  rfl

end Index

/-- An index tells the texts of some documents: its lexicon holds the terms that they hold, with
what is counted for them, and its own counts are the sums of those. -/
structure Index.Tells (pipeline : Pipeline) (documents : List Document) (index : Index) :
    Prop where
  mem_lexicon : ∀ term,
    term ∈ index.lexicon ↔ ∃ document ∈ documents, document.Holds pipeline term
  entry : ∀ term statistics, index.entry? term = some statistics →
    statistics = .ofTexts pipeline documents index.lexicon.keys term
  mem_postings : ∀ term, term ∈ index.postings ↔ term ∈ index.lexicon
  tokens_lengths : index.statistics.tokens = (index.documents.map IndexedDocument.length).sum
  tokens_frequencies : index.statistics.tokens =
    (index.entries.map fun entry => entry.2.frequency).sum
  pointers : index.statistics.pointers =
    (index.entries.map fun entry => entry.2.documentFrequency).sum
  uniqueTerms : index.statistics.uniqueTerms = index.lexicon.keys.length
  documents : index.statistics.documents = documents.length

theorem Index.tells_ofDocuments (kind : IndexerKind) (pipeline : Pipeline)
    (documents : List Document) :
    (ofDocuments kind pipeline documents).Tells pipeline documents where
  mem_lexicon _ := mem_lexicon_iff
  entry _ _ := statistics_eq_ofTexts
  mem_postings _ := mem_postings_iff_mem_lexicon
  tokens_lengths := total_eq_sum _
  tokens_frequencies := by
    rw [sum_frequencies, ← @length_flatten_terms kind, ← total_eq_sum]
    rfl
  pointers := sum_documentFrequencies.symm
  uniqueTerms := Std.ExtTreeMap.length_keys.symm
  documents := by
    change (ofDocuments kind pipeline documents).documents.length = _
    rw [documents_ofDocuments, List.length_map]

/-- Documents in another order have the same lexicon. -/
theorem Index.lexicon_perm {kind : IndexerKind} {pipeline : Pipeline}
    {documents others : List Document} (h : documents.Perm others) :
    (ofDocuments kind pipeline documents).lexicon =
      (ofDocuments kind pipeline others).lexicon := by
  have hmem : ∀ term, term ∈ (ofDocuments kind pipeline documents).lexicon ↔
      term ∈ (ofDocuments kind pipeline others).lexicon := by
    intro term
    simp only [mem_lexicon_iff, h.mem_iff]
  have hkeys : (ofDocuments kind pipeline documents).lexicon.keys.Perm
      (ofDocuments kind pipeline others).lexicon.keys := by
    rw [List.perm_ext_iff_of_nodup Std.ExtTreeMap.nodup_keys Std.ExtTreeMap.nodup_keys]
    simpa only [Std.ExtTreeMap.mem_keys] using hmem
  apply Std.ExtTreeMap.ext_getElem?
  intro term
  cases hentry : (ofDocuments kind pipeline documents).lexicon[term]? with
  | none =>
      rw [getElem?_eq_none_iff, hmem] at hentry
      exact (Std.ExtTreeMap.getElem?_eq_none hentry).symm
  | some statistics =>
      have hother := (hmem term).mp (Std.ExtTreeMap.getElem?_eq_some_iff.mp hentry).1
      obtain ⟨statistics', hentry'⟩ :=
        Option.isSome_iff_exists.mp (Std.ExtTreeMap.isSome_getElem?_iff_mem.mpr hother)
      rw [hentry', statistics_eq_ofTexts hentry, statistics_eq_ofTexts hentry',
        TermStatistics.ofTexts_perm h hkeys]

attribute [ext] CorpusStatistics

theorem Index.statistics_perm {kind : IndexerKind} {pipeline : Pipeline}
    {documents others : List Document} (h : documents.Perm others) :
    (ofDocuments kind pipeline documents).statistics =
      (ofDocuments kind pipeline others).statistics := by
  have htells := tells_ofDocuments kind pipeline documents
  have htells' := tells_ofDocuments kind pipeline others
  have hlexicon : (ofDocuments kind pipeline documents).lexicon =
      (ofDocuments kind pipeline others).lexicon := lexicon_perm h
  have hentries : (ofDocuments kind pipeline documents).entries =
      (ofDocuments kind pipeline others).entries := congrArg Std.ExtTreeMap.toList hlexicon
  ext
  · rw [htells.documents, htells'.documents, h.length_eq]
  · rw [htells.tokens_frequencies, htells'.tokens_frequencies, hentries]
  · rw [htells.uniqueTerms, htells'.uniqueTerms, hlexicon]
  · rw [htells.pointers, htells'.pointers, hentries]

/-- The lexicon and the counts of an index are those of the texts, and the order of the documents
changes neither. -/
theorem Indexer.index_tells_texts {indexer : Indexer} {documents : List Document} {index : Index}
    (h : indexer.index documents = .ok index) :
    index.Tells indexer.pipeline documents ∧
      ∀ others : List Document, documents.Perm others →
        ∃ index', indexer.index others = .ok index' ∧ index'.lexicon = index.lexicon ∧
          index'.statistics = index.statistics := by
  obtain ⟨hruns, hdocnos⟩ := accepts_of_index_eq_ok h
  rw [eq_ofDocuments_of_index_eq_ok h]
  refine ⟨Index.tells_ofDocuments .., fun others hperm => ?_⟩
  have hothers : ∀ document ∈ others, document.docno.utf8ByteSize ≤ indexer.maxDocnoLength := by
    intro document hmem
    exact hdocnos document (hperm.mem_iff.mpr hmem)
  exact ⟨_, index_eq_ok hruns hothers, (Index.lexicon_perm hperm).symm,
    (Index.statistics_perm hperm).symm⟩

/-- Two documents that share a term, in runs of one. -/
theorem Indexer.index_tells_two_documents :
    let indexer : Indexer := { kind := .basicSinglePass, pipeline := .default, flushEvery := 1 }
    let documents : List Document := [⟨"d1", "Zebras crossing zebra"⟩, ⟨"d2", "a zebra"⟩]
    ∃ index, indexer.index documents = .ok index ∧ index.Tells indexer.pipeline documents ∧
      index.statistics.documents = 2 ∧ "zebra" ∈ index.lexicon ∧
      ∃ index', indexer.index documents.reverse = .ok index' ∧ index'.lexicon = index.lexicon := by
  intro indexer documents
  have hindex : indexer.index documents =
      .ok (.ofDocuments indexer.kind indexer.pipeline documents) :=
    index_eq_ok (fun _ => by decide) (by decide)
  obtain ⟨htells, hperm⟩ := index_tells_texts hindex
  have hzebra : Document.Holds indexer.pipeline "zebra" ⟨"d2", "a zebra"⟩ := by
    decide +kernel
  obtain ⟨index', hindex', hlexicon, -⟩ := hperm _ (List.reverse_perm documents).symm
  have hmem : "zebra" ∈ (Index.ofDocuments indexer.kind indexer.pipeline documents).lexicon :=
    (htells.mem_lexicon _).mpr ⟨_, by simp [documents], hzebra⟩
  exact ⟨_, hindex, htells, htells.documents, hmem, index', hindex', hlexicon⟩

end Retrieval
