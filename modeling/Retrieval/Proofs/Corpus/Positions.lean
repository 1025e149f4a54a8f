import Retrieval.Proofs.Corpus.Contents

/-!
An index with positions loses nothing. The places of a term in a document are those at which it
stands, in order and none of them twice, so every place of a document belongs to one term: the
postings of all terms together spell the document. Nothing is left over either, since a posting only
speaks of documents and places that there are.
-/

namespace Retrieval

/-! ### Places in a document -/

namespace Posting

theorem mem_places_iff {term : String} {terms : List String} {place : Nat} :
    place ∈ places term terms ↔ terms[place]? = some term := by
  simp [places, List.mem_zipIdx_iff_getElem?]

theorem pairwise_places (term : String) (terms : List String) :
    (places term terms).Pairwise (· < ·) := by
  have hsublist : (places term terms).Sublist (terms.zipIdx.map Prod.snd) :=
    List.filter_sublist.map _
  rw [List.zipIdx_map_snd] at hsublist
  exact List.Pairwise.sublist hsublist List.pairwise_lt_range'

theorem length_places (term : String) (terms : List String) :
    (places term terms).length = terms.count term := by
  induction terms using List.reverseRecOn with
  | nil => rfl
  | append_singleton terms last ih =>
      rw [places_concat, List.count_append, List.count_singleton]
      by_cases h : last = term <;> simp [h, ih]

end Posting

theorem Postings.pairwise_document_listed (withPositions : Bool) (first : Nat)
    (documents : List (List String)) (term : String) :
    ((listed withPositions first documents term).map Posting.document).Pairwise (· < ·) := by
  have hnumbers : (documents.zipIdx first).Pairwise fun entry other => entry.2 < other.2 := by
    rw [← List.pairwise_map (f := Prod.snd) (R := (· < ·)), List.zipIdx_map_snd]
    exact List.pairwise_lt_range'
  rw [List.pairwise_map, listed]
  refine hnumbers.filterMap _ ?_
  intro entry other hlt posting hposting posting' hposting'
  simp only [Posting.ofTerm?, Option.ite_none_right_eq_some] at hposting hposting'
  obtain ⟨-, hposting⟩ := hposting
  obtain ⟨-, hposting'⟩ := hposting'
  cases hposting
  cases hposting'
  exact hlt

/-! ### Reading a document off the postings -/

/-- A posting that only speaks of what is there: of a document of the index, and of places in it, in
order and as many as it counts. -/
structure Posting.Sound (index : Index) (posting : Posting) : Prop where
  document_lt : posting.document < index.documents.length
  frequency_pos : 0 < posting.frequency
  frequency_eq : posting.frequency = posting.positions.length
  increasing : posting.positions.Pairwise (· < ·)
  position_lt : ∃ entry, index.document? posting.document = some entry ∧
    ∀ position ∈ posting.positions, position < entry.length

namespace Index

def standsAt (index : Index) (number position : Nat) (term : String) : Bool :=
  ((index.postings? term).getD []).any fun posting =>
    posting.document = number && posting.positions.contains position

def termAt? (index : Index) (number position : Nat) : Option String :=
  index.postings.keys.find? (index.standsAt number position)

def spell (index : Index) (number : Nat) : List String :=
  (List.range (((index.document? number).map IndexedDocument.length).getD 0)).filterMap
    (index.termAt? number)

variable {kind : IndexerKind} {pipeline : Pipeline} {documents : List Document}

/-- A term stands at a position if it is the one that the document has there. -/
theorem standsAt_iff (hkind : kind.hasPositions) {number position : Nat} {term : String} :
    (ofDocuments kind pipeline documents).standsAt number position term ↔
      ∃ document, documents[number]? = some document ∧
        (document.terms pipeline)[position]? = some term := by
  have hlisted : ((ofDocuments kind pipeline documents).postings? term).getD [] =
      Postings.listed true 0 (documents.map (Document.terms pipeline)) term := by
    rw [← hkind]
    cases h : (ofDocuments kind pipeline documents).postings? term with
    | some postings => exact (postings?_eq_some_iff.mp h).1.symm
    | none =>
        by_contra hne
        have := postings?_eq_some_iff.mpr ⟨rfl, Ne.symm hne⟩
        rw [h] at this
        cases this
  simp only [standsAt, hlisted, List.any_eq_true, Bool.and_eq_true, decide_eq_true_eq,
    List.contains_iff_mem]
  constructor
  · rintro ⟨posting, hposting, rfl, hposition⟩
    obtain ⟨terms, hterms, -, heq⟩ := Postings.mem_listed_iff.mp hposting
    rw [List.getElem?_map, Option.map_eq_some_iff] at hterms
    obtain ⟨document, hdocument, rfl⟩ := hterms
    rw [heq] at hposition
    exact ⟨document, hdocument, Posting.mem_places_iff.mp hposition⟩
  · rintro ⟨document, hdocument, hterm⟩
    refine ⟨Posting.occurrences true number (document.terms pipeline) term, ?_, rfl,
      Posting.mem_places_iff.mpr hterm⟩
    refine Postings.mem_listed_iff.mpr ⟨document.terms pipeline, ?_,
      List.mem_of_getElem? hterm, rfl⟩
    rw [List.getElem?_map]
    exact congrArg (Option.map _) hdocument

theorem mem_keys_of_standsAt {index : Index} {number position : Nat} {term : String}
    (h : index.standsAt number position term) : term ∈ index.postings.keys := by
  rw [Std.ExtTreeMap.mem_keys]
  by_contra habsent
  have hnone : index.postings? term = none := Std.ExtTreeMap.getElem?_eq_none habsent
  simp [standsAt, hnone] at h

theorem termAt?_ofDocuments (hkind : kind.hasPositions) {number : Nat} {document : Document}
    (hdocument : documents[number]? = some document) (position : Nat) :
    (ofDocuments kind pipeline documents).termAt? number position =
      (document.terms pipeline)[position]? := by
  have hstands : ∀ term, (ofDocuments kind pipeline documents).standsAt number position term ↔
      (document.terms pipeline)[position]? = some term := by
    intro term
    simp [standsAt_iff hkind, hdocument]
  cases hterm : (document.terms pipeline)[position]? with
  | none =>
      rw [termAt?, List.find?_eq_none]
      intro term _ h
      rw [hstands, hterm] at h
      cases h
  | some term =>
      have hterm := (hstands term).mpr hterm
      -- Some term is found, and no other one stands there.
      cases hfound : (ofDocuments kind pipeline documents).termAt? number position with
      | none =>
          rw [termAt?, List.find?_eq_none] at hfound
          exact absurd hterm (hfound term (mem_keys_of_standsAt hterm))
      | some other =>
          have hother := (hstands other).mp (List.find?_some hfound)
          rw [← hother]
          exact (hstands term).mp hterm

theorem filterMap_getElem?_range (terms : List String) :
    (List.range terms.length).filterMap (fun position => terms[position]?) = terms := by
  have hmap : (List.range terms.length).map (fun position => terms[position]?) =
      terms.map some := by
    apply List.ext_getElem <;> simp
  have hid := congrArg (List.filterMap id) hmap
  simpa only [List.filterMap_map, Function.id_comp, List.filterMap_some] using hid

theorem spell_ofDocuments (hkind : kind.hasPositions) {number : Nat} {document : Document}
    (hdocument : documents[number]? = some document) :
    (ofDocuments kind pipeline documents).spell number = document.terms pipeline := by
  have hterms : (ofDocuments kind pipeline documents).termAt? number =
      fun position => (document.terms pipeline)[position]? :=
    funext (termAt?_ofDocuments hkind hdocument)
  rw [spell, document?_ofDocuments, hdocument, hterms]
  exact filterMap_getElem?_range (document.terms pipeline)

end Index

theorem Posting.sound_of_mem_listed {kind : IndexerKind} {pipeline : Pipeline}
    {documents : List Document} {term : String} {posting : Posting}
    (hmem : posting ∈ Postings.listed true 0 (documents.map (Document.terms pipeline)) term) :
    posting.Sound (.ofDocuments kind pipeline documents) := by
  obtain ⟨terms, hterms, hterm, heq⟩ := Postings.mem_listed_iff.mp hmem
  rw [List.getElem?_map, Option.map_eq_some_iff] at hterms
  obtain ⟨document, hdocument, rfl⟩ := hterms
  have hfrequency : posting.frequency = (document.terms pipeline).count term := by rw [heq]; rfl
  have hpositions : posting.positions = places term (document.terms pipeline) := by rw [heq]; rfl
  refine ⟨?_, ?_, ?_, ?_, ?_⟩
  · rw [Index.documents_ofDocuments, List.length_map]
    exact (List.getElem?_eq_some_iff.mp hdocument).1
  · rw [hfrequency]
    exact List.count_pos_iff.mpr hterm
  · rw [hfrequency, hpositions, length_places]
  · rw [hpositions]
    exact pairwise_places ..
  · rw [Index.document?_ofDocuments, hdocument]
    refine ⟨_, rfl, ?_⟩
    intro position hposition
    rw [hpositions] at hposition
    exact (List.getElem?_eq_some_iff.mp (mem_places_iff.mp hposition)).1

/-- In an index with positions, the postings of a term list documents of the index in the order of
their numbers, each with the places of the term in it and their number. Every place of a document
belongs to exactly one term, which is the one that the pipeline kept there, so each document can be
spelt from the postings. -/
theorem Indexer.positions_spell_documents {indexer : Indexer} {documents : List Document}
    {index : Index} (h : indexer.index documents = .ok index)
    (hkind : indexer.kind.hasPositions) :
    (∀ term postings, index.postings? term = some postings →
      (postings.map Posting.document).Pairwise (· < ·) ∧
        ∀ posting ∈ postings, posting.Sound index) ∧
    ∀ number document, documents[number]? = some document →
      let kept := (Text.splitWords document.text).filterMap indexer.pipeline.term?
      index.document? number = some ⟨document.docno, kept.length⟩ ∧
      (∀ position < kept.length, ∃ term, kept[position]? = some term ∧
        ∀ other, index.standsAt number position other ↔ other = term) ∧
      index.spell number = kept := by
  rw [eq_ofDocuments_of_index_eq_ok h]
  constructor
  · intro term postings hpostings
    obtain ⟨rfl, -⟩ := Index.postings?_eq_some_iff.mp hpostings
    rw [hkind]
    exact ⟨Postings.pairwise_document_listed .., fun posting => Posting.sound_of_mem_listed⟩
  · intro number document hdocument kept
    refine ⟨?_, ?_, Index.spell_ofDocuments hkind hdocument⟩
    · rw [Index.document?_ofDocuments, hdocument]
      rfl
    · intro position hposition
      refine ⟨kept[position], List.getElem?_eq_getElem hposition, fun other => ?_⟩
      rw [Index.standsAt_iff hkind]
      simp only [hdocument, Option.some_inj, exists_eq_left']
      change kept[position]? = some other ↔ _
      rw [List.getElem?_eq_getElem hposition, Option.some_inj, eq_comm]

/-- Runs of one document, and words that are discarded: they take no place. -/
theorem Indexer.positions_spell_two_documents :
    let indexer : Indexer :=
      { kind := .blockSinglePass
        pipeline := .ofBuiltins [.removeLong 6, .stemmer]
        flushEvery := 1 }
    let documents : List Document :=
      [⟨"d1", "crossing"⟩, ⟨"d2", "Zebras crossing and crossing zebra"⟩]
    indexer.kind.hasPositions ∧ ∃ index, indexer.index documents = .ok index ∧
      index.spell 1 = ["zebra", "and", "zebra"] ∧
      (∀ other, index.standsAt 1 2 other ↔ other = "zebra") ∧ index.spell 0 = [] := by
  intro indexer documents
  have hindex : indexer.index documents =
      .ok (.ofDocuments indexer.kind indexer.pipeline documents) :=
    index_eq_ok (fun _ => by decide) (by decide)
  obtain ⟨-, hdocuments⟩ := positions_spell_documents hindex rfl
  have hfirst : (Text.splitWords "crossing").filterMap indexer.pipeline.term? = [] := by
    decide +kernel
  have hsecond : (Text.splitWords "Zebras crossing and crossing zebra").filterMap
      indexer.pipeline.term? = ["zebra", "and", "zebra"] := by
    decide +kernel
  obtain ⟨-, hplaces, hspell⟩ := hdocuments 1 _ rfl
  obtain ⟨-, -, hempty⟩ := hdocuments 0 _ rfl
  simp only [hfirst, hsecond] at hplaces hspell hempty
  obtain ⟨term, hterm, hother⟩ := hplaces 2 (by decide)
  cases hterm
  exact ⟨rfl, _, hindex, hspell, hother, hempty⟩

end Retrieval
