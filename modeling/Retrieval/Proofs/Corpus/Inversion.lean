import Mathlib.Data.List.Induction
import Retrieval.Corpus.Posting

/-!
What inverting documents gives, term by term. The posting of a term in a document counts the
places at which the term stands, and the postings of a term are those of the documents that hold
it, in order. All that is done to postings is to write more of them behind those that are there, so
it does not matter in how many steps they are written.
-/

namespace Retrieval

/-! ### One document -/

namespace Posting

/-- The places at which a term stands among the terms of a document. -/
def places (term : String) (terms : List String) : List Nat :=
  (terms.zipIdx.filter fun entry => entry.1 = term).map Prod.snd

def occurrences (withPositions : Bool) (document : Nat) (terms : List String) (term : String) :
    Posting :=
  ⟨document, terms.count term, if withPositions then places term terms else []⟩

def ofTerm? (withPositions : Bool) (document : Nat) (terms : List String) (term : String) :
    Option Posting :=
  if term ∈ terms then some (occurrences withPositions document terms term) else none

theorem places_concat (term last : String) (terms : List String) :
    places term (terms ++ [last]) =
      if last = term then places term terms ++ [terms.length] else places term terms := by
  simp only [places, List.zipIdx_append, List.filter_append, List.map_append]
  by_cases h : last = term <;> simp [h]

theorem occurrences_eq_empty {withPositions : Bool} {document : Nat} {terms : List String}
    {term : String} (h : term ∉ terms) :
    occurrences withPositions document terms term = ⟨document, 0, []⟩ := by
  have hplaces : places term terms = [] := by
    simp only [places, List.map_eq_nil_iff, List.filter_eq_nil_iff, decide_eq_true_eq]
    rintro ⟨other, i⟩ hmem rfl
    exact h (List.mem_zipIdx_iff_getElem?.mp hmem |> List.mem_of_getElem?)
  simp [occurrences, List.count_eq_zero_of_not_mem h, hplaces]

theorem occurrences_concat (withPositions : Bool) (document : Nat) (terms : List String)
    (last term : String) :
    occurrences withPositions document (terms ++ [last]) term =
      if last = term then
        (occurrences withPositions document terms term).record withPositions terms.length
      else occurrences withPositions document terms term := by
  by_cases h : last = term
  · cases withPositions <;> simp [occurrences, record, places_concat, h]
  · cases withPositions <;> simp [occurrences, places_concat, h]

theorem getElem?_ofTerms (withPositions : Bool) (document : Nat) (terms : List String)
    (term : String) :
    (ofTerms withPositions document terms)[term]? =
      ofTerm? withPositions document terms term := by
  unfold ofTerm?
  -- Terms are recorded from the left, so it is the last one that is taken off.
  induction terms using List.reverseRecOn with
  | nil => simp [ofTerms]
  | append_singleton terms last ih =>
      have hstep : ofTerms withPositions document (terms ++ [last]) =
          (ofTerms withPositions document terms).alter last fun known =>
            some ((known.getD ⟨document, 0, []⟩).record withPositions terms.length) := by
        simp [ofTerms, List.zipIdx_append]
      have hknown : (ofTerms withPositions document terms)[term]?.getD ⟨document, 0, []⟩ =
          occurrences withPositions document terms term := by
        rw [ih]
        split
        · rfl
        · rename_i hmem
          exact (occurrences_eq_empty hmem).symm
      rw [hstep, Std.ExtTreeMap.getElem?_alter, occurrences_concat]
      by_cases h : last = term
      · subst h
        simp [hknown]
      · simp [h, Ne.symm h, ih]

end Posting

/-! ### Many documents -/

namespace Postings

/-- The postings of a term with more of them behind. No postings leave an absent term absent. -/
def extend (known : Option (List Posting)) (more : List Posting) : Option (List Posting) :=
  if more.isEmpty then known else some (known.getD [] ++ more)

@[simp] theorem extend_nil (known : Option (List Posting)) : extend known [] = known := rfl

@[simp] theorem extend_cons (known : Option (List Posting)) (posting : Posting)
    (more : List Posting) :
    extend known (posting :: more) = some (known.getD [] ++ posting :: more) := rfl

theorem extend_append (known : Option (List Posting)) (first second : List Posting) :
    extend known (first ++ second) = extend (extend known first) second := by
  cases first with
  | nil => rfl
  | cons posting first =>
      cases second with
      | nil => simp
      | cons other second => simp

theorem getElem?_append (postings : Postings) (term other : String) (more : List Posting) :
    (postings.append term more)[other]? =
      if term = other then some (postings[other]?.getD [] ++ more) else postings[other]? := by
  rw [append, Std.ExtTreeMap.getElem?_alter]
  by_cases h : term = other
  · subst h
    simp
  · simp [h]

section Entries

variable {α : Type} (write : α → List Posting)

def writeAll (postings : Postings) (entries : List (String × α)) : Postings :=
  entries.foldl (fun postings entry => postings.append entry.1 (write entry.2)) postings

theorem getElem?_writeAll_of_absent {entries : List (String × α)} {term : String}
    (h : ∀ entry ∈ entries, entry.1 ≠ term) (postings : Postings) :
    (postings.writeAll write entries)[term]? = postings[term]? := by
  induction entries generalizing postings with
  | nil => rfl
  | cons entry entries ih =>
      have hrest := ih fun other hmem => h other (List.mem_cons_of_mem _ hmem)
      rw [writeAll, List.foldl_cons, ← writeAll, hrest, getElem?_append,
        if_neg (h entry List.mem_cons_self)]

theorem getElem?_writeAll_of_mem {entries : List (String × α)} {term : String} {entry : α}
    (hdistinct : entries.Pairwise fun first second => first.1 ≠ second.1)
    (hmem : (term, entry) ∈ entries) (postings : Postings) :
    (postings.writeAll write entries)[term]? =
      some (postings[term]?.getD [] ++ write entry) := by
  induction entries generalizing postings with
  | nil => cases hmem
  | cons head entries ih =>
      obtain ⟨hhead, hentries⟩ := List.pairwise_cons.mp hdistinct
      rw [writeAll, List.foldl_cons, ← writeAll]
      cases hmem with
      | head =>
          rw [getElem?_writeAll_of_absent write fun other hother => (hhead other hother).symm,
            getElem?_append, if_pos rfl]
      | tail _ hmem =>
          rw [ih hentries hmem, getElem?_append, if_neg (hhead _ hmem)]

/-- Every entry of a table is written behind the postings of its own term. -/
theorem getElem?_foldl_append (table : Std.ExtTreeMap String α) (postings : Postings)
    (term : String) :
    (table.foldl (fun postings term entry => postings.append term (write entry))
      postings)[term]? =
      table[term]?.elim postings[term]? fun entry =>
        some (postings[term]?.getD [] ++ write entry) := by
  rw [Std.ExtTreeMap.foldl_eq_foldl_toList]
  change (postings.writeAll write table.toList)[term]? = _
  cases h : table[term]? with
  | none =>
      refine getElem?_writeAll_of_absent write ?_ postings
      rintro ⟨other, entry⟩ hmem rfl
      rw [Std.ExtTreeMap.mem_toList_iff_getElem?_eq_some, h] at hmem
      cases hmem
  | some entry =>
      refine getElem?_writeAll_of_mem write ?_
        (Std.ExtTreeMap.mem_toList_iff_getElem?_eq_some.mpr h) postings
      refine Std.ExtTreeMap.distinct_keys_toList.imp ?_
      intro first second hne heq
      exact hne (Std.compare_eq_iff_eq.mpr heq)

end Entries

theorem getElem?_addDocument (withPositions : Bool) (postings : Postings) (document : Nat)
    (terms : List String) (term : String) :
    (postings.addDocument withPositions document terms)[term]? =
      extend postings[term]? (Posting.ofTerm? withPositions document terms term).toList := by
  rw [addDocument, getElem?_foldl_append fun posting => [posting], Posting.getElem?_ofTerms]
  cases Posting.ofTerm? withPositions document terms term <;> rfl

def listed (withPositions : Bool) (first : Nat) (documents : List (List String))
    (term : String) : List Posting :=
  (documents.zipIdx first).filterMap fun (terms, document) =>
    Posting.ofTerm? withPositions document terms term

theorem listed_append (withPositions : Bool) (first : Nat) (earlier later : List (List String))
    (term : String) :
    listed withPositions first (earlier ++ later) term =
      listed withPositions first earlier term ++
        listed withPositions (first + earlier.length) later term := by
  simp [listed, List.zipIdx_append]

theorem listed_cons (withPositions : Bool) (first : Nat) (terms : List String)
    (documents : List (List String)) (term : String) :
    listed withPositions first (terms :: documents) term =
      (Posting.ofTerm? withPositions first terms term).toList ++
        listed withPositions (first + 1) documents term := by
  simp only [listed, List.zipIdx_cons, List.filterMap_cons]
  split <;> simp_all

/-- Inverting documents behind postings that are there. -/
theorem getElem?_foldl_addDocument (withPositions : Bool) (first : Nat)
    (documents : List (List String)) (postings : Postings) (term : String) :
    ((documents.zipIdx first).foldl (fun postings (terms, document) =>
      postings.addDocument withPositions document terms) postings)[term]? =
      extend postings[term]? (listed withPositions first documents term) := by
  induction documents generalizing first postings with
  | nil => rfl
  | cons terms documents ih =>
      rw [List.zipIdx_cons, List.foldl_cons, ih, getElem?_addDocument, listed_cons, extend_append]

/-- The postings of a term are those that the documents hold for it, if there are any. -/
theorem getElem?_invert (withPositions : Bool) (first : Nat) (documents : List (List String))
    (term : String) :
    (invert withPositions first documents)[term]? =
      extend none (listed withPositions first documents term) := by
  rw [invert, getElem?_foldl_addDocument, Std.ExtTreeMap.getElem?_empty]

theorem getElem?_join_invert (withPositions : Bool) (first : Nat) (run : List (List String))
    (postings : Postings) (term : String) :
    (postings.join (invert withPositions first run))[term]? =
      extend postings[term]? (listed withPositions first run term) := by
  have hjoin := getElem?_foldl_append id (invert withPositions first run) postings term
  rw [getElem?_invert] at hjoin
  rw [join]
  refine hjoin.trans ?_
  cases listed withPositions first run term <;> rfl

end Postings

/-! ### Runs of documents -/

theorem flatten_cutRuns {α : Type} (length : Nat) (positive : 0 < length) (items : List α) :
    (cutRuns length positive items).flatten = items := by
  fun_induction cutRuns length positive items with
  | case1 items hempty => exact (List.isEmpty_iff.mp hempty).symm
  | case2 items hne ih => rw [List.flatten_cons, ih, List.take_append_drop]

namespace Inversion

theorem lengths_foldl_addRun (withPositions : Bool) (runs : List (List (List String)))
    (inversion : Inversion) :
    (runs.foldl (addRun withPositions) inversion).lengths =
      inversion.lengths ++ runs.flatten.map List.length := by
  induction runs generalizing inversion with
  | nil => exact (List.append_nil _).symm
  | cons run runs ih =>
      rw [List.foldl_cons, ih, List.flatten_cons, List.map_append, ← List.append_assoc]
      rfl

/-- Runs are numbered on from one another, so they list what their documents list together. -/
theorem getElem?_foldl_addRun (withPositions : Bool) (runs : List (List (List String)))
    (inversion : Inversion) (term : String) :
    (runs.foldl (addRun withPositions) inversion).postings[term]? =
      Postings.extend inversion.postings[term]?
        (Postings.listed withPositions inversion.lengths.length runs.flatten term) := by
  -- The number of the next document and the postings so far both change from run to run.
  induction runs generalizing inversion with
  | nil => rfl
  | cons run runs ih =>
      have hlength : (addRun withPositions inversion run).lengths.length =
          inversion.lengths.length + run.length := by
        simp [addRun, ofDocuments]
      have hpostings : (addRun withPositions inversion run).postings[term]? =
          Postings.extend inversion.postings[term]?
            (Postings.listed withPositions inversion.lengths.length run term) :=
        Postings.getElem?_join_invert ..
      rw [List.foldl_cons, ih, hlength, hpostings, ← Postings.extend_append,
        ← Postings.listed_append, List.flatten_cons]

/-- Inverting in runs gives what inverting at once gives, however long the runs are. -/
theorem ofRuns_cutRuns (withPositions : Bool) (length : Nat) (positive : 0 < length)
    (documents : List (List String)) :
    ofRuns withPositions (cutRuns length positive documents) =
      ofDocuments withPositions 0 documents := by
  have hlengths : (ofRuns withPositions (cutRuns length positive documents)).lengths =
      documents.map List.length := by
    rw [ofRuns, lengths_foldl_addRun, flatten_cutRuns, List.nil_append]
  have hpostings : (ofRuns withPositions (cutRuns length positive documents)).postings =
      Postings.invert withPositions 0 documents := by
    apply Std.ExtTreeMap.ext_getElem?
    intro term
    rw [ofRuns, getElem?_foldl_addRun, flatten_cutRuns, Std.ExtTreeMap.getElem?_empty,
      Postings.getElem?_invert]
    rfl
  rw [ofDocuments, ← hlengths, ← hpostings]

end Inversion

end Retrieval
