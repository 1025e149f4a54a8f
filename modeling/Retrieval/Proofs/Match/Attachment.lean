import Retrieval.Corpus.Index
import Retrieval.Proofs.Match.Lookup

/-!
Statistics that an index supplies to a collection. The entries are found for the terms of the
collection one after another, and each is put under its key. Other operators may have the text that
an entry is found for, but the key of a term is its own and no other's in the collection, so along
the list every term gets the entry of its own operator.
-/

namespace Retrieval

/-- A collection in step changes the very term whose key is given. -/
theorem Collection.Indexed.update?_append {c : Collection} (h : c.Indexed)
    {first rest : List MatchTerm} {term : MatchTerm} (hterms : c.terms = first ++ term :: rest)
    (change : MatchTerm → MatchTerm) :
    c.update? term.key change = some { c with terms := first ++ change term :: rest } := by
  have hposition : c.positions[term.key]? = some first.length := by
    refine (h _ _).mpr ?_
    rw [keys, hterms, List.getElem?_map, List.getElem?_append_right (Nat.le_refl _), Nat.sub_self]
    rfl
  have hmodify : c.terms.modify first.length change = first ++ change term :: rest := by
    rw [hterms, List.modify_eq_take_drop, List.take_left, List.drop_left]
    rfl
  rw [Collection.update?, hposition, Option.bind_some, if_pos (h.lt_length hposition), hmodify]

namespace Index

open Collection (keys)

/-- A term with the statistics that an index has for its operator, if it has any. -/
def supply (index : Index) (term : MatchTerm) : MatchTerm :=
  match index.operatorEntry? term.operator with
  | some (_, statistics) => { term with statistics := some statistics }
  | none => term

theorem operator_supply (index : Index) (term : MatchTerm) :
    (index.supply term).operator = term.operator := by
  unfold supply
  split <;> rfl

theorem key_supply (index : Index) (term : MatchTerm) : (index.supply term).key = term.key := by
  rw [MatchTerm.key, operator_supply, MatchTerm.key]

/-- An index has statistics for single terms only, and finds them by the key. -/
theorem key_of_operatorEntry {index : Index} {term : MatchTerm} {key : String}
    {statistics : TermStatistics}
    (h : index.operatorEntry? term.operator = some (key, statistics)) : key = term.key := by
  unfold operatorEntry? at h
  rw [MatchTerm.key]
  split at h
  · rename_i text hoperator
    obtain ⟨_, -, hentry⟩ := Option.map_eq_some_iff.mp h
    cases hentry
    rw [hoperator]
    rfl
  · cases h

def attachTo (index : Index) (c : Collection) (term : MatchTerm) : Collection :=
  ((index.operatorEntry? term.operator).bind fun (key, statistics) =>
    c.setStatistics? key statistics).getD c

theorem attach_eq_foldl (index : Index) (c : Collection) :
    (index.attach c).2 = c.terms.foldl index.attachTo c := by
  simp only [attach, List.foldl_filterMap]
  congr 1
  funext c term
  unfold attachTo
  cases index.operatorEntry? term.operator <;> rfl

/-- One term, with others before it that are supplied already and others behind it. -/
theorem attachTo_eq {index : Index} {c : Collection} (h : c.Indexed)
    {first rest : List MatchTerm} {term : MatchTerm} (hterms : c.terms = first ++ term :: rest) :
    index.attachTo c term = { c with terms := first ++ index.supply term :: rest } := by
  rw [supply, attachTo]
  cases hentry : index.operatorEntry? term.operator with
  | none => rw [Option.bind_none, Option.getD_none, ← hterms]
  | some entry =>
      obtain ⟨key, statistics⟩ := entry
      simp only
      rw [Option.bind_some, key_of_operatorEntry hentry, Collection.setStatistics?,
        h.update?_append hterms, Option.getD_some]

/-- The terms behind those that are supplied already. -/
theorem foldl_attachTo {index : Index} {c : Collection} (h : c.Indexed)
    (first rest : List MatchTerm) (hterms : c.terms = first ++ rest) :
    rest.foldl index.attachTo c = { c with terms := first ++ rest.map index.supply } := by
  induction rest generalizing c first with
  | nil => rw [List.foldl_nil, List.map_nil, ← hterms]
  | cons term rest ih =>
      let d : Collection := { c with terms := first ++ index.supply term :: rest }
      have hkeys : d.keys = c.keys := by
        simp [d, keys, hterms, key_supply]
      have hd : d.Indexed := h.of_keys rfl hkeys
      rw [List.foldl_cons, attachTo_eq h hterms, ih hd (first ++ [index.supply term]) (by simp [d])]
      simp [d]

/-- Every term gets the statistics of its own operator, and nothing else is changed. -/
theorem attach_eq {index : Index} {c : Collection} (h : c.Indexed) :
    (index.attach c).2 = { c with terms := c.terms.map index.supply } := by
  rw [attach_eq_foldl]
  exact foldl_attachTo h [] c.terms rfl

/-! ### Terms that an index knows -/

/-- An index knows an operator that is a single term of its lexicon, in all fields. -/
def Knows (index : Index) (operator : Operator) : Prop :=
  ∃ text, operator = .term text ∧ text ∈ index.lexicon

theorem isSome_operatorEntry?_iff {index : Index} {operator : Operator} :
    (index.operatorEntry? operator).isSome ↔ index.Knows operator := by
  unfold operatorEntry? Knows
  split
  · rename_i text
    rw [Option.isSome_map, entry?, Std.ExtTreeMap.isSome_getElem?_iff_mem]
    constructor
    · intro hmem
      exact ⟨text, rfl, hmem⟩
    · rintro ⟨_, ⟨⟩, hmem⟩
      exact hmem
  · rename_i hterm
    simp only [Option.isSome_none, Bool.false_eq_true, false_iff]
    rintro ⟨text, rfl, -⟩
    exact hterm text rfl

instance (index : Index) (operator : Operator) : Decidable (index.Knows operator) :=
  decidable_of_iff _ isSome_operatorEntry?_iff

theorem supply_of_not_knows {index : Index} {term : MatchTerm} (h : ¬index.Knows term.operator) :
    index.supply term = term := by
  rw [← isSome_operatorEntry?_iff, Bool.not_eq_true, Option.isSome_eq_false_iff,
    Option.isNone_iff_eq_none] at h
  rw [supply, h]

theorem supply_of_mem {index : Index} {term : MatchTerm} {text : String}
    (hoperator : term.operator = .term text) (hmem : text ∈ index.lexicon) :
    index.supply term = { term with statistics := index.entry? text } := by
  obtain ⟨statistics, hentry⟩ :=
    Option.isSome_iff_exists.mp (Std.ExtTreeMap.isSome_getElem?_iff_mem.mpr hmem)
  have hfound : index.operatorEntry? term.operator = some (text, statistics) := by
    rw [hoperator]
    change (index.lexicon[text]?).map _ = _
    rw [hentry, Option.map_some]
  rw [supply, hfound, entry?, hentry]

theorem supply_eq (index : Index) (term : MatchTerm) :
    index.supply term = { term with statistics := (index.supply term).statistics } := by
  unfold supply
  split <;> rfl

theorem supply_supply (index : Index) (term : MatchTerm) :
    index.supply (index.supply term) = index.supply term := by
  by_cases h : index.Knows term.operator
  · obtain ⟨text, hoperator, hmem⟩ := h
    rw [supply_of_mem hoperator hmem]
    exact supply_of_mem hoperator hmem
  · rw [supply_of_not_knows h, supply_of_not_knows h]

theorem attach_count (index : Index) (c : Collection) :
    (index.attach c).1 = c.terms.countP fun term => index.Knows term.operator := by
  rw [attach, List.length_filterMap_eq_countP]
  refine List.countP_congr fun term _ => ?_
  rw [decide_eq_true_iff, isSome_operatorEntry?_iff]

end Index

/-! ### Collections that come about -/

/-- Collections that come about: from an empty one by operations, and by statistics that some index
supplies. -/
inductive Collection.Reachable : Collection → Prop
  | empty (queryId : Option String) : Reachable { queryId }
  | apply {c : Collection} (h : Reachable c) (operation : Operation) :
      Reachable (c.apply operation)
  | attach {c : Collection} (h : Reachable c) (index : Index) : Reachable (index.attach c).2

theorem Index.keys_map_supply (index : Index) (c : Collection) :
    Collection.keys { c with terms := c.terms.map index.supply } = c.keys :=
  Collection.map_key_map index.key_supply c.terms

theorem Collection.Reachable.indexed {c : Collection} (h : c.Reachable) : c.Indexed := by
  induction h with
  | empty queryId => exact locates_empty
  | apply _ operation ih => exact ih.apply operation
  | attach _ index ih =>
      rw [Index.attach_eq ih]
      exact ih.of_keys rfl (index.keys_map_supply _)

theorem Collection.Reachable.run {c : Collection} (h : c.Reachable)
    (operations : List Collection.Operation) : (c.run operations).Reachable := by
  induction operations generalizing c with
  | nil => exact h
  | cons operation operations ih => exact ih (h.apply operation)

/-- Whatever a collection has gone through, an index supplies statistics to those of its terms that
the index knows: to each of them its own entry, and nothing to any other. All else is as it was. The
count is the number of terms that the index knows, and to supply them a second time changes
nothing. -/
theorem Index.attach_exact {c : Collection} (h : c.Reachable) (index : Index) :
    let attached := index.attach c
    attached.1 = c.terms.countP (fun term => index.Knows term.operator) ∧
    attached.2.queryId = c.queryId ∧ attached.2.positions = c.positions ∧
    attached.2.terms.length = c.terms.length ∧
    (∀ (i : Nat) (term : MatchTerm), c.terms[i]? = some term → ∃ supplied,
      attached.2.terms[i]? = some supplied ∧
      supplied = { term with statistics := supplied.statistics } ∧
      (∀ text, term.operator = .term text → text ∈ index.lexicon →
        supplied.statistics = index.entry? text) ∧
      (¬index.Knows term.operator → supplied.statistics = term.statistics)) ∧
    index.attach attached.2 = attached := by
  intro attached
  have hattach : attached.2 = { c with terms := c.terms.map index.supply } := attach_eq h.indexed
  refine ⟨attach_count index c, by rw [hattach], by rw [hattach], by simp [hattach], ?_, ?_⟩
  · intro i term hterm
    refine ⟨index.supply term, by simp [hattach, hterm], supply_eq index term, ?_, ?_⟩
    · intro text hoperator hmem
      rw [supply_of_mem hoperator hmem]
    · intro hunknown
      rw [supply_of_not_knows hunknown]
  · refine Prod.ext ?_ ?_
    · rw [attach_count, hattach, List.countP_map, attach_count]
      refine List.countP_congr fun term _ => ?_
      simp only [Function.comp_apply, operator_supply]
    · have hagain : (index.attach attached.2).2 = _ := attach_eq (h.attach index).indexed
      rw [hagain, hattach]
      simp only [List.map_map, Function.comp_def, supply_supply]

/-- A lexicon may have a term that is spelled like another one in a field. It is not taken for it.
-/
theorem Index.attach_exact_shared_text :
    let zebra : MatchTerm := { operator := .term "zebra", weight := 2 }
    let zebraInTitle : MatchTerm := { operator := ⟨.term "zebra", some "title"⟩ }
    let c := Collection.run {} [.add zebra, .add zebraInTitle]
    let index : Index :=
      .ofPostings .basic [] (.invert false 0 [["title:zebra", "zebra"], ["zebra", "zebra"]])
    c.Reachable ∧ "title:zebra" ∈ index.lexicon ∧ zebraInTitle.key = "title:zebra" ∧
      (index.attach c).1 = 1 ∧
      (index.attach c).2.terms[0]? = some { zebra with statistics := some ⟨1, 2, 3⟩ } ∧
      (index.attach c).2.terms[1]? = some zebraInTitle := by
  intro zebra zebraInTitle c index
  have h : c.Reachable := .run (.empty none) _
  have hzebra : "zebra" ∈ index.lexicon := by decide +kernel
  have hentry : index.entry? "zebra" = some ⟨1, 2, 3⟩ := by decide +kernel
  have hunknown : ¬index.Knows zebraInTitle.operator := by decide +kernel
  have hcount : (c.terms.countP fun term => index.Knows term.operator) = 1 := by decide +kernel
  have hterms : c.terms = [zebra, zebraInTitle] := by
    simp only [c, zebra, zebraInTitle]
    cbv
  obtain ⟨hknown, -, -, -, hexact, -⟩ := attach_exact h index
  obtain ⟨first, hfirst, heq, hstatistics, -⟩ := hexact 0 zebra (by rw [hterms]; rfl)
  obtain ⟨second, hsecond, heq', -, hstatistics'⟩ := hexact 1 zebraInTitle (by rw [hterms]; rfl)
  rw [hstatistics "zebra" rfl hzebra, hentry] at heq
  rw [hstatistics' hunknown] at heq'
  refine ⟨h, by decide +kernel, rfl, hknown.trans hcount, ?_, ?_⟩
  · rw [hfirst, heq]
  · rw [hsecond, heq']

end Retrieval
