import Mathlib.Data.List.InsertIdx
import Mathlib.Data.List.Nodup
import Retrieval.Query.Compile

/-!
The two halves of a collection. The list of terms alone says what a collection holds; the table of
positions only makes a term quick to find. Every operation keeps the two in step, so an operation
that is given a key acts on the very term that a search through the list would find, and reports
that the key is absent exactly if the search finds nothing. Removing a term is the one operation
that moves others, and the only one that renumbers the table.
-/

namespace Retrieval.Collection

/-! ### The changes that can be made to a collection -/

inductive Operation where
  | name (queryId : String)
  | add (term : MatchTerm)
  | addWeight (text : String) (weight : Float)
  | setWeight (key : String) (weight : Float)
  | setStatistics (key : String) (statistics : TermStatistics)
  | addModel (key model : String)
  | setDefaultModel (model : String)
  | normaliseWeights
  | remove (key : String)
  | compile (query : Query) (options : CompileOptions)

def Operation.key? : Operation → Option String
  | setWeight key _ => some key
  | setStatistics key _ => some key
  | addModel key _ => some key
  | remove key => some key
  | _ => none

/-- The collection after an operation. One that does not find its term changes nothing. -/
def apply (c : Collection) : Operation → Collection
  | .name queryId => { c with queryId := some queryId }
  | .add term => c.add term
  | .addWeight text weight => c.addWeight text weight
  | .setWeight key weight => (c.setWeight? key weight).getD c
  | .setStatistics key statistics => (c.setStatistics? key statistics).getD c
  | .addModel key model => (c.addModel? key model).getD c
  | .setDefaultModel model => c.setDefaultModel model
  | .normaliseWeights => c.normaliseWeights
  | .remove key => ((c.remove? key).map Prod.snd).getD c
  | .compile query options => c.compile query options

def run (c : Collection) (operations : List Operation) : Collection :=
  operations.foldl apply c

/-! ### Tables of positions -/

/-- A table leads from a key to a position exactly if a list has the key there. -/
def Locates (positions : Std.ExtTreeMap String Nat) (keys : List String) : Prop :=
  ∀ (key : String) (i : Nat), positions[key]? = some i ↔ keys[i]? = some key

section Locates

variable {positions : Std.ExtTreeMap String Nat} {keys : List String} {key : String}

theorem locates_empty : Locates ∅ [] := by
  intro key i
  simp

theorem Locates.unique {i j : Nat} (h : Locates positions keys) (hi : positions[key]? = some i)
    (hj : keys[j]? = some key) : j = i := by
  rw [(h key j).mpr hj, Option.some_inj] at hi
  exact hi

theorem Locates.nodup (h : Locates positions keys) : keys.Nodup := by
  rw [List.nodup_iff_getElem?_ne_getElem?]
  intro i j hij hj heq
  rw [List.getElem?_eq_getElem hj] at heq
  have := h.unique ((h _ i).mpr heq) (List.getElem?_eq_getElem hj)
  omega

theorem Locates.insert (h : Locates positions keys) (hnew : positions[key]? = none) :
    Locates (positions.insert key keys.length) (keys ++ [key]) := by
  have habsent : ∀ i : Nat, keys[i]? ≠ some key := by
    intro i hi
    rw [(h key i).mpr hi] at hnew
    cases hnew
  intro other i
  simp only [Std.ExtTreeMap.getElem?_insert, Std.compare_eq_iff_eq, List.getElem?_append]
  grind [Locates]

/-- When a key is taken out of the list, those after it move up by one place. -/
theorem Locates.erase {position : Nat} (h : Locates positions keys)
    (hat : positions[key]? = some position) :
    Locates ((positions.erase key).map fun _ other =>
      if position < other then other - 1 else other) (keys.eraseIdx position) := by
  intro other i
  rw [Std.ExtTreeMap.getElem?_map, Std.ExtTreeMap.getElem?_erase, List.getElem?_eraseIdx]
  by_cases hkey : key = other
  -- The key itself is gone from both halves: it stood nowhere else in the list.
  · subst hkey
    rw [if_pos Std.ReflCmp.compare_self, Option.map_none]
    constructor
    · intro hi
      cases hi
    · intro hi
      split at hi <;> have := h.unique hat hi <;> omega
  · have hne : ∀ j : Nat, keys[j]? = some other → j ≠ position := by
      rintro j hj rfl
      rw [(h key j).mp hat, Option.some_inj] at hj
      exact hkey hj
    rw [if_neg (by rwa [Std.compare_eq_iff_eq]), Option.map_eq_some_iff]
    simp only [h other]
    constructor
    · rintro ⟨j, hj, rfl⟩
      have := hne j hj
      grind
    · intro hi
      split at hi
      · exact ⟨i, hi, if_neg (by omega)⟩
      · have := hne _ hi
        exact ⟨i + 1, hi, if_pos (by omega)⟩

end Locates

/-! ### Every operation keeps the table in step -/

def Indexed (c : Collection) : Prop :=
  Locates c.positions c.keys

theorem map_key_modify {change : MatchTerm → MatchTerm}
    (hchange : ∀ term, (change term).key = term.key) (terms : List MatchTerm) (i : Nat) :
    (terms.modify i change).map MatchTerm.key = terms.map MatchTerm.key := by
  apply List.ext_getElem?
  intro j
  rw [List.getElem?_map, List.getElem?_map, List.getElem?_modify]
  cases terms[j]? with
  | none => rfl
  | some term => by_cases hij : i = j <;> simp [hij, hchange]

theorem map_key_map {change : MatchTerm → MatchTerm}
    (hchange : ∀ term, (change term).key = term.key) (terms : List MatchTerm) :
    (terms.map change).map MatchTerm.key = terms.map MatchTerm.key := by
  rw [List.map_map]
  exact List.map_congr_left fun term _ => hchange term

theorem Indexed.of_keys {c d : Collection} (h : c.Indexed)
    (hpositions : d.positions = c.positions) (hkeys : d.keys = c.keys) : d.Indexed := by
  unfold Indexed
  rw [hpositions, hkeys]
  exact h

theorem Indexed.add {c : Collection} (h : c.Indexed) (term : MatchTerm) :
    (c.add term).Indexed := by
  unfold Collection.add
  split
  · rename_i position _
    refine h.of_keys rfl ?_
    exact map_key_modify (fun first => MatchTerm.key_merge first term) c.terms position
  · rename_i habsent
    have hinsert := Locates.insert h habsent
    simpa [Indexed, keys] using hinsert

theorem Indexed.addAll {c : Collection} (h : c.Indexed) (terms : List MatchTerm) :
    (c.addAll terms).Indexed := by
  induction terms generalizing c with
  | nil => exact h
  | cons term terms ih => exact ih (h.add term)

theorem Indexed.update? {c d : Collection} (h : c.Indexed) {key : String}
    {change : MatchTerm → MatchTerm} (hchange : ∀ term, (change term).key = term.key)
    (hd : c.update? key change = some d) : d.Indexed := by
  obtain ⟨position, -, hd⟩ := Option.bind_eq_some_iff.mp hd
  split at hd
  · cases hd
    exact h.of_keys rfl (map_key_modify hchange c.terms position)
  · cases hd

theorem Indexed.remove? {c d : Collection} (h : c.Indexed) {key : String} {term : MatchTerm}
    (hd : c.remove? key = some (term, d)) : d.Indexed := by
  obtain ⟨position, hposition, hd⟩ := Option.bind_eq_some_iff.mp hd
  obtain ⟨_, _, hd⟩ := Option.map_eq_some_iff.mp hd
  cases hd
  have herase := Locates.erase h hposition
  rwa [keys, List.eraseIdx_map] at herase

theorem Indexed.getD {c : Collection} (h : c.Indexed) {next : Option Collection}
    (hnext : ∀ d, next = some d → d.Indexed) : (next.getD c).Indexed := by
  cases next with
  | none => exact h
  | some d => exact hnext d rfl

theorem Indexed.update?_getD {c : Collection} (h : c.Indexed) {key : String}
    {change : MatchTerm → MatchTerm} (hchange : ∀ term, (change term).key = term.key) :
    ((c.update? key change).getD c).Indexed :=
  h.getD fun _ hd => h.update? hchange hd

/-- One operation. -/
theorem Indexed.apply {c : Collection} (h : c.Indexed) (operation : Operation) :
    (c.apply operation).Indexed := by
  cases operation with
  | name queryId => exact h
  | add term => exact h.add term
  | addWeight text weight => exact h.add _
  | setWeight key weight => exact h.update?_getD fun _ => rfl
  | setStatistics key statistics => exact h.update?_getD fun _ => rfl
  | addModel key model => exact h.update?_getD fun _ => rfl
  | setDefaultModel model =>
      refine h.of_keys rfl (map_key_map ?_ c.terms)
      intro term
      split <;> rfl
  | normaliseWeights =>
      simp only [Collection.apply, Collection.normaliseWeights]
      split
      · exact h
      · refine h.of_keys rfl (map_key_map ?_ c.terms)
        intro term
        rfl
  | remove key =>
      refine h.getD fun d hd => ?_
      obtain ⟨⟨term, _⟩, hremove, rfl⟩ := Option.map_eq_some_iff.mp hd
      exact h.remove? hremove
  | compile query options => exact h.addAll _

/-- Any number of operations. -/
theorem Indexed.run {c : Collection} (h : c.Indexed) (operations : List Operation) :
    (c.run operations).Indexed := by
  induction operations generalizing c with
  | nil => exact h
  | cons operation operations ih => exact ih (h.apply operation)

/-! ### Finding a term by its key -/

def search? (c : Collection) (key : String) : Option Nat :=
  c.terms.findIdx? fun term => term.key = key

/-- What the operations do that are given a key, told by the search alone. -/
structure ActsBySearch (c : Collection) (key : String) : Prop where
  get? : c.get? key = c.terms.find? fun term => term.key = key
  weight? : c.weight? key = (c.terms.find? fun term => term.key = key).map MatchTerm.weight
  statistics? : c.statistics? key =
    (c.terms.find? fun term => term.key = key).bind MatchTerm.statistics
  setWeight? : ∀ weight, c.setWeight? key weight =
    (c.search? key).map fun i => { c with terms := c.terms.modify i ({ · with weight }) }
  setStatistics? : ∀ statistics, c.setStatistics? key statistics =
    (c.search? key).map fun i =>
      { c with terms := c.terms.modify i ({ · with statistics := some statistics }) }
  addModel? : ∀ model, c.addModel? key model =
    (c.search? key).map fun i =>
      { c with terms := c.terms.modify i fun term =>
          { term with models := term.models ++ [model] } }
  remove?_absent : c.search? key = none → c.remove? key = none
  remove?_found : ∀ i, c.search? key = some i → ∃ term rest,
    c.remove? key = some (term, rest) ∧ c.terms[i]? = some term ∧
      rest.queryId = c.queryId ∧ rest.terms = c.terms.eraseIdx i ∧ rest.Indexed
  unchanged : c.search? key = none →
    ∀ operation : Operation, operation.key? = some key → c.apply operation = c

theorem Indexed.lt_length {c : Collection} (h : c.Indexed) {key : String} {i : Nat}
    (hi : c.positions[key]? = some i) : i < c.terms.length := by
  have := (List.getElem?_eq_some_iff.mp ((h key i).mp hi)).1
  simpa [keys] using this

theorem Indexed.search?_eq {c : Collection} (h : c.Indexed) (key : String) :
    c.search? key = c.positions[key]? := by
  have hkey : ∀ (j : Nat) (hj : j < c.terms.length), c.terms[j].key = key →
      c.positions[key]? = some j := by
    rintro j hj rfl
    exact (h _ j).mpr (by simp [keys, List.getElem?_eq_getElem hj])
  unfold search?
  cases hp : c.positions[key]? with
  | none =>
      rw [List.findIdx?_eq_none_iff]
      intro term hmem
      obtain ⟨j, hj, rfl⟩ := List.getElem_of_mem hmem
      rw [decide_eq_false_iff_not]
      intro he
      rw [hkey j hj he] at hp
      cases hp
  | some i =>
      rw [List.findIdx?_eq_some_iff_getElem]
      refine ⟨h.lt_length hp, ?_, ?_⟩
      · have hi := (h key i).mp hp
        simpa [keys, List.getElem?_eq_getElem (h.lt_length hp)] using hi
      · intro j hji he
        have hj := hkey j (Nat.lt_trans hji (h.lt_length hp)) (of_decide_eq_true he)
        rw [hp, Option.some_inj] at hj
        omega

theorem Indexed.get?_eq {c : Collection} (h : c.Indexed) (key : String) :
    c.get? key = c.terms.find? fun term => term.key = key := by
  rw [List.find?_eq_bind_findIdx?_getElem?]
  change _ = (c.search? key).bind _
  rw [h.search?_eq]
  rfl

theorem Indexed.update?_eq {c : Collection} (h : c.Indexed) (key : String)
    (change : MatchTerm → MatchTerm) :
    c.update? key change =
      (c.search? key).map fun i => { c with terms := c.terms.modify i change } := by
  rw [h.search?_eq, Collection.update?]
  cases hp : c.positions[key]? with
  | none => rfl
  | some i =>
      rw [Option.bind_some, if_pos (h.lt_length hp)]
      rfl

theorem Indexed.remove?_found {c : Collection} (h : c.Indexed) {key : String} {i : Nat}
    (hi : c.search? key = some i) : ∃ term rest,
    c.remove? key = some (term, rest) ∧ c.terms[i]? = some term ∧
      rest.queryId = c.queryId ∧ rest.terms = c.terms.eraseIdx i ∧ rest.Indexed := by
  rw [h.search?_eq] at hi
  have hterm := List.getElem?_eq_getElem (h.lt_length hi)
  have hremove : ∃ rest, c.remove? key = some (c.terms.get ⟨i, h.lt_length hi⟩, rest) ∧
      rest.queryId = c.queryId ∧ rest.terms = c.terms.eraseIdx i := by
    simp [Collection.remove?, hi, hterm]
  obtain ⟨rest, hremove, hid, hterms⟩ := hremove
  exact ⟨_, rest, hremove, hterm, hid, hterms, h.remove? hremove⟩

theorem Indexed.actsBySearch {c : Collection} (h : c.Indexed) (key : String) :
    c.ActsBySearch key where
  get? := h.get?_eq key
  weight? := by rw [Collection.weight?, h.get?_eq]
  statistics? := by rw [Collection.statistics?, h.get?_eq]
  setWeight? _ := h.update?_eq key _
  setStatistics? _ := h.update?_eq key _
  addModel? _ := h.update?_eq key _
  remove?_absent habsent := by
    rw [h.search?_eq] at habsent
    rw [Collection.remove?, habsent, Option.bind_none]
  remove?_found _ hi := h.remove?_found hi
  unchanged habsent operation hoperation := by
    rw [h.search?_eq] at habsent
    cases operation <;> cases hoperation <;>
      simp [Collection.apply, Collection.setWeight?, Collection.setStatistics?,
        Collection.addModel?, Collection.update?, Collection.remove?, habsent]

/-- Whatever operations have run on a collection that was empty, its table and its list are in
step, its keys are all different, and a key always leads to the term that a search finds. -/
theorem actsBySearch_run (queryId : Option String) (operations : List Operation) :
    let c := run { queryId } operations
    (∀ (key : String) (i : Nat), c.positions[key]? = some i ↔
      ∃ h : i < c.terms.length, c.terms[i].key = key) ∧
    c.keys.Nodup ∧
    (∀ (key : String) (i : Nat), c.positions[key]? = some i → i < c.terms.length) ∧
    ∀ key, c.ActsBySearch key := by
  intro c
  have hempty : Indexed { queryId } := locates_empty
  have h : c.Indexed := hempty.run operations
  refine ⟨?_, h.nodup, fun _ _ => h.lt_length, h.actsBySearch⟩
  intro key i
  rw [h key i, keys, List.getElem?_eq_some_iff]
  simp

end Retrieval.Collection
