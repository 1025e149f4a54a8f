import Mathlib.Data.List.Induction
import Retrieval.Query.Controls

/-!
Taking controls out of a query. One pass over the clauses keeps some of them, writes the values of
the others and notes whether there were any. What it comes to is told by the clauses alone: which
are controls does not depend on the clauses before them, and the value of a name is the last one
that a control gives it. From this it follows that nothing is left for a second pass, and that two
passes for two sets of names are one pass for both.
-/

namespace Retrieval

variable {names others : Std.ExtTreeSet String} {name value : String} {clause : Clause}

/-! ### Clauses -/

namespace Clause

/-- What a clause says if it is a control: the name of a field right around a term, in lower case,
and the term. -/
def directive? : Clause → Option (String × String)
  | field name (leaf (.term text) _) => some (Text.lowercase name, text)
  | _ => none

/-- Whether a clause is a control, a field right around a term whose name in lower case is among
the names. -/
def isControl (names : Std.ExtTreeSet String) (clause : Clause) : Bool :=
  clause.directive?.any fun (name, _) => names.contains name

def value? (name : String) (clause : Clause) : Option String :=
  clause.directive?.bind fun (key, value) => if key = name then some value else none

/-- A clause is a control by what it says, if that is about one of the names. -/
theorem control?_eq (names : Std.ExtTreeSet String) (clause : Clause) :
    clause.control? names = clause.directive?.filter fun (name, _) => names.contains name := by
  unfold directive?
  split
  · rw [control?, Option.filter_some]
  · rename_i hother
    rw [control?, Option.filter_none]
    exact hother

theorem isControl_iff :
    clause.isControl names ↔
      ∃ name value, clause.directive? = some (name, value) ∧ name ∈ names := by
  unfold isControl
  rcases clause.directive? with _ | ⟨key, text⟩
  · simp
  · simp

theorem isControl_union :
    clause.isControl (names ∪ others) = (clause.isControl names || clause.isControl others) := by
  unfold isControl
  cases clause.directive? with
  | none => rfl
  | some directive => simp

theorem value?_of_directive? {key : String} (h : clause.directive? = some (key, value))
    (name : String) : clause.value? name = if key = name then some value else none := by
  rw [value?, h, Option.bind_some]

theorem value?_eq_some_iff :
    clause.value? name = some value ↔ clause.directive? = some (name, value) := by
  unfold value?
  cases clause.directive? with
  | none => simp
  | some directive => simp [Prod.ext_iff]

/-- A clause that is no control gives the names of controls no value. -/
theorem value?_eq_none (h : ¬clause.isControl names) (hname : name ∈ names) :
    clause.value? name = none := by
  rw [Option.eq_none_iff_forall_ne_some]
  intro value hvalue
  exact h (isControl_iff.mpr ⟨name, value, value?_eq_some_iff.mp hvalue, hname⟩)

end Clause

def lastValue? (name : String) (clauses : List Clause) : Option String :=
  (clauses.filterMap (Clause.value? name)).getLast?

theorem lastValue?_concat (name : String) (clauses : List Clause) (clause : Clause) :
    lastValue? name (clauses ++ [clause]) = (clause.value? name).or (lastValue? name clauses) := by
  rw [lastValue?, List.filterMap_append, List.getLast?_append]
  cases h : clause.value? name <;> simp [h, lastValue?]

/-- The last value of a name stands in the clause after which none gives the name a value. -/
theorem lastValue?_eq_some {before after : List Clause}
    (h : clause.directive? = some (name, value))
    (hlast : ∀ later ∈ after, ∀ other, later.directive? ≠ some (name, other)) :
    lastValue? name (before ++ clause :: after) = some value := by
  have hafter : after.filterMap (Clause.value? name) = [] := by
    rw [List.filterMap_eq_nil_iff]
    intro later hmem
    rw [Option.eq_none_iff_forall_ne_some]
    exact fun other hother => hlast later hmem other (Clause.value?_eq_some_iff.mp hother)
  rw [lastValue?, List.filterMap_append,
    List.filterMap_cons_some (Clause.value?_eq_some_iff.mpr h), hafter, List.getLast?_concat]

theorem lastValue?_eq_none {clauses : List Clause}
    (h : ∀ clause ∈ clauses, clause.value? name = none) : lastValue? name clauses = none := by
  rw [lastValue?, List.filterMap_eq_nil_iff.mpr h, List.getLast?_nil]

/-- Where the controls are taken out, their names have no value. -/
theorem lastValue?_filter_of_mem (h : name ∈ names) (clauses : List Clause) :
    lastValue? name (clauses.filter fun clause => !clause.isControl names) = none := by
  refine lastValue?_eq_none fun clause hmem => ?_
  have hkept := (List.mem_filter.mp hmem).2
  exact Clause.value?_eq_none (by simpa using hkept) h

/-- All other names keep the values that they have. -/
theorem lastValue?_filter_of_notMem (h : name ∉ names) (clauses : List Clause) :
    lastValue? name (clauses.filter fun clause => !clause.isControl names) =
      lastValue? name clauses := by
  rw [lastValue?, lastValue?, List.filterMap_filter]
  congr 2
  funext clause
  cases hvalue : clause.value? name with
  | none => rw [ite_self]
  | some value =>
      have hcontrol : ¬clause.isControl names := by
        rw [Clause.isControl_iff, Clause.value?_eq_some_iff.mp hvalue]
        rintro ⟨_, _, ⟨⟩, hname⟩
        exact h hname
      rw [if_pos (by simpa using hcontrol)]

/-! ### Passes -/

namespace Extraction

/-- What it comes to when the controls of some names are taken out of clauses. -/
structure Splits (names : Std.ExtTreeSet String) (known : Controls) (clauses : List Clause)
    (taken : Extraction) : Prop where
  kept : taken.query.clauses = clauses.filter fun clause => !clause.isControl names
  found : taken.found = clauses.any (Clause.isControl names)
  values : ∀ name, taken.controls[name]? =
    if name ∈ names then (lastValue? name clauses).or known[name]? else known[name]?

variable {known : Controls} {clauses : List Clause} {taken : Extraction}

theorem step_of_directive? (taken : Extraction) (h : clause.directive? = some (name, value))
    (hname : name ∈ names) : taken.step names clause =
      { taken with controls := taken.controls.insert name value, found := true } := by
  have hcontrol : clause.control? names = some (name, value) := by
    rw [Clause.control?_eq, h, Option.filter_some_pos]
    exact Std.ExtTreeSet.contains_iff_mem.mpr hname
  rw [step, hcontrol]

theorem step_of_not_isControl (taken : Extraction) (h : ¬clause.isControl names) :
    taken.step names clause = { taken with query := taken.query.push clause } := by
  have hcontrol : clause.control? names = none := by
    rw [Clause.control?_eq, Option.filter_eq_none_iff]
    rintro ⟨name, value⟩ hdirective hname
    exact h (Clause.isControl_iff.mpr
      ⟨name, value, hdirective, Std.ExtTreeSet.contains_iff_mem.mp hname⟩)
  rw [step, hcontrol]

/-- One step splits one clause more. -/
theorem Splits.step (h : taken.Splits names known clauses) (clause : Clause) :
    (taken.step names clause).Splits names known (clauses ++ [clause]) := by
  by_cases hcontrol : clause.isControl names
  · obtain ⟨key, value, hdirective, hkey⟩ := Clause.isControl_iff.mp hcontrol
    rw [step_of_directive? taken hdirective hkey]
    refine ⟨?_, ?_, fun name => ?_⟩
    · simp [h.kept, hcontrol]
    · simp [hcontrol]
    · rw [lastValue?_concat, Clause.value?_of_directive? hdirective,
        Std.ExtTreeMap.getElem?_insert, h.values]
      by_cases hname : key = name
      · subst hname
        simp [hkey]
      · simp [hname]
  · rw [step_of_not_isControl taken hcontrol]
    refine ⟨?_, ?_, fun name => ?_⟩
    · simp [h.kept, hcontrol, Query.push]
    · simp [h.found, hcontrol]
    · rw [lastValue?_concat, h.values]
      split
      · rename_i hname
        rw [Clause.value?_eq_none hcontrol hname, Option.none_or]
      · rfl

/-- A pass splits all clauses. -/
theorem splits_takeControls (query : Query) (names : Std.ExtTreeSet String) (known : Controls) :
    (query.takeControls names known).Splits names known query.clauses := by
  obtain ⟨clauses⟩ := query
  -- From the end, since the last control of a name decides its value.
  induction clauses using List.reverseRecOn with
  | nil => exact ⟨rfl, rfl, fun name => by simp [Query.takeControls, lastValue?]⟩
  | append_singleton clauses clause ih =>
      rw [Query.takeControls, List.foldl_append]
      exact ih.step clause

/-- How clauses are split says all of the result. -/
theorem Splits.unique {other : Extraction} (h : taken.Splits names known clauses)
    (hother : other.Splits names known clauses) : taken = other := by
  obtain ⟨⟨kept⟩, controls, found⟩ := taken
  obtain ⟨⟨kept'⟩, controls', found'⟩ := other
  obtain rfl : kept = kept' := h.kept.trans hother.kept.symm
  obtain rfl : found = found' := h.found.trans hother.found.symm
  obtain rfl : controls = controls' := by
    refine Std.ExtTreeMap.ext_getElem? fun name => ?_
    exact (h.values name).trans (hother.values name).symm
  rfl

theorem Splits.found_iff (h : taken.Splits names known clauses) :
    taken.found ↔ taken.query.size < clauses.length := by
  rw [Query.size, h.kept, List.length_filter_lt_length_iff_exists, h.found, List.any_eq_true]
  simp

/-- The value of a name is the one in the last control of this name. -/
theorem Splits.value_of_last (h : taken.Splits names known clauses) {before after : List Clause}
    (hclauses : clauses = before ++ clause :: after)
    (hdirective : clause.directive? = some (name, value)) (hname : name ∈ names)
    (hlast : ∀ later ∈ after, ∀ other, later.directive? ≠ some (name, other)) :
    taken.controls[name]? = some value := by
  rw [h.values, if_pos hname, hclauses, lastValue?_eq_some hdirective hlast, Option.some_or]

/-- A name of which there is no control has the value known before. -/
theorem Splits.value_of_none (h : taken.Splits names known clauses)
    (hnone : ∀ clause ∈ clauses, ∀ value,
      clause.directive? = some (name, value) → name ∉ names) :
    taken.controls[name]? = known[name]? := by
  rw [h.values]
  split
  · rename_i hname
    have hvalue : lastValue? name clauses = none := by
      refine lastValue?_eq_none fun clause hmem => ?_
      rw [Option.eq_none_iff_forall_ne_some]
      intro value hvalue
      exact hnone clause hmem value (Clause.value?_eq_some_iff.mp hvalue) hname
    rw [hvalue, Option.none_or]
  · rfl

/-- A second pass for the same names finds nothing. -/
theorem Splits.again (h : taken.Splits names known clauses) :
    { taken with found := false }.Splits names taken.controls taken.query.clauses := by
  have hkept : ∀ clause ∈ taken.query.clauses, ¬clause.isControl names := by
    intro clause hmem
    rw [h.kept] at hmem
    simpa using (List.mem_filter.mp hmem).2
  refine ⟨?_, ?_, fun name => ?_⟩
  · exact (List.filter_eq_self.mpr fun clause hmem => by simpa using hkept clause hmem).symm
  · exact (List.any_eq_false.mpr hkept).symm
  · split
    · rename_i hname
      rw [h.kept, lastValue?_filter_of_mem hname, Option.none_or]
    · rfl

/-- A pass for some names and then one for others is a pass for both. -/
theorem Splits.union {next : Extraction} (h : taken.Splits names known clauses)
    (hnext : next.Splits others taken.controls taken.query.clauses) :
    { next with found := taken.found || next.found }.Splits (names ∪ others) known clauses := by
  refine ⟨?_, ?_, fun name => ?_⟩
  · rw [hnext.kept, h.kept, List.filter_filter]
    congr 1
    funext clause
    rw [Clause.isControl_union, Bool.not_or, Bool.and_comm]
  · rw [Bool.eq_iff_iff]
    simp only [h.found, hnext.found, h.kept, Bool.or_eq_true, List.any_eq_true,
      Clause.isControl_union, List.mem_filter]
    constructor
    · rintro (⟨clause, hmem, hcontrol⟩ | ⟨clause, ⟨hmem, -⟩, hcontrol⟩)
      · exact ⟨clause, hmem, .inl hcontrol⟩
      · exact ⟨clause, hmem, .inr hcontrol⟩
    · rintro ⟨clause, hmem, hcontrol⟩
      by_cases hfirst : clause.isControl names
      · exact .inl ⟨clause, hmem, hfirst⟩
      · exact .inr ⟨clause, ⟨hmem, by simpa using hfirst⟩, hcontrol.resolve_left hfirst⟩
  -- The first pass takes every clause that gives one of its names a value, so a value of a name
  -- comes from one pass only.
  · rw [hnext.values, h.values, h.kept]
    by_cases hname : name ∈ names
    · simp [hname, lastValue?_filter_of_mem hname]
    · simp [hname, lastValue?_filter_of_notMem hname]

end Extraction

/-! ### Queries -/

/-- Taking out controls splits a query in two. The clauses that are no controls are kept as they
are. A name of a control has the value in the last control of this name, and all other names have
the values known before. A control was found exactly if the query got shorter. A second pass for
the same names changes nothing and finds none, and a pass for some names and then one for others
come to the same as one pass for both. -/
theorem Query.takeControls_exact (query : Query) (names others : Std.ExtTreeSet String)
    (known : Controls) :
    let taken := query.takeControls names known
    let next := taken.query.takeControls others taken.controls
    taken.query.clauses = query.clauses.filter (fun clause => !clause.isControl names) ∧
    (∀ before clause after name value, query.clauses = before ++ clause :: after →
      clause.directive? = some (name, value) → name ∈ names →
      (∀ later ∈ after, ∀ other, later.directive? ≠ some (name, other)) →
      taken.controls[name]? = some value) ∧
    (∀ name, (∀ clause ∈ query.clauses, ∀ value,
      clause.directive? = some (name, value) → name ∉ names) →
      taken.controls[name]? = known[name]?) ∧
    (taken.found ↔ taken.query.size < query.size) ∧
    taken.query.takeControls names taken.controls = ⟨taken.query, taken.controls, false⟩ ∧
    query.takeControls (names ∪ others) known =
      ⟨next.query, next.controls, taken.found || next.found⟩ := by
  intro taken next
  have hsplits : taken.Splits names known query.clauses := Extraction.splits_takeControls ..
  have hnext : next.Splits others taken.controls taken.query.clauses :=
    Extraction.splits_takeControls ..
  refine ⟨hsplits.kept, ?_, fun name hnone => hsplits.value_of_none hnone, hsplits.found_iff,
    ?_, ?_⟩
  · intro before clause after name value hclauses hdirective hname hlast
    exact hsplits.value_of_last hclauses hdirective hname hlast
  · exact (Extraction.splits_takeControls ..).unique hsplits.again
  · exact (Extraction.splits_takeControls ..).unique (hsplits.union hnext)

/-- A name in two cases: the last value is kept, and a field of another name is no control. -/
example :
    let query : Query := ⟨[.field "Start" (.ofPattern (.term "1")),
      .field "title" (.ofPattern (.term "a")), .field "START" (.ofPattern (.term "2"))]⟩
    let taken := query.takeControls (.ofList ["start"]) ∅
    taken.controls["start"]? = some "2" ∧ taken.controls["title"]? = none ∧
      taken.query.size = 1 := by
  decide +kernel

end Retrieval
