import Retrieval.Proofs.Match.Lookup

/-!
Which terms are merged when terms are added to a collection. Every term is put at the position of
its key, which is behind all others for a key that is new, and what stands at a position in the end
is all that was put there, merged in order. Positions do not move while terms are added, so two
terms come to the same position exactly if they have the same key.
-/

namespace Retrieval

def MatchTerm.mergeAll? (terms : List MatchTerm) : Option MatchTerm :=
  terms.foldl (fun merged? term => some (merged?.elim term (·.merge term))) none

namespace Collection

/-- Where a term is put when it is added. -/
def place (c : Collection) (term : MatchTerm) : Nat :=
  c.positions[term.key]?.getD c.terms.length

def places (c : Collection) : List MatchTerm → List Nat
  | [] => []
  | term :: terms => c.place term :: (c.add term).places terms

def putAt (c : Collection) (terms : List MatchTerm) (position : Nat) : List MatchTerm :=
  ((terms.zip (c.places terms)).filter fun entry => entry.2 = position).map Prod.fst

@[simp] theorem length_places (c : Collection) (terms : List MatchTerm) :
    (c.places terms).length = terms.length := by
  induction terms generalizing c with
  | nil => rfl
  | cons term terms ih => rw [places, List.length_cons, ih, List.length_cons]

theorem putAt_cons (c : Collection) (term : MatchTerm) (terms : List MatchTerm) (position : Nat) :
    c.putAt (term :: terms) position =
      (if c.place term = position then [term] else []) ++ (c.add term).putAt terms position := by
  rw [putAt, places, List.zip_cons_cons, List.filter_cons]
  by_cases h : c.place term = position <;> simp [h, putAt]

/-! ### What stands at a position -/

theorem Indexed.getElem?_add {c : Collection} (h : c.Indexed) (term : MatchTerm)
    (position : Nat) :
    (c.add term).terms[position]? =
      if c.place term = position then some (c.terms[position]?.elim term (·.merge term))
      else c.terms[position]? := by
  unfold Collection.add place
  cases hplace : c.positions[term.key]? with
  | none =>
      simp only [Option.getD_none]
      rw [List.getElem?_append]
      split
      · rw [if_neg (by omega)]
      · rename_i hlength
        rw [List.getElem?_singleton, List.getElem?_eq_none (by omega)]
        by_cases hposition : c.terms.length = position
        · rw [if_pos (by omega), if_pos hposition]
          rfl
        · rw [if_neg (by omega), if_neg hposition]
  | some i =>
      simp only [Option.getD_some]
      rw [List.getElem?_modify]
      split
      · rename_i hi
        rw [← hi, List.getElem?_eq_getElem (h.lt_length hplace)]
        rfl
      · exact id_map' _

/-- What stands at a position is what stood there, merged with all that was put there. -/
theorem Indexed.getElem?_addAll {c : Collection} (h : c.Indexed) (terms : List MatchTerm)
    (position : Nat) :
    (c.addAll terms).terms[position]? =
      (c.putAt terms position).foldl
        (fun merged? term => some (merged?.elim term (·.merge term))) c.terms[position]? := by
  induction terms generalizing c with
  | nil => rfl
  | cons term terms ih =>
      rw [addAll_cons, ih (h.add term), h.getElem?_add, putAt_cons, List.foldl_append]
      split <;> rfl

/-! ### Positions and keys -/

theorem positions_add (c : Collection) (term : MatchTerm) :
    (c.add term).positions[term.key]? = some (c.place term) := by
  unfold add place
  cases hposition : c.positions[term.key]? with
  | none => simp
  | some i => exact hposition

theorem positions_add_of_ne {c : Collection} {term : MatchTerm} {key : String}
    (hne : term.key ≠ key) : (c.add term).positions[key]? = c.positions[key]? := by
  unfold add
  split
  · rfl
  · rw [Std.ExtTreeMap.getElem?_insert, if_neg (by rwa [Std.compare_eq_iff_eq])]

/-- Adding a term moves no key. -/
theorem positions_add_of_some {c : Collection} {key : String} {position : Nat}
    (h : c.positions[key]? = some position) (term : MatchTerm) :
    (c.add term).positions[key]? = some position := by
  by_cases hkey : term.key = key
  · rw [← hkey, positions_add, place, hkey, h, Option.getD_some]
  · rw [positions_add_of_ne hkey, h]

theorem positions_addAll_of_some {c : Collection} {key : String} {position : Nat}
    (h : c.positions[key]? = some position) (terms : List MatchTerm) :
    (c.addAll terms).positions[key]? = some position := by
  induction terms generalizing c with
  | nil => exact h
  | cons term terms ih => exact ih (positions_add_of_some h term)

/-- The table leads from the key of every term that was added to the place where it was put. -/
theorem positions_addAll {c : Collection} {terms : List MatchTerm} {i : Nat} {term : MatchTerm}
    (h : terms[i]? = some term) :
    (c.addAll terms).positions[term.key]? = (c.places terms)[i]? := by
  induction terms generalizing c i with
  | nil => cases h
  | cons first terms ih =>
      cases i with
      | zero =>
          cases h
          exact positions_addAll_of_some (positions_add c term) terms
      | succ i => exact ih h

/-- Terms are put at the same position if they have the same key, and only then. -/
theorem Indexed.places_eq_iff {c : Collection} (h : c.Indexed) {terms : List MatchTerm} {i j : Nat}
    {first second : MatchTerm} (hi : terms[i]? = some first) (hj : terms[j]? = some second) :
    (c.places terms)[i]? = (c.places terms)[j]? ↔ first.key = second.key := by
  rw [← positions_addAll hi, ← positions_addAll hj]
  constructor
  · intro heq
    have hlt : i < (c.places terms).length := by
      rw [length_places]
      exact (List.getElem?_eq_some_iff.mp hi).1
    have hposition : (c.addAll terms).positions[first.key]? = some (c.places terms)[i] := by
      rw [positions_addAll hi, List.getElem?_eq_getElem hlt]
    have hfirst := (h.addAll terms _ _).mp hposition
    rw [heq] at hposition
    have hsecond := (h.addAll terms _ _).mp hposition
    rw [hfirst, Option.some_inj] at hsecond
    exact hsecond
  · intro hkey
    rw [hkey]

end Collection

end Retrieval
