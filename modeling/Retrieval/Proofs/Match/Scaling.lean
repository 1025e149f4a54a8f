import Retrieval.Match.Collection
import Retrieval.Proofs.Decimal.Quotient

/-!
Normalising the weights of a collection. The largest weight is found by one pass from minus infinity
on, which leaves out what is no number; a largest weight above zero is always one of the weights.
Divided by it, every weight is one at most, and the largest one is just one. So a second time the
weights are divided by one.
-/

namespace Retrieval

/-- The largest of some weights. What is no number is neither the largest nor compared with it. -/
structure IsLargest (weights : List Float) (largest : Float) : Prop where
  mem : largest ∈ weights
  number : ¬largest.isNaN
  le : ∀ weight ∈ weights, ¬weight.isNaN → weight ≤ largest

/-- The largest of the weights divided by it is one. -/
theorem IsLargest.map_div {weights : List Float} {largest : Float} (h : IsLargest weights largest)
    (hpos : 0 < largest) (hfinite : largest.isFinite) :
    IsLargest (weights.map (· / largest)) 1 where
  mem := List.mem_map.mpr ⟨largest, h.mem, Double.div_self hpos hfinite⟩
  number := by decide
  le := by
    refine List.forall_mem_map.mpr fun weight hmem hnumber => ?_
    have hweight : ¬weight.isNaN := fun hnan => hnumber (Double.isNaN_div hnan largest)
    exact Double.div_le_one hpos hfinite (h.le weight hmem hweight)

namespace Collection

def weights (c : Collection) : List Float :=
  c.terms.map MatchTerm.weight

structure SameButWeights (c d : Collection) : Prop where
  queryId : d.queryId = c.queryId
  positions : d.positions = c.positions
  terms : List.Forall₂ (fun term other => other = { term with weight := other.weight })
    c.terms d.terms

theorem SameButWeights.keys {c d : Collection} (h : SameButWeights c d) : d.keys = c.keys := by
  have hterms := h.terms
  rw [Collection.keys, Collection.keys]
  generalize c.terms = before at hterms
  generalize d.terms = after at hterms
  induction hterms with
  | nil => rfl
  | cons hterm _ ih =>
      rw [List.map_cons, List.map_cons, ih, hterm]
      rfl

/-! ### The largest weight -/

theorem larger_spec {first : Float} (hfirst : ¬first.isNaN) (second : Float) :
    ¬(larger first second).isNaN ∧ (larger first second = first ∨ larger first second = second) ∧
      first ≤ larger first second ∧ (¬second.isNaN → second ≤ larger first second) := by
  unfold larger
  split
  · rename_i hlt
    obtain ⟨-, hsecond, -⟩ := Double.lt_iff_place.mp hlt
    exact ⟨hsecond, .inr rfl, Double.le_of_lt hlt, Double.le_refl⟩
  · rename_i hlt
    exact ⟨hfirst, .inl rfl, Double.le_refl hfirst, fun hsecond =>
      (Double.not_lt hfirst hsecond).mp hlt⟩

theorem foldl_larger {start : Float} (hstart : ¬start.isNaN) (weights : List Float) :
    ¬(weights.foldl larger start).isNaN ∧
      (weights.foldl larger start = start ∨ weights.foldl larger start ∈ weights) ∧
      start ≤ weights.foldl larger start ∧
      ∀ weight ∈ weights, ¬weight.isNaN → weight ≤ weights.foldl larger start := by
  induction weights generalizing start with
  | nil => exact ⟨hstart, .inl rfl, Double.le_refl hstart, nofun⟩
  | cons weight weights ih =>
      obtain ⟨hnumber, hfrom, hle, hweight⟩ := larger_spec hstart weight
      obtain ⟨hnumber', hfrom', hle', hweights⟩ := ih hnumber
      rw [List.foldl_cons]
      refine ⟨hnumber', ?_, Double.le_trans hle hle', ?_⟩
      · obtain heq | hmem := hfrom'
        · rw [heq, List.mem_cons]
          exact hfrom.imp_right .inl
        · exact .inr (List.mem_cons_of_mem _ hmem)
      · refine List.forall_mem_cons.mpr ⟨fun h => ?_, hweights⟩
        exact Double.le_trans (hweight h) hle'

theorem maxWeight_spec (c : Collection) :
    ¬c.maxWeight.isNaN ∧ (0 < c.maxWeight → c.maxWeight ∈ c.weights) ∧
      ∀ weight ∈ c.weights, ¬weight.isNaN → weight ≤ c.maxWeight := by
  have hstart : ¬(-1 / 0 : Float).isNaN := by decide
  obtain ⟨hnumber, hfrom, -, hle⟩ := foldl_larger hstart c.weights
  refine ⟨hnumber, fun hpos => hfrom.resolve_left fun heq => ?_, hle⟩
  change 0 < c.weights.foldl larger (-1 / 0) at hpos
  rw [heq] at hpos
  revert hpos
  decide

/-- A largest weight above zero is what the pass over the weights finds. -/
theorem isLargest_iff {c : Collection} {largest : Float} (hpos : 0 < largest) :
    IsLargest c.weights largest ↔ c.maxWeight = largest := by
  obtain ⟨hnumber, hmem, hle⟩ := c.maxWeight_spec
  constructor
  · intro h
    have hge : largest ≤ c.maxWeight := hle largest h.mem h.number
    have hmem := hmem (Double.lt_of_lt_of_le hpos hge)
    exact Double.eq_of_le_of_le hpos (h.le c.maxWeight hmem hnumber) hge
  · rintro rfl
    exact ⟨hmem hpos, hnumber, hle⟩

/-! ### Normalising -/

theorem normaliseWeights_of_pos {c : Collection} (hpos : 0 < c.maxWeight)
    (hfinite : c.maxWeight.isFinite) :
    c.normaliseWeights = { c with
      terms := c.terms.map fun term => { term with weight := term.weight / c.maxWeight } } := by
  have hle : ¬c.maxWeight ≤ 0 := (Double.not_le c.maxWeight_spec.1 (by decide)).mpr hpos
  simp only [normaliseWeights, hle, hfinite, decide_false, Bool.not_true, Bool.or_self,
    Bool.false_eq_true, if_false]

theorem normaliseWeights_of_not {c : Collection}
    (h : ¬(0 < c.maxWeight ∧ c.maxWeight.isFinite)) : c.normaliseWeights = c := by
  refine if_pos ?_
  rw [Bool.or_eq_true, decide_eq_true_iff, Bool.not_eq_true',
    ← Double.not_lt (by decide) c.maxWeight_spec.1]
  rw [not_and_or, Bool.not_eq_true] at h
  exact h

theorem weights_normaliseWeights {c : Collection} {largest : Float} (hpos : 0 < largest)
    (hfinite : largest.isFinite) (h : IsLargest c.weights largest) :
    c.normaliseWeights.weights = c.weights.map (· / largest) := by
  obtain rfl := (isLargest_iff hpos).mp h
  rw [normaliseWeights_of_pos hpos hfinite, weights, weights, List.map_map, List.map_map]
  rfl

theorem sameButWeights_normaliseWeights (c : Collection) :
    SameButWeights c c.normaliseWeights := by
  by_cases h : 0 < c.maxWeight ∧ c.maxWeight.isFinite
  · rw [normaliseWeights_of_pos h.1 h.2]
    exact ⟨rfl, rfl, List.forall₂_map_right_iff.mpr (List.forall₂_same.mpr fun _ _ => rfl)⟩
  · rw [normaliseWeights_of_not h]
    exact ⟨rfl, rfl, List.forall₂_same.mpr fun _ _ => rfl⟩

/-- Dividing by a largest weight of one changes nothing. -/
theorem normaliseWeights_of_one {c : Collection} (h : IsLargest c.weights 1) :
    c.normaliseWeights = c := by
  have hone : c.maxWeight = 1 := (isLargest_iff (by decide)).mp h
  rw [normaliseWeights_of_pos (hone ▸ by decide) (hone ▸ by decide), hone]
  simp only [Double.div_one, List.map_id']

/-- Normalising changes nothing but weights. If the largest weight is above zero and finite, every
weight is divided by it and the largest weight becomes one; otherwise all weights stay. A second
time nothing changes any more. -/
theorem normaliseWeights_stable (c : Collection) :
    SameButWeights c c.normaliseWeights ∧ c.normaliseWeights.keys = c.keys ∧
    (∀ largest, IsLargest c.weights largest → 0 < largest → largest.isFinite →
      c.normaliseWeights.weights = c.weights.map (· / largest) ∧
      IsLargest c.normaliseWeights.weights 1) ∧
    ((∀ largest, IsLargest c.weights largest → ¬(0 < largest ∧ largest.isFinite)) →
      c.normaliseWeights = c) ∧
    c.normaliseWeights.normaliseWeights = c.normaliseWeights := by
  have hsame := c.sameButWeights_normaliseWeights
  have hscaled : ∀ largest, IsLargest c.weights largest → 0 < largest → largest.isFinite →
      c.normaliseWeights.weights = c.weights.map (· / largest) ∧
      IsLargest c.normaliseWeights.weights 1 := by
    intro largest h hpos hfinite
    rw [weights_normaliseWeights hpos hfinite h]
    exact ⟨rfl, h.map_div hpos hfinite⟩
  refine ⟨hsame, hsame.keys, hscaled, fun h => ?_, ?_⟩
  · refine normaliseWeights_of_not fun ⟨hpos, hfinite⟩ => ?_
    exact h c.maxWeight ((isLargest_iff hpos).mpr rfl) ⟨hpos, hfinite⟩
  · by_cases h : 0 < c.maxWeight ∧ c.maxWeight.isFinite
    · obtain ⟨-, hone⟩ := hscaled c.maxWeight ((isLargest_iff h.1).mpr rfl) h.1 h.2
      exact normaliseWeights_of_one hone
    · rw [normaliseWeights_of_not h, normaliseWeights_of_not h]

/-- A weight that is no number stays one, and the others are divided by the largest of them. -/
example :
    let c := ((empty.addWeight "a" 0.5).addWeight "b" (0 / 0)).addWeight "c" 2
    c.normaliseWeights.weights = [0.25, 0 / 0, 1] := by
  decide +kernel

end Collection

end Retrieval
