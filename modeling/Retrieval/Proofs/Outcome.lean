import Mathlib.Data.List.Forall2

/-!
Outcomes that may be errors: when one step after another succeeds, and when it fails. A list of
steps succeeds if all of them do, and otherwise its first failure is how it fails.
-/

namespace Retrieval

variable {ε α β : Type} {result : Except ε α}

theorem Except.map_eq_ok_iff {f : α → β} {b : β} :
    result.map f = .ok b ↔ ∃ a, result = .ok a ∧ f a = b := by
  cases result <;> simp [Except.map]

theorem Except.map_eq_error_iff {f : α → β} {e : ε} :
    result.map f = .error e ↔ result = .error e := by
  cases result <;> simp [Except.map]

theorem Except.bind_eq_ok_iff {f : α → Except ε β} {b : β} :
    result.bind f = .ok b ↔ ∃ a, result = .ok a ∧ f a = .ok b := by
  cases result <;> simp [Except.bind]

theorem Except.toOption_eq_some_iff {a : α} : result.toOption = some a ↔ result = .ok a := by
  cases result <;> simp [Except.toOption]

/-! ### Lists of steps -/

section

variable {f : α → Except ε β} {xs : List α}

theorem Except.mapM_eq_ok_iff {ys : List β} :
    xs.mapM f = .ok ys ↔ List.Forall₂ (fun x y => f x = .ok y) xs ys := by
  induction xs generalizing ys with
  | nil =>
      rw [List.mapM_nil, List.forall₂_nil_left_iff]
      exact ⟨fun h => (Except.ok.inj h).symm, fun h => congrArg Except.ok h.symm⟩
  | cons x xs ih =>
      rw [List.mapM_cons, List.forall₂_cons_left_iff]
      constructor
      · intro h
        obtain ⟨y, hy, h⟩ := Except.bind_eq_ok_iff.mp h
        obtain ⟨rest, hrest, h⟩ := Except.bind_eq_ok_iff.mp h
        exact ⟨y, rest, hy, ih.mp hrest, (Except.ok.inj h).symm⟩
      · rintro ⟨y, rest, hy, hrest, rfl⟩
        rw [hy, ih.mpr hrest]
        rfl

/-- The first step that fails decides how a list of steps fails. -/
theorem Except.mapM_eq_error_iff {e : ε} :
    xs.mapM f = .error e ↔ ∃ before x after, xs = before ++ x :: after ∧
      (∀ y ∈ before, ∃ b, f y = .ok b) ∧ f x = .error e := by
  induction xs with
  | nil =>
      refine iff_of_false nofun ?_
      rintro ⟨before, x, after, hxs, -⟩
      exact absurd hxs.symm (by simp)
  | cons x xs ih =>
      rw [List.mapM_cons]
      constructor
      · intro h
        cases hx : f x with
        | error other =>
            rw [hx] at h
            obtain rfl : other = e := Except.error.inj h
            exact ⟨[], x, xs, rfl, List.forall_mem_nil _, hx⟩
        | ok y =>
            rw [hx] at h
            have hrest : xs.mapM f = .error e := Except.map_eq_error_iff.mp h
            obtain ⟨before, failing, after, rfl, hbefore, hfailing⟩ := ih.mp hrest
            exact ⟨x :: before, failing, after, rfl,
              List.forall_mem_cons.mpr ⟨⟨y, hx⟩, hbefore⟩, hfailing⟩
      · rintro ⟨before, failing, after, hxs, hbefore, hfailing⟩
        cases before with
        | nil =>
            obtain ⟨rfl, -⟩ := List.cons.inj hxs
            rw [hfailing]
            rfl
        | cons first before =>
            obtain ⟨rfl, rfl⟩ := List.cons.inj hxs
            obtain ⟨⟨y, hy⟩, hbefore⟩ := List.forall_mem_cons.mp hbefore
            rw [hy, ih.mpr ⟨before, failing, after, rfl, hbefore, hfailing⟩]
            rfl

end

end Retrieval
