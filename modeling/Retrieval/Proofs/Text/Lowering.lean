import Retrieval.Proofs.Text.Words
import Retrieval.Text.LowerCase

/-!
Lower case is lower case already. The form of a character depends on the characters around it only
for the capital sigma, which is no lower case form of anything, so a text of lower case forms stays
as it is wherever it is cut. The table of runs is what this rests on: no run leads into another one,
and none leads to white space.
-/

namespace Retrieval.Text

/-- Whether a character is its own lower case form. -/
def Lowered (c : Char) : Prop :=
  lowerChar c = [c]

instance (c : Char) : Decidable (Lowered c) :=
  inferInstanceAs (Decidable (_ = _))

theorem Lowered.ne_sigma {c : Char} (h : Lowered c) : c ≠ 'Σ' := by
  rintro rfl
  revert h
  decide

/-! ### The table -/

def CaseRun.targetEnd (run : CaseRun) : Nat :=
  run.target + (run.last - run.first)

/-- Whether the lower case forms that a run gives are not in another run: they lie before or behind
it, or in the gaps between its characters. -/
def CaseRun.avoids (run other : CaseRun) : Bool :=
  Nat.blt run.targetEnd other.first || Nat.blt other.last run.target ||
    (other.stride == 2 && (run.stride == 2 || run.first == run.last) &&
      (run.target + other.first) % 2 == 1)

/-- The capital I with a dot, which is lowered apart from the runs, as a run of its own. -/
def dottedRun : CaseRun :=
  ⟨0x130, 0x130, 1, 0x130⟩

def solidRanges : CodeRanges :=
  [(0x61, 0x84), (0xA1, 0x167F), (0x1681, 0x1FFF), (0x2060, 0x2FFF), (0x3001, 0xD7FF),
    (0xE000, 0x10FFFF)]

theorem avoids_of_mem_caseRuns :
    ∀ run ∈ caseRuns, ∀ other ∈ dottedRun :: caseRuns, run.avoids other := by
  have htable : (caseRuns.all fun run => (dottedRun :: caseRuns).all run.avoids) = true := by
    decide +kernel
  simpa only [List.all_eq_true] using htable

theorem targets_solid_of_mem_caseRuns :
    ∀ run ∈ caseRuns, ∃ range ∈ solidRanges, range.1 ≤ run.target ∧ run.targetEnd ≤ range.2 := by
  have htable : (caseRuns.all fun run => solidRanges.any fun range =>
      Nat.ble range.1 run.target && Nat.ble run.targetEnd range.2) = true := by
    decide +kernel
  simpa only [List.all_eq_true, List.any_eq_true, Bool.and_eq_true, Nat.ble_eq] using htable

theorem CaseRun.lower?_eq_some_iff {run : CaseRun} {point target : Nat} :
    run.lower? point = some target ↔
      (run.first ≤ point ∧ point ≤ run.last ∧ (point - run.first) % run.stride = 0) ∧
        run.target + (point - run.first) = target := by
  simp [CaseRun.lower?, and_assoc]

theorem CaseRun.lower?_target {run other : CaseRun} {point target : Nat}
    (h : run.lower? point = some target) (havoids : run.avoids other) :
    other.lower? target = none := by
  obtain ⟨⟨hfirst, hlast, hstride⟩, rfl⟩ := lower?_eq_some_iff.mp h
  rw [Option.eq_none_iff_forall_ne_some]
  intro next hnext
  obtain ⟨⟨hfirst', hlast', hstride'⟩, -⟩ := lower?_eq_some_iff.mp hnext
  simp only [avoids, targetEnd, Bool.or_eq_true, Nat.blt_eq, Bool.and_eq_true, beq_iff_eq]
    at havoids
  obtain (hbefore | hbehind) | ⟨⟨htwo, hrun⟩, hodd⟩ := havoids
  · omega
  · omega
  -- The other run takes every second character, and the targets are those in between.
  · rw [htwo] at hstride'
    obtain hrun | hrun := hrun
    · rw [hrun] at hstride
      omega
    · omega

/-- What a run gives is a character other than white space. -/
theorem CaseRun.solid_of_lower? {run : CaseRun} (hrun : run ∈ caseRuns) {point target : Nat}
    (h : run.lower? point = some target) :
    (Char.ofNat target).toNat = target ∧ isSolid (Char.ofNat target) := by
  obtain ⟨⟨hfirst, hlast, -⟩, hpoint⟩ := lower?_eq_some_iff.mp h
  obtain ⟨range, hrange, hlow, hhigh⟩ := targets_solid_of_mem_caseRuns run hrun
  have hlow : range.1 ≤ target := by omega
  have hhigh : target ≤ range.2 := by
    rw [targetEnd] at hhigh
    omega
  have hvalid : target.isValidChar := by
    simp only [solidRanges, List.mem_cons, List.not_mem_nil, or_false] at hrange
    simp only [Nat.isValidChar]
    rcases hrange with rfl | rfl | rfl | rfl | rfl | rfl <;> omega
  have htoNat : (Char.ofNat target).toNat = target := by
    rw [Char.ofNat, dif_pos hvalid]
    rfl
  refine ⟨htoNat, isSolid_iff.mpr ?_⟩
  simp only [isBlank, htoNat]
  simp only [solidRanges, List.mem_cons, List.not_mem_nil, or_false] at hrange
  rcases hrange with rfl | rfl | rfl | rfl | rfl | rfl <;> simp <;> omega

/-! ### Characters -/

/-- What a character becomes: itself, one of the two forms in which the capital I with a dot is
taken apart, or a character of the table. -/
theorem mem_lowerChar {c d : Char} (h : d ∈ lowerChar c) :
    (d = c ∧ Lowered c) ∨ d = 'i' ∨ d = '\u0307' ∨
      ∃ run ∈ caseRuns, ∃ target, run.lower? c.toNat = some target ∧ d = Char.ofNat target := by
  unfold lowerChar at h
  split at h
  · simp only [List.mem_cons, List.not_mem_nil, or_false] at h
    exact .inr (h.imp_right .inl)
  · rename_i hdotted
    split at h
    · rename_i target htarget
      obtain ⟨run, hrun, hlower⟩ := List.exists_of_findSome?_eq_some htarget
      exact .inr (.inr (.inr ⟨run, hrun, target, hlower, List.mem_singleton.mp h⟩))
    · rename_i hnone
      refine .inl ⟨List.mem_singleton.mp h, ?_⟩
      simp only [Lowered, lowerChar, if_neg hdotted, hnone]

theorem lowered_of_mem_lowerChar {c d : Char} (h : d ∈ lowerChar c) : Lowered d := by
  obtain ⟨rfl, hc⟩ | rfl | rfl | ⟨run, hrun, target, hlower, rfl⟩ := mem_lowerChar h
  · exact hc
  · decide
  · decide
  · obtain ⟨htoNat, -⟩ := CaseRun.solid_of_lower? hrun hlower
    have havoids := avoids_of_mem_caseRuns run hrun
    have hdotted : Char.ofNat target ≠ '\u0130' := by
      intro hdotted
      rw [hdotted] at htoNat
      have hnone := CaseRun.lower?_target hlower (havoids dottedRun List.mem_cons_self)
      rw [← htoNat] at hnone
      revert hnone
      decide
    have hnone : caseRuns.findSome? (CaseRun.lower? target) = none := by
      refine List.findSome?_eq_none_iff.mpr fun other hother => ?_
      exact CaseRun.lower?_target hlower (havoids other (List.mem_cons_of_mem _ hother))
    simp only [Lowered, lowerChar, if_neg hdotted, htoNat, hnone]

/-- Lower case makes no white space of other characters. -/
theorem solid_of_mem_lowerChar {c d : Char} (h : d ∈ lowerChar c) (hc : isSolid c) :
    isSolid d := by
  obtain ⟨rfl, -⟩ | rfl | rfl | ⟨run, hrun, target, hlower, rfl⟩ := mem_lowerChar h
  · exact hc
  · decide
  · decide
  · exact (CaseRun.solid_of_lower? hrun hlower).2

theorem lowerChar_ne_nil (c : Char) : lowerChar c ≠ [] := by
  unfold lowerChar
  repeat' split
  all_goals exact List.cons_ne_nil _ _

/-! ### Texts -/

theorem lowerSigma_eq (before after : List Char) :
    lowerSigma before after = 'ς' ∨ lowerSigma before after = 'σ' := by
  unfold lowerSigma
  split
  · exact .inl rfl
  · exact .inr rfl

/-- Every character of a text in lower case comes from one of the text before. -/
theorem exists_of_mem_lowerAfter {before cs : List Char} {d : Char}
    (h : d ∈ lowerAfter before cs) :
    ∃ c ∈ cs, d ∈ lowerChar c ∨ d = 'ς' ∨ d = 'σ' := by
  induction cs generalizing before with
  | nil => cases h
  | cons c cs ih =>
      rw [lowerAfter, List.mem_append] at h
      obtain h | h := h
      · refine ⟨c, List.mem_cons_self, ?_⟩
        split at h
        · rw [List.mem_singleton.mp h]
          exact .inr (lowerSigma_eq before cs)
        · exact .inl h
      · obtain ⟨other, hmem, hother⟩ := ih h
        exact ⟨other, List.mem_cons_of_mem _ hmem, hother⟩

theorem lowered_of_mem_lowerAfter {before cs : List Char} {d : Char}
    (h : d ∈ lowerAfter before cs) : Lowered d := by
  obtain ⟨c, -, h | rfl | rfl⟩ := exists_of_mem_lowerAfter h
  · exact lowered_of_mem_lowerChar h
  · decide
  · decide

theorem lowerAfter_of_lowered {cs : List Char} (h : ∀ c ∈ cs, Lowered c) (before : List Char) :
    lowerAfter before cs = cs := by
  induction cs generalizing before with
  | nil => rfl
  | cons c cs ih =>
      obtain ⟨hc, hcs⟩ := List.forall_mem_cons.mp h
      rw [lowerAfter, if_neg hc.ne_sigma, hc, ih hcs, List.singleton_append]

theorem lowerAfter_ne_nil {before cs : List Char} (h : cs ≠ []) : lowerAfter before cs ≠ [] := by
  obtain ⟨c, cs, rfl⟩ := List.exists_cons_of_ne_nil h
  rw [lowerAfter]
  split
  · exact List.cons_ne_nil _ _
  · exact fun hnil => lowerChar_ne_nil c (List.append_eq_nil_iff.mp hnil).1

theorem lowered_of_mem_lowercase {s : String} : ∀ c ∈ (lowercase s).toList, Lowered c := by
  intro c hc
  rw [lowercase, String.toList_ofList] at hc
  exact lowered_of_mem_lowerAfter hc

/-- A text of lower case forms stays as it is. -/
theorem lowercase_of_lowered {s : String} (h : ∀ c ∈ s.toList, Lowered c) : lowercase s = s := by
  rw [lowercase, lowerAfter_of_lowered h, String.ofList_toList]

theorem lowercase_ne_empty {s : String} (h : s ≠ "") : lowercase s ≠ "" := by
  intro hempty
  have hnil : lowerAfter [] s.toList = [] := by
    rw [← String.toList_ofList (l := lowerAfter [] s.toList)]
    exact String.toList_eq_nil_iff.mpr hempty
  exact lowerAfter_ne_nil (fun hs => h (String.toList_eq_nil_iff.mp hs)) hnil

/-- Lower case takes the capital I with a dot apart, and has one character for every other one. -/
theorem length_lowerChar (c : Char) : (lowerChar c).length = 1 + [c].count '\u0130' := by
  unfold lowerChar
  split
  · rename_i hdotted
    rw [hdotted]
    rfl
  · rename_i hdotted
    rw [List.count_eq_zero_of_not_mem (by simpa using Ne.symm hdotted)]
    split <;> rfl

theorem length_lowerAfter (before cs : List Char) :
    (lowerAfter before cs).length = cs.length + cs.count '\u0130' := by
  induction cs generalizing before with
  | nil => rfl
  | cons c cs ih =>
      have hhead : (if c = 'Σ' then [lowerSigma before cs] else lowerChar c).length =
          1 + [c].count '\u0130' := by
        split
        · rename_i hsigma
          rw [hsigma]
          rfl
        · exact length_lowerChar c
      have hcount : ([c] ++ cs).count '\u0130' = [c].count '\u0130' + cs.count '\u0130' :=
        List.count_append
      rw [List.singleton_append] at hcount
      rw [lowerAfter, List.length_append, hhead, ih, hcount, List.length_cons]
      omega

theorem length_lowercase (s : String) :
    (lowercase s).length = s.length + s.toList.count '\u0130' := by
  rw [lowercase, String.length_ofList, length_lowerAfter, String.length_toList]

@[simp] theorem lowercase_lowercase (s : String) : lowercase (lowercase s) = lowercase s :=
  lowercase_of_lowered lowered_of_mem_lowercase

theorem solid_of_mem_lowercase {s : String} (h : ∀ c ∈ s.toList, isSolid c) :
    ∀ c ∈ (lowercase s).toList, isSolid c := by
  intro d hd
  rw [lowercase, String.toList_ofList] at hd
  obtain ⟨c, hc, hd | rfl | rfl⟩ := exists_of_mem_lowerAfter hd
  · exact solid_of_mem_lowerChar hd (h c hc)
  · decide
  · decide

end Retrieval.Text

namespace Retrieval

theorem IsSolid.lowercase {text : String} (h : IsSolid text) : IsSolid (Text.lowercase text) :=
  ⟨Text.lowercase_ne_empty h.ne_empty, Text.solid_of_mem_lowercase h.solid⟩

end Retrieval
