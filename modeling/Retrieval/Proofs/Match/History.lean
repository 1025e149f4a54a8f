import Mathlib.Data.List.DropRight
import Mathlib.Data.List.Induction
import Retrieval.Proofs.Match.Merging

/-!
What a collection remembers. Adding and removing are told key by key: a key is held from the first
time that it is added, each later addition is merged into the first one, and removing the key takes
all of this back, so that a key that is added again begins anew and stands behind the others. What
happens to one key leaves no trace in what is held for another.
-/

namespace Retrieval

/-! ### Terms that are merged -/

namespace MatchTerm

/-- A term that was added first and took in later additions of its key: it is the first one, with
the weights summed in the order of the additions and with the tags of all of them. -/
structure Gathers (term first : MatchTerm) (later : List MatchTerm) : Prop where
  operator : term.operator = first.operator
  required : term.required = first.required
  models : term.models = first.models
  statistics : term.statistics = first.statistics
  weight : term.weight = (later.map MatchTerm.weight).foldl (· + ·) first.weight
  tags : ∀ tag, tag ∈ term.tags ↔ ∃ added ∈ first :: later, tag ∈ added.tags

theorem gathers_foldl_merge (first : MatchTerm) (later : List MatchTerm) :
    (later.foldl merge first).Gathers first later := by
  -- Merging is from the left, so it is the last addition that is taken off.
  induction later using List.reverseRecOn with
  | nil => exact ⟨rfl, rfl, rfl, rfl, rfl, by simp⟩
  | append_singleton later last ih =>
      rw [List.foldl_append, List.foldl_cons, List.foldl_nil]
      refine ⟨ih.operator, ih.required, ih.models, ih.statistics, ?_, fun tag => ?_⟩
      · rw [List.map_append, List.foldl_append, ← ih.weight]
        rfl
      · change tag ∈ (later.foldl merge first).tags ∪ last.tags ↔ _
        rw [Std.ExtTreeSet.mem_union_iff, ih.tags]
        simp only [List.mem_cons, List.mem_append, List.not_mem_nil, or_false]
        grind

@[simp] theorem mergeAll?_nil : mergeAll? [] = none := rfl

theorem mergeAll?_cons (first : MatchTerm) (later : List MatchTerm) :
    mergeAll? (first :: later) = some (later.foldl merge first) := by
  induction later using List.reverseRecOn with
  | nil => rfl
  | append_singleton later last ih =>
      rw [mergeAll?, ← List.cons_append, List.foldl_append, ← mergeAll?, ih, List.foldl_append]
      rfl

theorem mergeAll?_concat (terms : List MatchTerm) (last : MatchTerm) :
    mergeAll? (terms ++ [last]) = some ((mergeAll? terms).elim last (·.merge last)) := by
  rw [mergeAll?, List.foldl_append]
  rfl

end MatchTerm

namespace Collection

/-! ### What one change does -/

variable {c : Collection}

theorem Indexed.positions_eq_none_iff (h : c.Indexed) {key : String} :
    c.positions[key]? = none ↔ key ∉ c.keys := by
  rw [List.mem_iff_getElem?, Option.eq_none_iff_forall_ne_some, not_exists]
  exact forall_congr' fun i => not_congr (h key i)

theorem Indexed.get?_eq_none_iff (h : c.Indexed) {key : String} :
    c.get? key = none ↔ key ∉ c.keys := by
  rw [h.get?_eq, List.find?_eq_none, keys, List.mem_map]
  simp

theorem Indexed.get?_of_mem (h : c.Indexed) {term : MatchTerm} (hmem : term ∈ c.terms) :
    c.get? term.key = some term := by
  obtain ⟨i, hi⟩ := List.mem_iff_getElem?.mp hmem
  have hposition : c.positions[term.key]? = some i := by
    rw [h, keys, List.getElem?_map, hi]
    rfl
  rw [get?, hposition, Option.bind_some, hi]

theorem Indexed.keys_add (h : c.Indexed) (term : MatchTerm) :
    (c.add term).keys = if term.key ∈ c.keys then c.keys else c.keys ++ [term.key] := by
  unfold Collection.add
  cases hposition : c.positions[term.key]? with
  | none =>
      rw [if_neg (h.positions_eq_none_iff.mp hposition)]
      simp [keys]
  | some position =>
      have hmem : term.key ∈ c.keys := List.mem_of_getElem? ((h _ _).mp hposition)
      rw [if_pos hmem]
      exact map_key_modify (fun first => MatchTerm.key_merge first term) c.terms position

theorem getElem?_place (term : MatchTerm) : c.terms[c.place term]? = c.get? term.key := by
  unfold place get?
  cases c.positions[term.key]? with
  | none => exact List.getElem?_eq_none (Nat.le_refl _)
  | some position => rfl

theorem Indexed.place_ne (h : c.Indexed) {term : MatchTerm} {key : String} {position : Nat}
    (hne : term.key ≠ key) (hposition : c.positions[key]? = some position) :
    c.place term ≠ position := by
  rintro rfl
  have hkey := (h _ _).mp hposition
  rw [keys, List.getElem?_map, getElem?_place, Option.map_eq_some_iff] at hkey
  obtain ⟨held, hheld, rfl⟩ := hkey
  rw [h.get?_eq] at hheld
  simpa [hne.symm] using List.find?_some hheld

/-- Adding a term changes what is held for its own key only. -/
theorem Indexed.get?_add (h : c.Indexed) (term : MatchTerm) (key : String) :
    (c.add term).get? key =
      if term.key = key then some ((c.get? key).elim term (·.merge term)) else c.get? key := by
  split
  · rename_i hkey
    subst hkey
    rw [get?, positions_add, Option.bind_some, h.getElem?_add, if_pos rfl, getElem?_place]
  · rename_i hne
    rw [get?, get?, positions_add_of_ne hne]
    cases hposition : c.positions[key]? with
    | none => rfl
    | some position =>
        rw [Option.bind_some, Option.bind_some, h.getElem?_add, if_neg (h.place_ne hne hposition)]

/-- Where keys are not repeated, taking out one place takes out the terms with its key. -/
theorem eraseIdx_eq_filter {terms : List MatchTerm} (hnodup : (terms.map MatchTerm.key).Nodup)
    {i : Nat} {term : MatchTerm} (hi : terms[i]? = some term) :
    terms.eraseIdx i = terms.filter fun other => other.key ≠ term.key := by
  induction terms generalizing i with
  | nil => cases hi
  | cons head terms ih =>
      rw [List.map_cons, List.nodup_cons, List.mem_map, not_exists] at hnodup
      obtain ⟨hhead, hterms⟩ := hnodup
      cases i with
      | zero =>
          cases hi
          have hrest : (terms.filter fun other => other.key ≠ term.key) = terms := by
            rw [List.filter_eq_self]
            intro other hmem
            simpa using fun hkey => hhead other ⟨hmem, hkey⟩
          rw [List.eraseIdx_cons_zero, List.filter_cons, hrest]
          simp
      | succ i =>
          have hne : head.key ≠ term.key := fun hkey =>
            hhead term ⟨List.mem_of_getElem? hi, hkey.symm⟩
          rw [List.eraseIdx_cons_succ, ih hterms hi, List.filter_cons, if_pos (by simpa using hne)]

/-- Removing a key takes its term out of the list, wherever it stands. -/
theorem Indexed.terms_remove (h : c.Indexed) (key : String) :
    (c.apply (.remove key)).terms = c.terms.filter fun term => term.key ≠ key := by
  cases hsearch : c.search? key with
  | none =>
      have habsent := List.findIdx?_eq_none_iff.mp hsearch
      rw [(h.actsBySearch key).unchanged hsearch (.remove key) rfl, eq_comm, List.filter_eq_self]
      intro term hmem
      simpa using habsent term hmem
  | some position =>
      obtain ⟨term, rest, hremove, hterm, -, hterms, -⟩ := h.remove?_found hsearch
      have hkey : term.key = key := by
        obtain ⟨hlt, hfound, -⟩ := List.findIdx?_eq_some_iff_getElem.mp hsearch
        rw [List.getElem?_eq_getElem hlt, Option.some_inj] at hterm
        simpa [hterm] using hfound
      have hrest : c.apply (.remove key) = rest := by
        rw [Collection.apply, hremove]
        rfl
      rw [hrest, hterms, eraseIdx_eq_filter h.nodup hterm, hkey]

theorem Indexed.keys_remove (h : c.Indexed) (key : String) :
    (c.apply (.remove key)).keys = c.keys.filter (· ≠ key) := by
  rw [keys, h.terms_remove, keys, List.filter_map]
  rfl

/-- Removing a key changes what is held for this key only. -/
theorem Indexed.get?_remove (h : c.Indexed) (removed key : String) :
    (c.apply (.remove removed)).get? key = if removed = key then none else c.get? key := by
  rw [(h.apply (.remove removed)).get?_eq, h.terms_remove, List.find?_filter]
  split
  · rename_i hkey
    subst hkey
    simp
  · rename_i hne
    rw [h.get?_eq]
    congr 1
    funext term
    by_cases hterm : term.key = key <;> simp [hterm, Ne.symm hne]

/-! ### Histories -/

inductive Change where
  | add (term : MatchTerm)
  | remove (key : String)

namespace Change

def key : Change → String
  | add term => term.key
  | remove key => key

def added? : Change → Option MatchTerm
  | add term => some term
  | remove _ => none

def operation : Change → Operation
  | add term => .add term
  | remove key => .remove key

end Change

def replay (queryId : Option String) (changes : List Change) : Collection :=
  run { queryId } (changes.map Change.operation)

/-- The additions of a key since it was last removed, each with its time: its place among all
changes. -/
def additions (changes : List Change) (key : String) : List (MatchTerm × Nat) :=
  ((changes.zipIdx.filter fun entry => entry.1.key = key).rtakeWhile fun entry =>
    entry.1.added?.isSome).filterMap fun entry => entry.1.added?.map (·, entry.2)

/-- The time of the first addition of a key since it was last removed. -/
def openedAt? (changes : List Change) (key : String) : Option Nat :=
  (additions changes key).head?.map Prod.snd

section

variable (queryId : Option String) (changes : List Change)

theorem indexed_replay : (replay queryId changes).Indexed := by
  have hempty : Indexed { queryId } := locates_empty
  exact hempty.run _

theorem replay_concat (change : Change) :
    replay queryId (changes ++ [change]) = (replay queryId changes).apply change.operation := by
  rw [replay, List.map_append, run, List.foldl_append]
  rfl

theorem additions_add (term : MatchTerm) (key : String) :
    additions (changes ++ [.add term]) key =
      if term.key = key then additions changes key ++ [(term, changes.length)]
      else additions changes key := by
  rw [additions, List.zipIdx_append, List.filter_append]
  by_cases hkey : term.key = key
  · simp [additions, Change.key, hkey, Change.added?]
  · simp [additions, Change.key, hkey]

theorem additions_remove (removed key : String) :
    additions (changes ++ [.remove removed]) key =
      if removed = key then [] else additions changes key := by
  rw [additions, List.zipIdx_append, List.filter_append]
  by_cases hkey : removed = key
  · simp [Change.key, hkey, Change.added?]
  · simp [additions, Change.key, hkey]

/-- What is held for a key is what was added under it since it was last removed. -/
theorem get?_replay (key : String) :
    (replay queryId changes).get? key =
      MatchTerm.mergeAll? ((additions changes key).map Prod.fst) := by
  induction changes using List.reverseRecOn with
  | nil => rfl
  | append_singleton changes change ih =>
      rw [replay_concat]
      cases change with
      | add term =>
          rw [Change.operation, apply, (indexed_replay _ _).get?_add, additions_add, ih]
          split
          · rw [List.map_append, List.map_singleton, MatchTerm.mergeAll?_concat]
          · rfl
      | remove removed =>
          rw [Change.operation, (indexed_replay _ _).get?_remove, additions_remove, ih]
          split <;> rfl

/-- Only its removal ends what was added for a key. -/
theorem additions_append_ne_nil {key : String} (h : additions changes key ≠ [])
    {after : List Change} (hafter : .remove key ∉ after) :
    additions (changes ++ after) key ≠ [] := by
  induction after using List.reverseRecOn with
  | nil => rwa [List.append_nil]
  | append_singleton after change ih =>
      rw [List.mem_append, List.mem_singleton, not_or] at hafter
      rw [← List.append_assoc]
      cases change with
      | add term =>
          rw [additions_add]
          split
          · exact List.append_ne_nil_of_right_ne_nil _ (List.cons_ne_nil _ _)
          · exact ih hafter.1
      | remove removed =>
          have hne : removed ≠ key := by
            rintro rfl
            exact hafter.2 rfl
          rw [additions_remove, if_neg hne]
          exact ih hafter.1

/-- There are additions of a key exactly if one comes after all its removals. -/
theorem additions_ne_nil_iff {key : String} :
    additions changes key ≠ [] ↔ ∃ before term after, changes = before ++ .add term :: after ∧
      term.key = key ∧ .remove key ∉ after := by
  constructor
  · intro hne
    induction changes using List.reverseRecOn with
    | nil => exact absurd rfl hne
    | append_singleton changes change ih =>
        cases change with
        | add added =>
            rw [additions_add] at hne
            split at hne
            · rename_i hkey
              exact ⟨changes, added, [], rfl, hkey, List.not_mem_nil⟩
            · obtain ⟨before, term, after, rfl, hkey, hafter⟩ := ih hne
              exact ⟨before, term, after ++ [.add added], by simp, hkey, by simpa using hafter⟩
        | remove removed =>
            rw [additions_remove] at hne
            split at hne
            · exact absurd rfl hne
            · rename_i hother
              obtain ⟨before, term, after, rfl, hkey, hafter⟩ := ih hne
              refine ⟨before, term, after ++ [.remove removed], by simp, hkey, ?_⟩
              simpa [Ne.symm hother] using hafter
  · rintro ⟨before, term, after, rfl, rfl, hafter⟩
    have hadded : additions (before ++ [.add term]) term.key ≠ [] := by
      rw [additions_add, if_pos rfl]
      exact List.append_ne_nil_of_right_ne_nil _ (List.cons_ne_nil _ _)
    simpa using additions_append_ne_nil _ hadded hafter

theorem mem_keys_replay {key : String} :
    key ∈ (replay queryId changes).keys ↔ additions changes key ≠ [] := by
  rw [← not_iff_not, not_ne_iff, ← (indexed_replay _ _).get?_eq_none_iff, get?_replay]
  cases additions changes key with
  | nil => simp
  | cons first later => simp [MatchTerm.mergeAll?_cons]

theorem exists_openedAt?_iff {key : String} :
    (∃ time, openedAt? changes key = some time) ↔ additions changes key ≠ [] := by
  rw [openedAt?]
  cases additions changes key <;> simp

theorem lt_length_of_openedAt? {key : String} {time : Nat}
    (h : openedAt? changes key = some time) : time < changes.length := by
  obtain ⟨entry, hentry, rfl⟩ := Option.map_eq_some_iff.mp h
  obtain ⟨change, hchange, hadded⟩ := List.mem_filterMap.mp (List.mem_of_head? hentry)
  obtain ⟨term, -, rfl⟩ := Option.map_eq_some_iff.mp hadded
  have hmem := List.mem_of_mem_filter ((List.rtakeWhile_suffix ..).subset hchange)
  simpa using List.snd_lt_of_mem_zipIdx hmem

/-- A key that is held stays as old as it is when terms are added. -/
theorem openedAt?_add {key : String} {time : Nat} (h : openedAt? changes key = some time)
    (term : MatchTerm) : openedAt? (changes ++ [.add term]) key = some time := by
  rw [openedAt?, additions_add]
  split
  · rw [List.head?_append_of_ne_nil]
    · exact h
    · intro hnil
      rw [openedAt?, hnil] at h
      cases h
  · exact h

/-- The terms stand in the order in which their keys were first added. -/
theorem pairwise_keys_replay :
    (replay queryId changes).keys.Pairwise fun key other => ∃ time time',
      openedAt? changes key = some time ∧ openedAt? changes other = some time' ∧ time < time' := by
  induction changes using List.reverseRecOn with
  | nil => exact List.Pairwise.nil
  | append_singleton changes change ih =>
      rw [replay_concat]
      cases change with
      | add term =>
          have hkept : (replay queryId changes).keys.Pairwise fun key other => ∃ time time',
              openedAt? (changes ++ [.add term]) key = some time ∧
                openedAt? (changes ++ [.add term]) other = some time' ∧ time < time' := by
            refine ih.imp ?_
            rintro key other ⟨time, time', htime, htime', hlt⟩
            exact ⟨time, time', openedAt?_add changes htime term, openedAt?_add changes htime' term,
              hlt⟩
          rw [Change.operation, apply, (indexed_replay _ _).keys_add]
          split
          · exact hkept
          · rename_i hnew
            rw [mem_keys_replay, not_ne_iff] at hnew
            rw [List.pairwise_append]
            refine ⟨hkept, List.pairwise_singleton .., ?_⟩
            intro key hkey other hother
            obtain rfl := List.mem_singleton.mp hother
            obtain ⟨time, htime⟩ := (exists_openedAt?_iff changes).mpr
              ((mem_keys_replay queryId changes).mp hkey)
            refine ⟨time, changes.length, openedAt?_add changes htime term, ?_,
              lt_length_of_openedAt? changes htime⟩
            rw [openedAt?, additions_add, if_pos rfl, hnew]
            rfl
      | remove removed =>
          rw [Change.operation, (indexed_replay _ _).keys_remove]
          refine (ih.filter _).imp_of_mem ?_
          rintro key other hkey hother hopened
          have hkept : ∀ held ∈ (replay queryId changes).keys.filter (· ≠ removed),
              openedAt? (changes ++ [.remove removed]) held = openedAt? changes held := by
            intro held hheld
            have hne : held ≠ removed := by simpa using (List.mem_filter.mp hheld).2
            rw [openedAt?, additions_remove, if_neg hne.symm]
            rfl
          rw [hkept key hkey, hkept other hother]
          exact hopened

/-- The additions of a key are all about this key. -/
theorem map_fst_additions (key : String) :
    (additions changes key).map Prod.fst =
      ((changes.filter fun change => change.key = key).rtakeWhile fun change =>
        change.added?.isSome).filterMap Change.added? := by
  induction changes using List.reverseRecOn with
  | nil => rfl
  | append_singleton changes change ih =>
      rw [List.filter_append]
      cases change with
      | add term =>
          rw [additions_add]
          by_cases hkey : term.key = key <;> simp [Change.key, hkey, Change.added?, ih]
      | remove removed =>
          rw [additions_remove]
          by_cases hkey : removed = key <;> simp [Change.key, hkey, Change.added?, ih]

theorem gathers_of_get?_replay {key : String} {term : MatchTerm}
    (h : (replay queryId changes).get? key = some term) :
    ∃ first later, (additions changes key).map Prod.fst = first :: later ∧
      term.Gathers first later := by
  rw [get?_replay] at h
  cases hadded : (additions changes key).map Prod.fst with
  | nil =>
      rw [hadded] at h
      cases h
  | cons first later =>
      rw [hadded, MatchTerm.mergeAll?_cons, Option.some_inj] at h
      refine ⟨first, later, rfl, ?_⟩
      rw [← h]
      exact MatchTerm.gathers_foldl_merge first later

end

/-- After any changes of an empty collection, a key is held exactly if it was added after it was
last removed. Its term is the first one that was added since, with the weights and the tags of all
of them. The terms stand in the order of these first additions. What is held for a key depends on
the changes of this key alone. -/
theorem replay_remembers (queryId : Option String) (changes : List Change) :
    let c := replay queryId changes
    (∀ key, key ∈ c.keys ↔ ∃ before term after, changes = before ++ .add term :: after ∧
      term.key = key ∧ .remove key ∉ after) ∧
    (∀ term ∈ c.terms, c.get? term.key = some term ∧ ∃ first later,
      (additions changes term.key).map Prod.fst = first :: later ∧ term.Gathers first later) ∧
    c.keys.Pairwise (fun key other => ∃ time time', openedAt? changes key = some time ∧
      openedAt? changes other = some time' ∧ time < time') ∧
    ∀ (key : String) (others : List Change),
      (others.filter fun change => change.key = key) =
          changes.filter (fun change => change.key = key) →
        (replay queryId others).get? key = c.get? key := by
  intro c
  refine ⟨?_, ?_, pairwise_keys_replay queryId changes, ?_⟩
  · intro key
    rw [mem_keys_replay, additions_ne_nil_iff]
  · intro term hmem
    have hget := (indexed_replay queryId changes).get?_of_mem hmem
    exact ⟨hget, gathers_of_get?_replay queryId changes hget⟩
  · intro key others hothers
    rw [get?_replay, get?_replay, map_fst_additions, map_fst_additions, hothers]

/-- A key that was removed begins anew: behind the others, and with nothing of its earlier term. -/
example : (replay none [.add { operator := .term "a", weight := 2, required := some true },
    .add { operator := .term "b" }, .remove "a", .add { operator := .term "a", weight := 0.5 },
    .add { operator := .term "a", required := some false }]).terms.map
      (fun term => (term.key, term.weight, term.required)) =
    [("b", 1, none), ("a", 1.5, none)] := by
  decide +kernel

end Collection

end Retrieval
