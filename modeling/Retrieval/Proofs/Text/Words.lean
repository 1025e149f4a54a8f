import Mathlib.Data.List.DropRight
import Retrieval.Text.Blank

/-!
Runs of characters and the words of a text. A run ends where the text after it begins with a
character of another kind, so that text can be taken off before the run is cut. Words are such runs:
those of a text with a blank in it are the words before the blank and those after it.
-/

namespace Retrieval.Text

/-! ### Runs -/

/-- Whether a run of characters ends before some text. -/
def Stops (p : Char → Bool) (rest : List Char) : Prop :=
  ∀ c ∈ rest.head?, p c = false

section

variable {p : Char → Bool} {rest : List Char}

/-- Characters of different kinds differ. -/
theorem ne_of_kind {c d : Char} (hc : p c) (hd : p d = false) : c ≠ d := by
  rintro rfl
  rw [hc] at hd
  cases hd

theorem stops_nil : Stops p [] := by
  intro c hc
  cases hc

theorem stops_cons {c : Char} (h : p c = false) : Stops p (c :: rest) := by
  intro d hd
  cases hd
  exact h

theorem takeWhile_append_of_stops (h : Stops p rest) (cs : List Char) :
    (cs ++ rest).takeWhile p = cs.takeWhile p := by
  induction cs with
  | nil =>
      cases rest with
      | nil => rfl
      | cons c rest => simp [h c rfl]
  | cons c cs ih => simp only [List.cons_append, List.takeWhile_cons, ih]

theorem dropWhile_append_of_stops (h : Stops p rest) (cs : List Char) :
    (cs ++ rest).dropWhile p = cs.dropWhile p ++ rest := by
  induction cs with
  | nil =>
      cases rest with
      | nil => rfl
      | cons c rest => simp [h c rfl]
  | cons c cs ih =>
      simp only [List.cons_append, List.dropWhile_cons, ih]
      split <;> rfl

theorem takeWhile_run {run : List Char} (hrun : ∀ c ∈ run, p c) (h : Stops p rest) :
    (run ++ rest).takeWhile p = run := by
  rw [takeWhile_append_of_stops h, List.takeWhile_eq_self_iff]
  exact hrun

theorem dropWhile_run {run : List Char} (hrun : ∀ c ∈ run, p c) (h : Stops p rest) :
    (run ++ rest).dropWhile p = rest := by
  rw [dropWhile_append_of_stops h, List.dropWhile_eq_nil_iff.mpr hrun, List.nil_append]

end

/-! ### Words -/

theorem isSolid_iff {c : Char} : isSolid c ↔ isBlank c = false := by
  simp [isSolid]

theorem isSolid_eq_false_iff {c : Char} : isSolid c = false ↔ isBlank c := by
  simp [isSolid]

theorem words_of_dropWhile_eq_nil {cs : List Char} (h : cs.dropWhile isBlank = []) :
    words cs = [] := by
  rw [words]
  split
  · rfl
  · rename_i hcons
    rw [h] at hcons
    cases hcons

theorem words_of_dropWhile_eq_cons {cs rest : List Char} {c : Char}
    (h : cs.dropWhile isBlank = c :: rest) :
    words cs = (c :: rest.takeWhile isSolid) :: words (rest.dropWhile isSolid) := by
  rw [words]
  split
  · rename_i hnil
    rw [h] at hnil
    cases hnil
  · rename_i hcons
    rw [h] at hcons
    cases hcons
    rfl

/-- White space before a text has no words. -/
theorem words_cons_blank {blank : Char} (h : isBlank blank) (cs : List Char) :
    words (blank :: cs) = words cs := by
  have hdrop : (blank :: cs).dropWhile isBlank = cs.dropWhile isBlank := by
    rw [List.dropWhile_cons, if_pos h]
  cases hcs : cs.dropWhile isBlank with
  | nil => rw [words_of_dropWhile_eq_nil (hdrop.trans hcs), words_of_dropWhile_eq_nil hcs]
  | cons c rest =>
      rw [words_of_dropWhile_eq_cons (hdrop.trans hcs), words_of_dropWhile_eq_cons hcs]

/-- A blank ends a word. -/
theorem words_append_blank {blank : Char} (h : isBlank blank) (cs rest : List Char) :
    words (cs ++ blank :: rest) = words cs ++ words rest := by
  have hstops : Stops isSolid (blank :: rest) := stops_cons (isSolid_eq_false_iff.mpr h)
  -- Along the words before the blank; the last of them may reach up to it.
  fun_induction words cs with
  | case1 cs hnil =>
      have hblank : ∀ c ∈ cs, isBlank c := List.dropWhile_eq_nil_iff.mp hnil
      clear hnil
      induction cs with
      | nil => exact words_cons_blank h rest
      | cons c cs ih =>
          obtain ⟨hc, hcs⟩ := List.forall_mem_cons.mp hblank
          rw [List.cons_append, words_cons_blank hc]
          exact ih hcs
  | case2 cs c after hcons ih =>
      have hdrop : (cs ++ blank :: rest).dropWhile isBlank = c :: (after ++ blank :: rest) := by
        rw [List.dropWhile_append, hcons]
        rfl
      rw [words_of_dropWhile_eq_cons hdrop, takeWhile_append_of_stops hstops,
        dropWhile_append_of_stops hstops, ih]
      rfl

theorem words_run {word : List Char} (hne : word ≠ []) (h : ∀ c ∈ word, isSolid c) :
    words word = [word] := by
  obtain ⟨c, rest, rfl⟩ := List.exists_cons_of_ne_nil hne
  obtain ⟨hc, hrest⟩ := List.forall_mem_cons.mp h
  have hdrop : (c :: rest).dropWhile isBlank = c :: rest := by
    rw [List.dropWhile_cons, isSolid_iff.mp hc, if_neg Bool.false_ne_true]
  rw [words_of_dropWhile_eq_cons hdrop, List.takeWhile_eq_self_iff.mpr hrest,
    List.dropWhile_eq_nil_iff.mpr hrest, words_of_dropWhile_eq_nil rfl]

theorem mem_intercalate {c : Char} {terms : List (List Char)} (h : c ∈ [' '].intercalate terms) :
    c = ' ' ∨ ∃ term ∈ terms, c ∈ term := by
  induction terms with
  | nil => cases h
  | cons term terms ih =>
      cases terms with
      | nil =>
          rw [List.intercalate_singleton] at h
          exact .inr ⟨term, List.mem_cons_self, h⟩
      | cons next terms =>
          rw [List.intercalate_cons_cons, List.mem_append, List.mem_append] at h
          obtain (h | h) | h := h
          · exact .inr ⟨term, List.mem_cons_self, h⟩
          · exact .inl (List.mem_singleton.mp h)
          · obtain hspace | ⟨other, hother, hmem⟩ := ih h
            · exact .inl hspace
            · exact .inr ⟨other, List.mem_cons_of_mem _ hother, hmem⟩

/-- Words are found again after they were joined by spaces. -/
theorem words_intercalate {terms : List (List Char)}
    (h : ∀ term ∈ terms, term ≠ [] ∧ ∀ c ∈ term, isSolid c) :
    words ([' '].intercalate terms) = terms := by
  induction terms with
  | nil => exact words_of_dropWhile_eq_nil rfl
  | cons term terms ih =>
      obtain ⟨⟨hne, hsolid⟩, hterms⟩ := List.forall_mem_cons.mp h
      cases terms with
      | nil =>
          rw [List.intercalate_singleton]
          exact words_run hne hsolid
      | cons next terms =>
          rw [List.intercalate_cons_cons, List.append_assoc, List.singleton_append,
            words_append_blank rfl, words_run hne hsolid, ih hterms]
          rfl

theorem isBlank_of_dropWhile {cs rest : List Char} {c : Char}
    (h : cs.dropWhile isBlank = c :: rest) : isBlank c = false := by
  have hc := List.head?_dropWhile_not isBlank cs
  rw [h] at hc
  simpa using hc

theorem solid_of_mem_words {cs word : List Char} (h : word ∈ words cs) :
    word ≠ [] ∧ ∀ c ∈ word, isSolid c := by
  fun_induction words cs with
  | case1 cs hnil => cases h
  | case2 cs c rest hcons ih =>
      obtain rfl | h := List.mem_cons.mp h
      · have hc := isSolid_iff.mpr (isBlank_of_dropWhile hcons)
        exact ⟨List.cons_ne_nil _ _,
          List.forall_mem_cons.mpr ⟨hc, fun d => List.mem_takeWhile_imp⟩⟩
      · exact ih h

theorem mem_of_mem_words {c : Char} {cs word : List Char} (h : word ∈ words cs) (hc : c ∈ word) :
    c ∈ cs := by
  fun_induction words cs with
  | case1 cs hnil => cases h
  | case2 cs d rest hcons ih =>
      have hsub : d :: rest ⊆ cs := hcons ▸ (List.dropWhile_sublist isBlank).subset
      obtain rfl | h := List.mem_cons.mp h
      · exact hsub (List.cons_subset_cons d (List.takeWhile_sublist isSolid).subset hc)
      · exact hsub (List.mem_cons_of_mem d ((List.dropWhile_sublist isSolid).subset (ih h)))

end Retrieval.Text

namespace Retrieval

structure IsSolid (text : String) : Prop where
  ne_empty : text ≠ ""
  solid : ∀ c ∈ text.toList, Text.isSolid c

theorem IsSolid.ofList {cs : List Char} (hne : cs ≠ []) (h : ∀ c ∈ cs, Text.isSolid c) :
    IsSolid (String.ofList cs) := by
  refine ⟨?_, ?_⟩
  · intro hempty
    rw [← String.toList_eq_nil_iff, String.toList_ofList] at hempty
    exact hne hempty
  · rwa [String.toList_ofList]

theorem Text.splitWords_intercalate {terms : List String} (h : ∀ term ∈ terms, IsSolid term) :
    splitWords (" ".intercalate terms) = terms := by
  have hterms : ∀ term ∈ terms.map String.toList, term ≠ [] ∧ ∀ c ∈ term, isSolid c := by
    intro term hterm
    obtain ⟨text, htext, rfl⟩ := List.mem_map.mp hterm
    obtain ⟨hne, hsolid⟩ := h text htext
    exact ⟨fun hnil => hne (String.toList_eq_nil_iff.mp hnil), hsolid⟩
  rw [splitWords, String.toList_intercalate]
  have hspace : " ".toList = [' '] := rfl
  rw [hspace, words_intercalate hterms, List.map_map]
  simp

theorem isSolid_of_mem_splitWords {text word : String} (h : word ∈ Text.splitWords text) :
    IsSolid word := by
  obtain ⟨cs, hcs, rfl⟩ := List.mem_map.mp h
  obtain ⟨hne, hsolid⟩ := Text.solid_of_mem_words hcs
  exact .ofList hne hsolid

theorem Text.mem_of_mem_splitWords {c : Char} {text word : String} (h : word ∈ splitWords text)
    (hc : c ∈ word.toList) : c ∈ text.toList := by
  obtain ⟨cs, hcs, rfl⟩ := List.mem_map.mp h
  rw [String.toList_ofList] at hc
  exact mem_of_mem_words hcs hc

end Retrieval
