import Retrieval.Proofs.Text.Lowering
import Retrieval.Settings.Stages

/-!
Chains of the stages that come with the engine. A stage that lowers a token leaves nothing to be
lowered, and no stage behind it brings anything of the kind back: stems are cut from the lower case,
and the other stages keep a token as it is or discard it. So it does not matter where in a chain the
stage stands.
-/

namespace Retrieval

theorem Stemmer.mem_of_mem_cutEnding {c : Char} {cs : List Char} (h : c ∈ cutEnding cs) :
    c ∈ cs := by
  unfold cutEnding at h
  cases hcut : endings.findSome? fun ending => ending.isSuffixOf? cs with
  | none => rwa [hcut] at h
  | some stem =>
      rw [hcut] at h
      obtain ⟨ending, -, hending⟩ := List.exists_of_findSome?_eq_some hcut
      rw [← List.append_eq_of_isSuffixOf?_eq_some hending]
      exact List.mem_append_left _ h

namespace Builtin

def names : List String :=
  ["lowercase", "sstemmer", "s-stemmer", "stopwords", "remove-long"]

def loweringNames : List String :=
  ["lowercase", "sstemmer", "s-stemmer"]

def lowers : Builtin → Bool
  | lowercase => true
  | stemmer => true
  | stopwords _ => false
  | removeLong _ => false

/-- A stage that does not lower a token keeps it as it is or discards it. -/
theorem eq_of_process {builtin : Builtin} {token term : String} (hkeeps : builtin.lowers = false)
    (h : builtin.process token = some term) : term = token := by
  cases builtin with
  | lowercase => cases hkeeps
  | stemmer => cases hkeeps
  | stopwords list =>
      simp only [process, Option.ite_none_left_eq_some] at h
      exact (Option.some.inj h.2).symm
  | removeLong limit =>
      simp only [process, Option.ite_none_left_eq_some] at h
      exact (Option.some.inj h.2).symm

/-- After one stage a token is in lower case if the stage lowers it or it was so before. -/
theorem lowered_of_process {builtin : Builtin} {token term : String}
    (h : builtin.process token = some term)
    (hlowered : builtin.lowers ∨ ∀ c ∈ token.toList, Text.Lowered c) :
    ∀ c ∈ term.toList, Text.Lowered c := by
  cases builtin with
  | lowercase =>
      cases h
      exact Text.lowered_of_mem_lowercase
  | stemmer =>
      cases h
      intro c hc
      rw [Stemmer.stem] at hc
      split at hc
      · rw [String.toList_ofList] at hc
        exact Text.lowered_of_mem_lowercase c (Stemmer.mem_of_mem_cutEnding hc)
      · exact Text.lowered_of_mem_lowercase c hc
  | stopwords list =>
      rw [eq_of_process rfl h]
      exact hlowered.resolve_left Bool.false_ne_true
  | removeLong limit =>
      rw [eq_of_process rfl h]
      exact hlowered.resolve_left Bool.false_ne_true

theorem exists_ofName {limit : Nat} (hlimit : limit ≠ 0) {name : String}
    (h : Text.lowercase name ∈ names) :
    ∃ builtin, ofName limit name = .ok builtin ∧
      (Text.lowercase name ∈ loweringNames → builtin.lowers) := by
  unfold ofName
  generalize Text.lowercase name = lower at h ⊢
  simp only [names, List.mem_cons, List.not_mem_nil, or_false] at h
  rcases h with rfl | rfl | rfl | rfl | rfl
  · exact ⟨_, rfl, fun _ => rfl⟩
  · exact ⟨_, rfl, fun _ => rfl⟩
  · exact ⟨_, rfl, fun _ => rfl⟩
  · exact ⟨_, rfl, fun h => absurd h (by decide)⟩
  · exact ⟨_, if_neg hlimit, fun h => absurd h (by decide)⟩

end Builtin

namespace Pipeline

/-- After a chain a token is in lower case if one of the stages lowers it or it was so before. -/
theorem lowered_of_process {builtins : List Builtin} {token term : String}
    (h : (ofBuiltins builtins).process token = some term)
    (hlowered : (∃ builtin ∈ builtins, builtin.lowers) ∨ ∀ c ∈ token.toList, Text.Lowered c) :
    ∀ c ∈ term.toList, Text.Lowered c := by
  induction builtins generalizing token with
  | nil =>
      cases h
      exact hlowered.resolve_left (by simp)
  | cons builtin builtins ih =>
      obtain ⟨next, hnext, hterm⟩ := Option.bind_eq_some_iff.mp h
      refine ih hterm ?_
      obtain ⟨lowering, hmem, hlowers⟩ | htoken := hlowered
      · obtain rfl | hmem := List.mem_cons.mp hmem
        · exact .inr (Builtin.lowered_of_process hnext (.inl hlowers))
        · exact .inl ⟨lowering, hmem, hlowers⟩
      · exact .inr (Builtin.lowered_of_process hnext (.inr htoken))

/-- Stages that are known by their names make a chain. -/
theorem exists_ofNames {limit : Nat} (hlimit : limit ≠ 0) {names : List String}
    (h : ∀ name ∈ names, Text.lowercase name ∈ Builtin.names) :
    ∃ builtins, ofNames limit names = .ok (ofBuiltins builtins) ∧
      ((∃ name ∈ names, Text.lowercase name ∈ Builtin.loweringNames) →
        ∃ builtin ∈ builtins, builtin.lowers) := by
  suffices hbuiltins : ∃ builtins, names.mapM (Builtin.ofName limit) = .ok builtins ∧
      ((∃ name ∈ names, Text.lowercase name ∈ Builtin.loweringNames) →
        ∃ builtin ∈ builtins, builtin.lowers) by
    obtain ⟨builtins, hmap, hlowers⟩ := hbuiltins
    exact ⟨builtins, by rw [ofNames, hmap]; rfl, hlowers⟩
  induction names with
  | nil => exact ⟨[], rfl, by simp⟩
  | cons name names ih =>
      obtain ⟨hname, hnames⟩ := List.forall_mem_cons.mp h
      obtain ⟨builtin, hbuiltin, hlowers⟩ := Builtin.exists_ofName hlimit hname
      obtain ⟨builtins, hbuiltins, hlower⟩ := ih hnames
      refine ⟨builtin :: builtins, by rw [List.mapM_cons, hbuiltin, hbuiltins]; rfl, ?_⟩
      rintro ⟨other, hmem, hother⟩
      obtain rfl | hmem := List.mem_cons.mp hmem
      · exact ⟨builtin, List.mem_cons_self, hlowers hother⟩
      · obtain ⟨lowering, hlowering, hlowers⟩ := hlower ⟨other, hmem, hother⟩
        exact ⟨lowering, List.mem_cons_of_mem _ hlowering, hlowers⟩

end Pipeline

end Retrieval
