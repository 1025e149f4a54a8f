import Retrieval.Proofs.Query.Places
import Retrieval.Proofs.Query.RoundTrip

/-!
What is read from a text. A text is a query if the tokens that it is cut into spell the clauses of
the query. Of these tokens, a term and the name of a field are never empty and hold no white space
and no mark of the language, and a phrase holds no quote. A word that stands alone is a query of one
term.
-/

namespace Retrieval

/-! ### Tokens -/

/-- What a lexeme may spell: terms and names of fields that are bare, the content of a phrase
without quotes, and windows of limited size. -/
def Token.Scanned : Token → Prop
  | term text => IsBare text.toList
  | field name => IsBare name.toList
  | phrase content => '"' ∉ content.toList
  | window size => size < Lexeme.windowLimit
  | _ => True

theorem IsBare.isSolid {text : String} (h : IsBare text.toList) : IsSolid text where
  ne_empty hempty := h.ne_nil (String.toList_eq_nil_iff.mpr hempty)
  solid c hc := Text.isSolid_iff.mpr (h.solid c hc)

theorem IsBare.colon_not_mem {cs : List Char} (h : IsBare cs) : ':' ∉ cs :=
  fun hmem => h.unmarked ':' hmem (by simp)

theorem Token.Spells.scanned {chars : List Char} {token : Token} (h : token.Spells chars) :
    token.Scanned := by
  cases h with
  | term _ hword => rwa [Scanned, String.toList_ofList]
  | field _ hword => rwa [Scanned, String.toList_ofList]
  | phrase hcontent => rwa [Scanned, String.toList_ofList]
  | window _ _ hsize => exact hsize
  | _ => trivial

namespace Lexes

theorem blanks {blanks cs : List Char} {tokens : List Token}
    (hblanks : ∀ c ∈ blanks, Text.isBlank c) (h : Lexes cs tokens) :
    Lexes (blanks ++ cs) tokens := by
  induction blanks with
  | nil => exact h
  | cons c blanks ih =>
      obtain ⟨hc, hblanks⟩ := List.forall_mem_cons.mp hblanks
      exact .blank hc (ih hblanks)

theorem of_dropWhile {cs : List Char} {tokens : List Token}
    (h : Lexes (cs.dropWhile Text.isBlank) tokens) : Lexes cs tokens := by
  have hblanks : ∀ c ∈ cs.takeWhile Text.isBlank, Text.isBlank c := fun c => List.mem_takeWhile_imp
  have hcs := blanks hblanks h
  rwa [List.takeWhile_append_dropWhile] at hcs

/-- The tokens that are found with their places are those that the text is cut into. -/
theorem of_locate {position : Nat} {cs : List Char} {located : List Located}
    (h : locate position cs = .ok located) : Lexes cs (located.map Located.token) := by
  fun_induction locate position cs generalizing located with
  | case1 position cs hnil =>
      cases h
      exact of_dropWhile (hnil ▸ .nil)
  | case2 => cases h
  | case3 position cs c rest hcons lexeme start span hscan =>
      rename_i ih
      have hsolid := Text.isBlank_of_dropWhile hcons
      exact of_dropWhile (hcons ▸ .skip hsolid hscan (ih h))
  | case4 position cs c rest hcons lexeme start span token hscan =>
      rename_i ih
      obtain ⟨after, hafter, rfl⟩ := Except.map_eq_ok_iff.mp h
      have hsolid := Text.isBlank_of_dropWhile hcons
      exact of_dropWhile (hcons ▸ .token hsolid hscan (ih hafter))

theorem scanned {cs : List Char} {tokens : List Token} (h : Lexes cs tokens) :
    ∀ token ∈ tokens, token.Scanned := by
  induction h with
  | nil => exact List.forall_mem_nil _
  | blank _ _ ih => exact ih
  | skip _ _ _ ih => exact ih
  | token hc hscan _ ih =>
      exact List.forall_mem_cons.mpr ⟨(Lexeme.spells_scan hc hscan).scanned, ih⟩

end Lexes

/-! ### Queries -/

namespace Query

/-- A text is read as a query if it is cut into tokens that spell the clauses of the query. -/
theorem parse_eq_ok_iff {text : String} {query : Query} :
    parse text = .ok query ↔ ∃ segments, List.Forall₂ Clause.Spells segments query.clauses ∧
      Lexes text.toList segments.flatten := by
  constructor
  · intro h
    unfold parse at h
    split at h
    · cases h
    · rename_i tokens htokens
      split at h
      · rename_i clauses hclauses
        cases h
        obtain ⟨parts, rfl, hspells⟩ := Clause.exists_split_of_ofTokens hclauses
        refine ⟨parts.map (List.map Located.token), List.forall₂_map_left_iff.mpr hspells, ?_⟩
        rw [← List.map_flatten]
        exact .of_locate (locate_of_locateTokens htokens)
      · cases h
  · rintro ⟨segments, hspells, hlexes⟩
    obtain ⟨located, hlocated, htokens⟩ := hlexes.locate_eq 0
    rw [parse, locateTokens, hlocated]
    simp only [Clause.ofTokens_of_segments hspells htokens]

/-- Every clause that is read is spelt by tokens of the text. -/
theorem spells_of_parse {text : String} {query : Query} (h : parse text = .ok query) :
    ∀ clause ∈ query.clauses, ∃ tokens : List Token,
      (∀ token ∈ tokens, token.Scanned) ∧ Clause.Spells tokens clause := by
  obtain ⟨segments, hspells, hlexes⟩ := parse_eq_ok_iff.mp h
  intro clause hclause
  obtain ⟨i, hi, rfl⟩ := List.getElem_of_mem hclause
  have hsegment : i < segments.length := by
    rwa [hspells.length_eq]
  refine ⟨segments[i], fun token htoken => ?_, hspells.get hsegment hi⟩
  exact hlexes.scanned token (List.mem_flatten_of_mem (List.getElem_mem hsegment) htoken)

/-- A word is read as a query of one term. -/
theorem parse_word {word : String} (h : IsWord word) :
    parse word = .ok ⟨[.ofPattern (.term word)]⟩ := by
  have hlexes : Lexes word.toList [.term word] := by
    simpa using Lexes.term h Text.stops_nil Lexes.nil
  have hspells : Clause.Spells [.term word] (.ofPattern (.term word)) :=
    Clause.Spells.parts none none none (.term word)
  exact parse_eq_ok_iff.mpr ⟨[[.term word]], .cons hspells .nil, hlexes⟩

end Query

end Retrieval
