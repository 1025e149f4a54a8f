import Mathlib.Data.List.Forall2
import Mathlib.Data.List.TakeWhile
import Retrieval.Proofs.Outcome
import Retrieval.Query.Parse

/-!
The grammar of queries. A chain of clauses is spelt by segments of tokens, one for each clause: a
sign, a field, an operand and a weight, of which only the operand must be there. The grammar says
nothing of how tokens are read. Since no segment begins with a weight or a window, a reader that
takes these whenever they come cuts the tokens where the grammar does, and there is only one way
to cut them.
-/

namespace Retrieval

/-! ### What tokens spell -/

/-- The pattern that the tokens of an operand spell. -/
inductive Pattern.Spells : List Token → Pattern → Prop
  | term (text : String) : Spells [.term text] (.term text)
  | word {content word : String} (h : Text.splitWords content = [word]) :
      Spells [.phrase content] (.term word)
  | phrase {content : String} (h : 2 ≤ (Text.splitWords content).length) :
      Spells [.phrase content] (.phrase (Text.splitWords content) none)
  | window {content : String} (size : Nat) (h : Text.splitWords content ≠ []) :
      Spells [.phrase content, .window size] (.phrase (Text.splitWords content) (some size))
  | group {terms : List String} (h : terms ≠ []) :
      Spells (.openBrace :: (terms.map Token.term ++ [.closeBrace])) (.synonym terms)

def Token.ofSign : Option Bool → List Token
  | none => []
  | some true => [.plus]
  | some false => [.minus]

def Token.ofField (name : Option String) : List Token :=
  (name.map Token.field).toList

def Token.ofWeight (factor : Option Float) : List Token :=
  (factor.map Token.weight).toList

def Clause.inField (name : Option String) (pattern : Pattern) (weight : Float) : Clause :=
  name.elim (leaf pattern weight) (field · (leaf pattern weight))

def Clause.weightOf (factor : Option Float) : Float :=
  factor.elim defaultWeight (defaultWeight * ·)

def Clause.signed (sign : Option Bool) (clause : Clause) : Clause :=
  sign.elim clause (required · clause)

/-- The clause that the tokens of a segment spell. -/
inductive Clause.Spells : List Token → Clause → Prop
  | parts (sign : Option Bool) (name : Option String) (factor : Option Float)
      {operand : List Token} {pattern : Pattern} (h : pattern.Spells operand) :
      Spells (Token.ofSign sign ++ (Token.ofField name ++ (operand ++ Token.ofWeight factor)))
        ((inField name pattern (weightOf factor)).signed sign)

/-- A way to cut tokens into segments that spell the clauses of a chain. -/
structure Clause.Split (tokens : List Located) (segments : List (List Located))
    (chain : List Clause) : Prop where
  flatten : segments.flatten = tokens
  spells : List.Forall₂ (fun segment clause => Spells (segment.map Located.token) clause)
    segments chain

/-! ### What is read is spelt -/

namespace Clause

/-- The tokens of a group are the terms that it collects. -/
theorem map_token_of_isMember {members : List Located}
    (h : ∀ member ∈ members, member.token.termText?.isSome) :
    members.map Located.token =
      (members.filterMap fun member => member.token.termText?).map Token.term := by
  induction members with
  | nil => rfl
  | cons member members ih =>
      have hrest := ih fun other hmem => h other (List.mem_cons_of_mem _ hmem)
      obtain ⟨text, htext⟩ := Option.isSome_iff_exists.mp (h member List.mem_cons_self)
      have htoken : member.token = .term text := by
        cases hm : member.token <;> simp [hm, Token.termText?] at htext
        rw [htext]
      simp [htoken, Token.termText?, hrest]

theorem spells_of_takePhrase {head : Located} {content : String} {tokens rest : List Located}
    {pattern : Pattern} (hhead : head.token = .phrase content)
    (h : takePhrase head content tokens = .ok (pattern, rest)) :
    ∃ segment, head :: tokens = segment ++ rest ∧
      pattern.Spells (segment.map Located.token) := by
  unfold takePhrase at h
  split at h
  · cases h
  · rename_i word words hwords
    split at h
    · rename_i size span after
      cases h
      refine ⟨[head, ⟨.window size, span⟩], rfl, ?_⟩
      have hspells := Pattern.Spells.window size (hwords ▸ List.cons_ne_nil word words)
      simpa [hhead, hwords] using hspells
    · split at h
      · rename_i hempty
        cases h
        rw [List.isEmpty_iff] at hempty
        refine ⟨[head], rfl, ?_⟩
        simpa [hhead] using Pattern.Spells.word (hempty ▸ hwords)
      · rename_i hne
        cases h
        refine ⟨[head], rfl, ?_⟩
        rw [List.isEmpty_iff, ← ne_eq, ← List.length_pos_iff] at hne
        have hlength : 2 ≤ (Text.splitWords content).length := by
          rw [hwords, List.length_cons]
          omega
        simpa [hhead, hwords] using Pattern.Spells.phrase hlength

theorem spells_of_takeGroup {head : Located} {tokens rest : List Located} {pattern : Pattern}
    (hhead : head.token = .openBrace) (h : takeGroup head tokens = .ok (pattern, rest)) :
    ∃ segment, head :: tokens = segment ++ rest ∧
      pattern.Spells (segment.map Located.token) := by
  let isMember := fun token : Located => token.token.termText?.isSome
  have happend := List.takeWhile_append_dropWhile (p := isMember) (l := tokens)
  have hmembers : ∀ member ∈ tokens.takeWhile isMember, isMember member := by
    intro member hmem
    exact List.mem_takeWhile_imp (p := isMember) hmem
  have hmap := map_token_of_isMember hmembers
  simp only [takeGroup] at h
  split at h
  · rename_i span after hdrop
    split at h
    · cases h
    · rename_i hne
      cases h
      rw [hdrop] at happend
      refine ⟨head :: (tokens.takeWhile isMember ++ [⟨.closeBrace, span⟩]), ?_, ?_⟩
      · rw [List.cons_append, List.append_assoc, List.singleton_append, happend]
      · rw [List.map_cons, List.map_append, hmap, hhead]
        refine Pattern.Spells.group ?_
        intro hnil
        rw [hnil, List.map_nil, List.map_eq_nil_iff] at hmap
        rw [hmap] at hne
        exact hne rfl
  · cases h

theorem spells_of_takeOperand {tokens rest : List Located} {pattern : Pattern}
    (h : takeOperand tokens = .ok (pattern, rest)) :
    ∃ segment, tokens = segment ++ rest ∧ pattern.Spells (segment.map Located.token) := by
  unfold takeOperand at h
  split at h
  · cases h
  · rename_i head after
    split at h
    · rename_i text htoken
      cases h
      refine ⟨[head], rfl, ?_⟩
      simpa [htoken] using Pattern.Spells.term text
    · rename_i content htoken
      exact spells_of_takePhrase htoken h
    · rename_i htoken
      exact spells_of_takeGroup htoken h
    all_goals cases h

theorem spells_of_takeFielded {tokens rest : List Located} {clause : Clause}
    (h : takeFielded tokens = .ok (clause, rest)) :
    ∃ segment name operand pattern, tokens = segment ++ rest ∧
      segment.map Located.token = Token.ofField name ++ operand ∧
      Pattern.Spells operand pattern ∧ clause = inField name pattern defaultWeight := by
  unfold takeFielded at h
  split at h
  · rename_i name span after
    split at h
    · obtain ⟨⟨pattern, _⟩, hoperand, heq⟩ := Except.map_eq_ok_iff.mp h
      cases heq
      obtain ⟨segment, rfl, hspells⟩ := spells_of_takeOperand hoperand
      exact ⟨⟨.field name, span⟩ :: segment, some name, _, pattern, rfl, rfl, hspells, rfl⟩
    · cases h
  · obtain ⟨⟨pattern, _⟩, hoperand, heq⟩ := Except.map_eq_ok_iff.mp h
    cases heq
    obtain ⟨segment, rfl, hspells⟩ := spells_of_takeOperand hoperand
    exact ⟨segment, none, _, pattern, rfl, rfl, hspells, rfl⟩

/-- A factor that is applied to a clause in a field reaches the weight in the middle. -/
theorem scale_inField (name : Option String) (pattern : Pattern) (factor : Float) :
    (inField name pattern defaultWeight).scale factor =
      inField name pattern (weightOf (some factor)) := by
  cases name <;> rfl

theorem spells_of_takeWeighted {tokens rest : List Located} {clause : Clause}
    (h : takeWeighted tokens = .ok (clause, rest)) :
    ∃ segment name operand pattern factor, tokens = segment ++ rest ∧
      segment.map Located.token =
        Token.ofField name ++ (operand ++ Token.ofWeight factor) ∧
      Pattern.Spells operand pattern ∧ clause = inField name pattern (weightOf factor) := by
  obtain ⟨⟨inner, after⟩, hfielded, hweight⟩ := Except.map_eq_ok_iff.mp h
  obtain ⟨segment, name, operand, pattern, rfl, hsegment, hspells, rfl⟩ :=
    spells_of_takeFielded hfielded
  simp only [takeWeight] at hweight
  split at hweight
  · rename_i factor span after
    cases hweight
    refine ⟨segment ++ [⟨.weight factor, span⟩], name, operand, pattern, some factor,
      by simp, ?_, hspells, scale_inField name pattern factor⟩
    rw [List.map_append, hsegment, List.append_assoc]
    rfl
  · cases hweight
    exact ⟨segment, name, operand, pattern, none, rfl, by simpa [Token.ofWeight] using hsegment,
      hspells, rfl⟩

theorem spells_of_takeClause {tokens rest : List Located} {clause : Clause}
    (h : takeClause tokens = .ok (clause, rest)) :
    ∃ segment, tokens = segment ++ rest ∧ clause.Spells (segment.map Located.token) := by
  have hsigned : ∀ {tokens : List Located} {inner : Clause} (sign : Option Bool)
      (signs : List Located), signs.map Located.token = Token.ofSign sign →
      takeWeighted tokens = .ok (inner, rest) → ∃ segment, signs ++ tokens = segment ++ rest ∧
        (inner.signed sign).Spells (segment.map Located.token) := by
    intro tokens inner sign signs hsigns hweighted
    obtain ⟨segment, name, operand, pattern, factor, rfl, hsegment, hspells, rfl⟩ :=
      spells_of_takeWeighted hweighted
    refine ⟨signs ++ segment, by rw [List.append_assoc], ?_⟩
    rw [List.map_append, hsigns, hsegment]
    exact .parts sign name factor hspells
  unfold takeClause at h
  split at h
  · rename_i span after
    obtain ⟨⟨inner, _⟩, hweighted, heq⟩ := Except.map_eq_ok_iff.mp h
    cases heq
    exact hsigned (some true) [⟨.plus, span⟩] rfl hweighted
  · rename_i span after
    obtain ⟨⟨inner, _⟩, hweighted, heq⟩ := Except.map_eq_ok_iff.mp h
    cases heq
    exact hsigned (some false) [⟨.minus, span⟩] rfl hweighted
  · exact hsigned none [] rfl h

end Clause

/-! ### What is spelt is read -/

/-- Whether a token only comes after an operand. -/
def Token.isSuffix : Token → Bool
  | weight _ => true
  | window _ => true
  | _ => false

/-- An operand begins with a token that can begin one. -/
theorem Pattern.Spells.head {tokens : List Token} {pattern : Pattern} (h : pattern.Spells tokens) :
    ∃ first others, tokens = first :: others ∧ first.beginsOperand := by
  cases h <;> exact ⟨_, _, rfl, rfl⟩

/-- A segment does not begin with a token that only comes after an operand. -/
theorem Clause.Spells.head {tokens : List Token} {clause : Clause} (h : clause.Spells tokens) :
    ∃ first others, tokens = first :: others ∧ first.isSuffix = false := by
  obtain ⟨sign, name, factor, h⟩ := h
  obtain ⟨first, others, rfl, hfirst⟩ := h.head
  match sign, name with
  | some true, _ => exact ⟨_, _, rfl, rfl⟩
  | some false, _ => exact ⟨_, _, rfl, rfl⟩
  | none, some name => exact ⟨_, _, rfl, rfl⟩
  | none, none =>
      refine ⟨first, _, rfl, ?_⟩
      cases first <;> first | rfl | cases hfirst

theorem Clause.Spells.ne_nil {segment : List Located} {clause : Clause}
    (h : clause.Spells (segment.map Located.token)) : segment ≠ [] := by
  obtain ⟨first, others, hsegment, -⟩ := h.head
  rintro rfl
  cases hsegment

namespace Clause

theorem takePhrase_of_not_window {head : Located} {content word : String} {words : List String}
    {rest : List Located} (hwords : Text.splitWords content = word :: words)
    (hrest : ∀ size span after, rest ≠ ⟨.window size, span⟩ :: after) :
    takePhrase head content rest =
      if words.isEmpty then .ok (.term word, rest)
      else .ok (.phrase (word :: words) none, rest) := by
  simp only [takePhrase, hwords]

theorem takeGroup_of_members {head close : Located} {members rest : List Located}
    {terms : List String} (hclose : close.token = .closeBrace)
    (hmembers : members.map Located.token = terms.map Token.term) (hterms : terms ≠ []) :
    takeGroup head (members ++ close :: rest) = .ok (.synonym terms, rest) := by
  have hmember : ∀ member ∈ members, member.token.termText?.isSome := by
    intro member hmem
    have hmem := List.mem_map_of_mem (f := Located.token) hmem
    rw [hmembers] at hmem
    obtain ⟨text, -, htext⟩ := List.mem_map.mp hmem
    rw [← htext]
    rfl
  have hcollected : (members.filterMap fun member => member.token.termText?) = terms := by
    have hmap := (map_token_of_isMember hmember).symm.trans hmembers
    exact List.map_injective_iff.mpr (fun _ _ he => Token.term.inj he) hmap
  obtain ⟨token, span⟩ := close
  cases hclose
  have hstop : Token.closeBrace.termText?.isSome = false := rfl
  have hne : members ≠ [] := by
    rintro rfl
    exact hterms hcollected.symm
  simp [takeGroup, List.takeWhile_append_of_pos hmember, List.dropWhile_append_of_pos hmember,
    hstop, hcollected, hne]

theorem takeOperand_of_spells {segment rest : List Located} {pattern : Pattern}
    (h : pattern.Spells (segment.map Located.token))
    (hrest : ∀ size span after, rest ≠ ⟨.window size, span⟩ :: after) :
    takeOperand (segment ++ rest) = .ok (pattern, rest) := by
  generalize htokens : segment.map Located.token = tokens at h
  cases h with
  | term text =>
      obtain ⟨head, rfl, hhead⟩ := List.map_eq_singleton_iff.mp htokens
      simp [takeOperand, hhead]
  | word hword =>
      obtain ⟨head, rfl, hhead⟩ := List.map_eq_singleton_iff.mp htokens
      simpa [takeOperand, hhead] using takePhrase_of_not_window hword hrest
  | @phrase content hlength =>
      obtain ⟨head, rfl, hhead⟩ := List.map_eq_singleton_iff.mp htokens
      cases hwords : Text.splitWords content with
      | nil => simp [hwords] at hlength
      | cons word words =>
          have hne : words ≠ [] := by
            rintro rfl
            simp [hwords] at hlength
          simpa [takeOperand, hhead, hne] using takePhrase_of_not_window hwords hrest
  | @window content size hwords =>
      obtain ⟨head, segment, rfl, hhead, hsegment⟩ := List.map_eq_cons_iff.mp htokens
      obtain ⟨⟨token, span⟩, rfl, htoken⟩ := List.map_eq_singleton_iff.mp hsegment
      cases htoken
      cases hcontent : Text.splitWords content with
      | nil => exact absurd hcontent hwords
      | cons word words => simp [takeOperand, hhead, takePhrase, hcontent]
  | group hterms =>
      obtain ⟨head, segment, rfl, hhead, hsegment⟩ := List.map_eq_cons_iff.mp htokens
      obtain ⟨members, closing, rfl, hmembers, hclosing⟩ := List.map_eq_append_iff.mp hsegment
      obtain ⟨close, rfl, hclose⟩ := List.map_eq_singleton_iff.mp hclosing
      simpa [takeOperand, hhead] using takeGroup_of_members hclose hmembers hterms

theorem takeFielded_of_spells {fields segment rest : List Located} {name : Option String}
    {pattern : Pattern} (hfields : fields.map Located.token = Token.ofField name)
    (h : pattern.Spells (segment.map Located.token))
    (hrest : ∀ size span after, rest ≠ ⟨.window size, span⟩ :: after) :
    takeFielded (fields ++ (segment ++ rest)) = .ok (inField name pattern defaultWeight, rest) := by
  have hoperand := takeOperand_of_spells h hrest
  obtain ⟨first, others, hsegment, hfirst⟩ := h.head
  obtain ⟨head, segment, rfl, rfl, -⟩ := List.map_eq_cons_iff.mp hsegment
  cases name with
  | none =>
      rw [List.map_eq_nil_iff.mp hfields, List.nil_append]
      unfold takeFielded
      split
      · rename_i hcons
        cases hcons
        cases hfirst
      · rw [hoperand]
        rfl
  | some name =>
      obtain ⟨⟨token, span⟩, rfl, htoken⟩ := List.map_eq_singleton_iff.mp hfields
      cases htoken
      have hbegins : ((head :: segment ++ rest).head?.any fun next => next.token.beginsOperand) =
          true := hfirst
      simp only [List.singleton_append, takeFielded, hbegins, if_true, hoperand]
      rfl

theorem takeWeighted_of_spells {fields segment weights rest : List Located}
    {name : Option String} {pattern : Pattern} {factor : Option Float}
    (hfields : fields.map Located.token = Token.ofField name)
    (h : pattern.Spells (segment.map Located.token))
    (hweights : weights.map Located.token = Token.ofWeight factor)
    (hrest : ∀ next ∈ rest.head?, next.token.isSuffix = false) :
    takeWeighted (fields ++ (segment ++ (weights ++ rest))) =
      .ok (inField name pattern (weightOf factor), rest) := by
  have hsuffix : ∀ head after, rest = head :: after → head.token.isSuffix = false := by
    rintro head after rfl
    exact hrest head rfl
  unfold takeWeighted
  -- Without a weight the operand stands right before the rest, which could only add to it.
  cases factor with
  | none =>
      rw [List.map_eq_nil_iff.mp hweights, List.nil_append, takeFielded_of_spells hfields h]
      · simp only [Except.map, takeWeight]
        split
        · cases hsuffix _ _ rfl
        · rfl
      · rintro size span after rfl
        cases hsuffix _ _ rfl
  | some factor =>
      obtain ⟨⟨token, span⟩, rfl, htoken⟩ := List.map_eq_singleton_iff.mp hweights
      cases htoken
      rw [takeFielded_of_spells hfields h]
      · simp only [List.singleton_append, Except.map, takeWeight, scale_inField]
      · rintro size span after hcons
        cases hcons

/-- Without a sign before them, a field and an operand do not begin with one. -/
theorem not_sign_of_spells {fields segment : List Located} {name : Option String}
    {pattern : Pattern} (rest : List Located)
    (hfields : fields.map Located.token = Token.ofField name)
    (h : pattern.Spells (segment.map Located.token)) :
    ∀ head after, fields ++ (segment ++ rest) = head :: after →
      head.token ≠ .plus ∧ head.token ≠ .minus := by
  obtain ⟨first, others, hsegment, hfirst⟩ := h.head
  obtain ⟨begin, segment, rfl, rfl, -⟩ := List.map_eq_cons_iff.mp hsegment
  intro head after hcons
  cases name with
  | none =>
      rw [List.map_eq_nil_iff.mp hfields] at hcons
      cases hcons
      constructor <;> intro he <;> rw [he] at hfirst <;> cases hfirst
  | some name =>
      obtain ⟨⟨token, span⟩, rfl, htoken⟩ := List.map_eq_singleton_iff.mp hfields
      cases htoken
      cases hcons
      exact ⟨nofun, nofun⟩

theorem takeClause_of_spells {segment rest : List Located} {clause : Clause}
    (h : clause.Spells (segment.map Located.token))
    (hrest : ∀ next ∈ rest.head?, next.token.isSuffix = false) :
    takeClause (segment ++ rest) = .ok (clause, rest) := by
  generalize htokens : segment.map Located.token = tokens at h
  obtain ⟨sign, name, factor, h⟩ := h
  obtain ⟨signs, segment, rfl, hsigns, hsegment⟩ := List.map_eq_append_iff.mp htokens
  obtain ⟨fields, segment, rfl, hfields, hsegment⟩ := List.map_eq_append_iff.mp hsegment
  obtain ⟨operand, weights, rfl, rfl, hweights⟩ := List.map_eq_append_iff.mp hsegment
  have hweighted := takeWeighted_of_spells hfields h hweights hrest
  simp only [List.append_assoc]
  match sign with
  | some true =>
      obtain ⟨⟨token, span⟩, rfl, htoken⟩ := List.map_eq_singleton_iff.mp hsigns
      cases htoken
      simp only [List.singleton_append, takeClause, hweighted]
      rfl
  | some false =>
      obtain ⟨⟨token, span⟩, rfl, htoken⟩ := List.map_eq_singleton_iff.mp hsigns
      cases htoken
      simp only [List.singleton_append, takeClause, hweighted]
      rfl
  | none =>
      rw [List.map_eq_nil_iff.mp hsigns, List.nil_append]
      have hunsigned := not_sign_of_spells (weights ++ rest) hfields h
      unfold takeClause
      split
      · rename_i hcons
        cases (hunsigned _ _ hcons).1 rfl
      · rename_i hcons
        cases (hunsigned _ _ hcons).2 rfl
      · exact hweighted

/-! ### Cutting tokens into segments -/

/-- What is left of a chain of segments does not begin with a token that belongs to the segment
before. -/
theorem isSuffix_head?_flatten {segments : List (List Located)} {chain : List Clause}
    (h : List.Forall₂ (fun segment clause => Spells (segment.map Located.token) clause)
      segments chain) :
    ∀ next ∈ segments.flatten.head?, next.token.isSuffix = false := by
  cases h with
  | nil =>
      intro next hnext
      cases hnext
  | cons hspells _ =>
      obtain ⟨first, others, hsegment, hfirst⟩ := hspells.head
      obtain ⟨head, segment, rfl, rfl, -⟩ := List.map_eq_cons_iff.mp hsegment
      rintro next hnext
      cases hnext
      exact hfirst

theorem ofTokens_nil : ofTokens [] = .ok [] := by
  rw [ofTokens, List.isEmpty_nil, if_pos rfl]

theorem ofTokens_of_takeClause {tokens rest : List Located} {clause : Clause}
    (h : takeClause tokens = .ok (clause, rest)) :
    ofTokens tokens = (ofTokens rest).map (clause :: ·) := by
  have hlt := length_lt_of_takeClause h
  rw [ofTokens, if_neg]
  · split
    · rename_i herror
      rw [h] at herror
      cases herror
    · rename_i hok
      rw [h] at hok
      cases hok
      rfl
  · rw [List.isEmpty_iff]
    rintro rfl
    cases hlt

theorem ofTokens_of_split {tokens : List Located} {segments : List (List Located)}
    {chain : List Clause} (h : Split tokens segments chain) : ofTokens tokens = .ok chain := by
  obtain ⟨rfl, h⟩ := h
  induction h with
  | nil => exact ofTokens_nil
  | cons hspells hrest ih =>
      have htake := takeClause_of_spells hspells (isSuffix_head?_flatten hrest)
      rw [List.flatten_cons, ofTokens_of_takeClause htake, ih]
      rfl

theorem exists_split_of_ofTokens {tokens : List Located} {chain : List Clause}
    (h : ofTokens tokens = .ok chain) : ∃ segments, Split tokens segments chain := by
  fun_induction ofTokens tokens generalizing chain with
  | case1 tokens hempty =>
      cases h
      rw [List.isEmpty_iff] at hempty
      exact ⟨[], hempty.symm, .nil⟩
  | case2 tokens hne mismatch herror => cases h
  | case3 tokens hne clause rest htake ih =>
      obtain ⟨chain, hchain, rfl⟩ := Except.map_eq_ok_iff.mp h
      obtain ⟨segment, rfl, hspells⟩ := spells_of_takeClause htake
      obtain ⟨segments, rfl, hsegments⟩ := ih hchain
      exact ⟨segment :: segments, rfl, .cons hspells hsegments⟩

/-- There is only one way to cut tokens. -/
theorem Split.unique {tokens : List Located} {segments segments' : List (List Located)}
    {chain chain' : List Clause} (h : Split tokens segments chain)
    (h' : Split tokens segments' chain') : segments = segments' ∧ chain = chain' := by
  refine ⟨?_, Except.ok.inj ((ofTokens_of_split h).symm.trans (ofTokens_of_split h'))⟩
  obtain ⟨rfl, h⟩ := h
  obtain ⟨hflatten, h'⟩ := h'
  -- Both cuts are read alike, so their first segments leave the same rest and are the same.
  induction h generalizing segments' chain' with
  | nil =>
      cases h' with
      | nil => rfl
      | cons hspells' _ =>
          rw [List.flatten_nil, List.flatten_eq_nil_iff] at hflatten
          exact absurd (hflatten _ List.mem_cons_self) hspells'.ne_nil
  | @cons segment clause segments chain hspells hrest ih =>
      have htake := takeClause_of_spells hspells (isSuffix_head?_flatten hrest)
      rw [List.flatten_cons] at hflatten
      cases h' with
      | nil =>
          rw [List.flatten_nil, List.nil_eq_append_iff] at hflatten
          exact absurd hflatten.1 hspells.ne_nil
      | @cons segment' clause' segments' chain' hspells' hrest' =>
          have htake' := takeClause_of_spells hspells' (isSuffix_head?_flatten hrest')
          rw [List.flatten_cons] at hflatten
          rw [hflatten, htake, Except.ok.injEq, Prod.mk.injEq] at htake'
          have hsegment : segment' = segment := by
            rw [htake'.2] at hflatten
            exact List.append_cancel_right hflatten
          rw [hsegment, ih htake'.2.symm hrest']

theorem Split.ne_nil {tokens : List Located} {segments : List (List Located)}
    {chain : List Clause} (h : Split tokens segments chain) :
    ∀ segment ∈ segments, segment ≠ [] := by
  obtain ⟨-, h⟩ := h
  induction h with
  | nil =>
      intro segment hmem
      cases hmem
  | cons hspells _ ih =>
      intro segment hmem
      obtain rfl | hmem := List.mem_cons.mp hmem
      · exact hspells.ne_nil
      · exact ih segment hmem

/-- The reader accepts exactly the grammar: a list of tokens gives a chain if and only if it can be
cut into segments that spell the clauses of the chain. There is at most one way to do so, no
segment is empty, and tokens that cannot be cut are a mismatch. -/
theorem ofTokens_eq_ok_iff_split (tokens : List Located) :
    (∀ chain, ofTokens tokens = .ok chain ↔ ∃ segments, Split tokens segments chain) ∧
    (∀ segments segments' chain chain', Split tokens segments chain →
      Split tokens segments' chain' → segments = segments' ∧ chain = chain') ∧
    (∀ segments chain, Split tokens segments chain → ∀ segment ∈ segments, segment ≠ []) ∧
    ((¬∃ segments chain, Split tokens segments chain) →
      ∃ mismatch, ofTokens tokens = .error mismatch) := by
  refine ⟨fun chain => ⟨exists_split_of_ofTokens, fun ⟨_, h⟩ => ofTokens_of_split h⟩,
    fun _ _ _ _ h h' => h.unique h', fun _ _ h => h.ne_nil, ?_⟩
  intro hnone
  cases h : ofTokens tokens with
  | ok chain =>
      obtain ⟨segments, hsplit⟩ := exists_split_of_ofTokens h
      exact absurd ⟨segments, chain, hsplit⟩ hnone
  | error mismatch => exact ⟨mismatch, rfl⟩

end Clause

end Retrieval
