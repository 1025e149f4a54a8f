import Retrieval.Match.Operator
import Retrieval.Proofs.Text.Words
import Std.Data.String.ToNat

/-!
Canonical texts. The text of a group begins with the mark of its kind and goes on with its terms in
parentheses, and the text of an operator in a field begins with the name and a colon. Nothing in
these texts is quoted, so a term that is spelled like such a text is taken for it. There is no other
way for two operators to have the same text, and operators whose terms leave out the signs that are
used for marks have different texts.
-/

namespace Retrieval

/-- Two texts that are equal agree on both sides of the first separator. -/
theorem Text.eq_of_append_eq {c : Char} {separator first second rest rest' : String}
    (hseparator : separator.toList = [c]) (hfirst : c ∉ first.toList) (hsecond : c ∉ second.toList)
    (h : first ++ separator ++ rest = second ++ separator ++ rest') :
    first = second ∧ rest = rest' := by
  let p : Char → Bool := fun d => d != c
  have hp : ∀ {text : String}, c ∉ text.toList → ∀ d ∈ text.toList, p d := by
    intro text htext d hd
    simp only [p, bne_iff_ne]
    rintro rfl
    exact htext hd
  have hstops : ∀ cs : List Char, Stops p (c :: cs) := fun cs => stops_cons (by simp [p])
  have hchars := congrArg String.toList h
  simp only [String.toList_append, hseparator, List.append_assoc, List.singleton_append] at hchars
  have htake := congrArg (List.takeWhile p) hchars
  have hdrop := congrArg (List.dropWhile p) hchars
  rw [takeWhile_run (hp hfirst) (hstops _), takeWhile_run (hp hsecond) (hstops _)] at htake
  rw [dropWhile_run (hp hfirst) (hstops _), dropWhile_run (hp hsecond) (hstops _)] at hdrop
  exact ⟨String.toList_inj.mp htake, String.toList_inj.mp (List.cons.inj hdrop).2⟩

structure Text.IsUnspaced (text : String) : Prop where
  ne_empty : text ≠ ""
  space_not_mem : ' ' ∉ text.toList

instance (text : String) : Decidable (Text.IsUnspaced text) :=
  decidable_of_iff (text ≠ "" ∧ ' ' ∉ text.toList)
    ⟨fun h => ⟨h.1, h.2⟩, fun h => ⟨h.ne_empty, h.space_not_mem⟩⟩

theorem IsSolid.isUnspaced {text : String} (h : IsSolid text) : Text.IsUnspaced text := by
  refine ⟨h.ne_empty, fun hspace => ?_⟩
  have hsolid := h.solid ' ' hspace
  revert hsolid
  decide

/-- A list of texts is found again in the text that joins them by spaces. -/
theorem Text.splitOn_intercalate {terms : List String} (h : ∀ term ∈ terms, IsUnspaced term)
    (hne : terms ≠ []) :
    (" ".intercalate terms).toList.splitOn ' ' = terms.map String.toList := by
  rw [String.toList_intercalate]
  refine List.splitOn_intercalate ' ' ?_ (by simpa using hne)
  exact List.forall_mem_map.mpr fun term hmem => (h term hmem).space_not_mem

theorem Text.eq_of_intercalate_eq {terms terms' : List String}
    (h : ∀ term ∈ terms, IsUnspaced term) (h' : ∀ term ∈ terms', IsUnspaced term)
    (heq : " ".intercalate terms = " ".intercalate terms') : terms = terms' := by
  -- No list of texts that are not empty is joined to the empty text, but the empty one.
  have hnil : ∀ {terms : List String}, (∀ term ∈ terms, IsUnspaced term) →
      " ".intercalate terms = "" → terms = [] := by
    intro terms hterms hempty
    by_contra hne
    have hsplit := splitOn_intercalate hterms hne
    rw [hempty] at hsplit
    obtain ⟨term, rfl, hterm⟩ := List.map_eq_singleton_iff.mp hsplit.symm
    exact (hterms term List.mem_cons_self).ne_empty (String.toList_eq_nil_iff.mp hterm)
  by_cases hne : terms = []
  · subst hne
    exact (hnil h' heq.symm).symm
  · by_cases hne' : terms' = []
    · subst hne'
      exact hnil h heq
    · have hsplit := splitOn_intercalate h hne
      rw [heq, splitOn_intercalate h' hne'] at hsplit
      exact (List.map_inj_right fun _ _ => String.toList_inj.mp).mp hsplit.symm

/-! ### Shapes -/

namespace Shape

/-- The mark with which the text of a group begins. -/
def mark? : Shape → Option String
  | term _ => none
  | synonym _ => some "#syn"
  | phrase _ => some "#1"
  | window _ size => some ("#uw" ++ Nat.repr size)

/-- A shape as it comes from a query: its terms are words, and there is at least one, or two in a
phrase. -/
structure Sound (shape : Shape) : Prop where
  ne_nil : shape.terms ≠ []
  solid : ∀ term ∈ shape.terms, IsSolid term
  two_le : ∀ terms, shape = phrase terms → 2 ≤ terms.length

theorem Sound.unspaced {shape : Shape} (h : shape.Sound) :
    ∀ term ∈ shape.terms, Text.IsUnspaced term :=
  fun term hmem => (h.solid term hmem).isUnspaced

/-- A term may be spelled like the text of a group of one. -/
inductive Imitates : Shape → Shape → Prop
  | synonym (member : String) : Imitates (.term ("#syn(" ++ member ++ ")")) (.synonym [member])
  | window (member : String) (size : Nat) :
      Imitates (.term ("#uw" ++ Nat.repr size ++ "(" ++ member ++ ")")) (.window [member] size)

variable {a b : Shape} {mark : String}

theorem Imitates.canonical_eq (h : a.Imitates b) : a.canonical = b.canonical := by
  cases h <;> rfl

theorem canonical_of_mark? (h : a.mark? = some mark) :
    a.canonical = mark ++ "(" ++ (" ".intercalate a.terms ++ ")") := by
  cases a <;> cases h <;> simp [canonical, terms, String.append_assoc]

theorem not_mem_digits {c : Char} (h : c.isDigit = false) (size : Nat) :
    c ∉ (Nat.repr size).toList := by
  intro hc
  rw [Nat.repr_eq_ofList_toDigits, String.toList_ofList] at hc
  rw [Nat.isDigit_of_mem_toDigits (by decide) (by decide) hc] at h
  cases h

theorem not_mem_mark {c : Char} (hc : c ∈ ['(', ':']) (h : a.mark? = some mark) :
    c ∉ mark.toList := by
  have hdigit : c.isDigit = false := by
    obtain rfl | rfl : c = '(' ∨ c = ':' := by simpa using hc
    · decide
    · decide
  have hletters : c ∉ "#syn".toList ∧ c ∉ "#1".toList ∧ c ∉ "#uw".toList := by
    obtain rfl | rfl : c = '(' ∨ c = ':' := by simpa using hc
    · decide
    · decide
  cases a with
  | term _ => cases h
  | synonym _ =>
      cases h
      exact hletters.1
  | phrase _ =>
      cases h
      exact hletters.2.1
  | window _ size =>
      cases h
      rw [String.toList_append, List.mem_append]
      rintro (hmem | hmem)
      · exact hletters.2.2 hmem
      · exact not_mem_digits hdigit size hmem

/-- A shape is its mark and its terms. -/
theorem eq_of_mark?_eq (hmark : a.mark? = b.mark?) (hterms : a.terms = b.terms) : a = b := by
  have hsyn : ∀ size, "#syn" ≠ "#uw" ++ Nat.repr size := by
    intro size h
    simpa using congrArg String.toList h
  have hone : ∀ size, "#1" ≠ "#uw" ++ Nat.repr size := by
    intro size h
    simpa using congrArg String.toList h
  cases a <;> cases b <;> simp_all [mark?, terms, eq_comm, Nat.repr_inj]

/-- Two groups with the same text are the same. -/
theorem eq_of_marks {mark' : String} (ha : ∀ term ∈ a.terms, Text.IsUnspaced term)
    (hb : ∀ term ∈ b.terms, Text.IsUnspaced term) (hmark : a.mark? = some mark)
    (hmark' : b.mark? = some mark') (h : a.canonical = b.canonical) : a = b := by
  rw [canonical_of_mark? hmark, canonical_of_mark? hmark'] at h
  obtain ⟨hmarks, hbodies⟩ := Text.eq_of_append_eq (c := '(') rfl
    (not_mem_mark List.mem_cons_self hmark) (not_mem_mark List.mem_cons_self hmark') h
  rw [String.append_left_inj] at hbodies
  refine eq_of_mark?_eq ?_ (Text.eq_of_intercalate_eq ha hb hbodies)
  rw [hmark, hmark', hmarks]

/-- A group whose text is free of white space is a group of one. -/
theorem exists_member (hb : b.Sound) (hmark : b.mark? = some mark)
    (h : ∀ c ∈ b.canonical.toList, Text.isSolid c) : ∃ member, b.terms = [member] := by
  have hsplit := Text.splitWords_intercalate hb.solid
  have hbody : IsSolid (" ".intercalate b.terms) := by
    refine ⟨fun hempty => ?_, fun c hc => h c ?_⟩
    · have hnil : Text.splitWords "" = [] := by
        rw [Text.splitWords, String.toList_empty, Text.words_of_dropWhile_eq_nil rfl, List.map_nil]
      rw [hempty, hnil] at hsplit
      exact hb.ne_nil hsplit.symm
    · rw [canonical_of_mark? hmark]
      simp only [String.toList_append, List.mem_append]
      exact .inr (.inl hc)
  refine ⟨" ".intercalate b.terms, ?_⟩
  calc b.terms = Text.splitWords (" ".intercalate b.terms) := hsplit.symm
    _ = Text.splitWords (" ".intercalate [" ".intercalate b.terms]) := by
      rw [String.intercalate_singleton]
    _ = [" ".intercalate b.terms] :=
      Text.splitWords_intercalate (List.forall_mem_singleton.mpr hbody)

/-- A term with the text of a group is spelled like a group of one. -/
theorem imitates_of_mark {text : String} (ha : (term text).Sound) (hb : b.Sound)
    (hmark : b.mark? = some mark) (h : text = b.canonical) : (term text).Imitates b := by
  have hsolid := (ha.solid text List.mem_cons_self).solid
  rw [h] at hsolid
  obtain ⟨member, hmember⟩ := exists_member hb hmark hsolid
  subst h
  cases b with
  | term _ => cases hmark
  | synonym terms =>
      cases hmember
      exact .synonym member
  | phrase terms =>
      have hlength := hb.two_le terms rfl
      cases hmember
      rw [List.length_singleton] at hlength
      omega
  | window terms size =>
      cases hmember
      exact .window member size

/-- Shapes with the same text are the same, or one imitates the other. -/
theorem canonical_eq_iff (ha : a.Sound) (hb : b.Sound) :
    a.canonical = b.canonical ↔ a = b ∨ a.Imitates b ∨ b.Imitates a := by
  constructor
  · intro h
    cases hmark : a.mark? with
    | none =>
        cases hmark' : b.mark? with
        | none =>
            cases a <;> cases hmark
            cases b <;> cases hmark'
            exact .inl (congrArg term h)
        | some mark' =>
            cases a <;> cases hmark
            exact .inr (.inl (imitates_of_mark ha hb hmark' h))
    | some mark =>
        cases hmark' : b.mark? with
        | none =>
            cases b <;> cases hmark'
            exact .inr (.inr (imitates_of_mark hb ha hmark h.symm))
        | some mark' => exact .inl (eq_of_marks ha.unspaced hb.unspaced hmark hmark' h)
  · rintro (rfl | h | h)
    · rfl
    · exact h.canonical_eq
    · exact h.canonical_eq.symm

end Shape

/-! ### Operators -/

namespace Operator

/-- An operator as it comes from a query: a shape as it comes from one, and no colon in the name of
the field. -/
structure Sound (operator : Operator) : Prop where
  shape : operator.shape.Sound
  field : ∀ name ∈ operator.field, ':' ∉ name.toList

/-- An operator imitates another one in the same field if its shape does, and an operator in all
fields imitates one in a field if its text is the same, colons in its terms included. -/
inductive Imitates : Operator → Operator → Prop
  | shape {first second : Shape} (field : Option String) (h : first.Imitates second) :
      Imitates ⟨first, field⟩ ⟨second, field⟩
  | field {first second : Shape} {name term : String} (hterm : term ∈ first.terms)
      (hcolon : ':' ∈ term.toList) (h : first.canonical = name ++ ":" ++ second.canonical) :
      Imitates ⟨first, none⟩ ⟨second, some name⟩

theorem Imitates.canonical_eq {a b : Operator} (h : a.Imitates b) : a.canonical = b.canonical := by
  cases h with
  | shape field h => cases field <;> simp only [canonical, h.canonical_eq]
  | field _ _ h => exact h

/-- A colon in the text of a shape stands in one of its terms. -/
theorem exists_colon {shape : Shape} (h : ':' ∈ shape.canonical.toList) :
    ∃ term ∈ shape.terms, ':' ∈ term.toList := by
  cases hmark : shape.mark? with
  | none =>
      cases shape <;> cases hmark
      exact ⟨_, List.mem_cons_self, h⟩
  | some mark =>
      rw [Shape.canonical_of_mark? hmark] at h
      simp only [String.toList_append, String.toList_intercalate, List.mem_append] at h
      obtain (h | h) | h | h := h
      · exact absurd h (Shape.not_mem_mark (by simp) hmark)
      · exact absurd h (by decide)
      · obtain hspace | ⟨chars, hchars, hcolon⟩ := Text.mem_intercalate h
        · cases hspace
        · obtain ⟨term, hterm, rfl⟩ := List.mem_map.mp hchars
          exact ⟨term, hterm, hcolon⟩
      · exact absurd h (by decide)

theorem colon_mem_of_field {first second : Shape} {name : String}
    (h : first.canonical = name ++ ":" ++ second.canonical) : ':' ∈ first.canonical.toList := by
  rw [h]
  simp

theorem imitates_of_field {first second : Shape} {name : String}
    (h : first.canonical = name ++ ":" ++ second.canonical) :
    Imitates ⟨first, none⟩ ⟨second, some name⟩ := by
  obtain ⟨term, hterm, hcolon⟩ := exists_colon (colon_mem_of_field h)
  exact .field hterm hcolon h

/-- Operators with the same canonical text are equal, or one imitates the other. -/
theorem canonical_eq_iff {a b : Operator} (ha : a.Sound) (hb : b.Sound) :
    a.canonical = b.canonical ↔ a = b ∨ a.Imitates b ∨ b.Imitates a := by
  constructor
  · intro h
    obtain ⟨first, field⟩ := a
    obtain ⟨second, field'⟩ := b
    have hshapes : field = field' → first.canonical = second.canonical →
        (⟨first, field⟩ : Operator) = ⟨second, field'⟩ ∨ Imitates ⟨first, field⟩ ⟨second, field'⟩ ∨
          Imitates ⟨second, field'⟩ ⟨first, field⟩ := by
      rintro rfl hcanonical
      obtain rfl | h | h := (Shape.canonical_eq_iff ha.shape hb.shape).mp hcanonical
      · exact .inl rfl
      · exact .inr (.inl (.shape field h))
      · exact .inr (.inr (.shape field h))
    cases field with
    | none =>
        cases field' with
        | none => exact hshapes rfl h
        | some name => exact .inr (.inl (imitates_of_field h))
    | some name =>
        cases field' with
        | none => exact .inr (.inr (imitates_of_field h.symm))
        | some name' =>
            obtain ⟨hnames, htexts⟩ := Text.eq_of_append_eq (c := ':') rfl
              (ha.field name rfl) (hb.field name' rfl) h
            exact hshapes (congrArg some hnames) htexts
  · rintro (rfl | h | h)
    · rfl
    · exact h.canonical_eq
    · exact h.canonical_eq.symm

end Operator

/-! ### Clean operators -/

/-- A shape without colons whose single term cannot be taken for a group, and whose members are
neither empty nor have spaces in them. -/
def Shape.Clean : Shape → Prop
  | term text => ':' ∉ text.toList ∧ text.toList.head? ≠ some '#'
  | synonym terms | phrase terms | window terms _ =>
      ∀ term ∈ terms, ':' ∉ term.toList ∧ Text.IsUnspaced term

namespace Shape

variable {a b : Shape} {mark : String}

theorem Clean.colon_not_mem (h : a.Clean) : ∀ term ∈ a.terms, ':' ∉ term.toList := by
  cases a with
  | term text => exact List.forall_mem_singleton.mpr h.1
  | synonym terms => exact fun term hmem => (h term hmem).1
  | phrase terms => exact fun term hmem => (h term hmem).1
  | window terms size => exact fun term hmem => (h term hmem).1

theorem Clean.unspaced (h : a.Clean) (hmark : a.mark? = some mark) :
    ∀ term ∈ a.terms, Text.IsUnspaced term := by
  cases a with
  | term text => cases hmark
  | synonym terms => exact fun term hmem => (h term hmem).2
  | phrase terms => exact fun term hmem => (h term hmem).2
  | window terms size => exact fun term hmem => (h term hmem).2

/-- The text of a group begins with the sign that no clean term begins with. -/
theorem head?_canonical (hmark : a.mark? = some mark) : a.canonical.toList.head? = some '#' := by
  cases a <;> cases hmark <;> simp [canonical]

theorem Clean.eq_of_canonical_eq (ha : a.Clean) (hb : b.Clean) (h : a.canonical = b.canonical) :
    a = b := by
  cases hmark : a.mark? with
  | none =>
      cases hmark' : b.mark? with
      | none =>
          cases a <;> cases hmark
          cases b <;> cases hmark'
          exact congrArg term h
      | some mark' =>
          cases a <;> cases hmark
          exact absurd (head?_canonical hmark') (h ▸ ha.2)
  | some mark =>
      cases hmark' : b.mark? with
      | none =>
          cases b <;> cases hmark'
          exact absurd (head?_canonical hmark) (h ▸ hb.2)
      | some mark' => exact eq_of_marks (ha.unspaced hmark) (hb.unspaced hmark') hmark hmark' h

end Shape

namespace Operator

structure Clean (operator : Operator) : Prop where
  shape : operator.shape.Clean
  field : ∀ name ∈ operator.field, ':' ∉ name.toList

theorem Clean.colon_not_mem {operator : Operator} (h : operator.Clean) :
    ':' ∉ operator.shape.canonical.toList := by
  intro hcolon
  obtain ⟨term, hterm, hmem⟩ := exists_colon hcolon
  exact h.shape.colon_not_mem term hterm hmem

/-- Clean operators have the same canonical text only if they are equal: the first colon ends the
name of a field, and without one there is no field. -/
theorem canonical_inj_of_clean {a b : Operator} (ha : a.Clean) (hb : b.Clean) :
    a.canonical = b.canonical ↔ a = b := by
  refine ⟨fun h => ?_, congrArg canonical⟩
  obtain ⟨first, field⟩ := a
  obtain ⟨second, field'⟩ := b
  cases field with
  | none =>
      cases field' with
      | none =>
          obtain rfl : first = second := ha.shape.eq_of_canonical_eq hb.shape h
          rfl
      | some name' => exact absurd (colon_mem_of_field h) ha.colon_not_mem
  | some name =>
      cases field' with
      | none => exact absurd (colon_mem_of_field h.symm) hb.colon_not_mem
      | some name' =>
          obtain ⟨rfl, hshapes⟩ := Text.eq_of_append_eq (c := ':') rfl
            (ha.field name rfl) (hb.field name' rfl) h
          obtain rfl : first = second := ha.shape.eq_of_canonical_eq hb.shape hshapes
          rfl

/-- Windows in a field with an empty name whose members look like other groups: the texts
`:#uw1(#1(b c))` and `:#uw10(#1(b c))` are told apart. -/
theorem canonical_inj_of_clean_windows :
    let window : Nat → Operator := fun size => ⟨.window ["#1(b", "c)"] size, some ""⟩
    (window 1).Clean ∧ (window 10).Clean ∧ (window 1).canonical ≠ (window 10).canonical := by
  intro window
  have hclean : ∀ size, (window size).Clean := by
    intro size
    refine ⟨?_, ?_⟩
    · change ∀ term ∈ ["#1(b", "c)"], ':' ∉ term.toList ∧ Text.IsUnspaced term
      decide
    · rintro name ⟨⟩
      decide
  refine ⟨hclean 1, hclean 10, ?_⟩
  rw [ne_eq, canonical_inj_of_clean (hclean 1) (hclean 10)]
  decide

end Operator

end Retrieval
