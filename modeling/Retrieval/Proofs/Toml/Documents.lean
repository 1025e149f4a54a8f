import Retrieval.Proofs.Toml.Values

/-!
Documents are read as they are written. A line of a written document is one statement, and its
statements open one table after another and fill the table that was opened last, so that every
section becomes a table with the entries of the section in their order.
-/

namespace Retrieval.Toml

/-! ### Keys -/

def IsBareKey (name : String) : Prop :=
  name.toList ≠ [] ∧ name.toList.all inKey

instance : DecidablePred IsBareKey :=
  fun _ => inferInstanceAs (Decidable (_ ∧ _))

section

variable {name : String} {rest : List Char}

theorem beginsSkipped_of_inKey {c : Char} (hc : inKey c) : beginsSkipped c = false := by
  cases hskipped : beginsSkipped c with
  | false => rfl
  | true =>
      simp only [beginsSkipped, isSpace, Bool.or_eq_true, beq_iff_eq] at hskipped
      obtain (((rfl | rfl) | rfl) | rfl) | rfl := hskipped <;> cases hc

/-- A key without quotes begins with a character that it may hold. -/
theorem IsBareKey.inKey_of_head? (h : IsBareKey name) {c : Char}
    (hc : (name.toList ++ rest).head? = some c) : inKey c := by
  rw [List.head?_append_of_ne_nil _ h.1] at hc
  exact List.all_eq_true.mp h.2 c (List.mem_of_head? hc)

theorem IsBareKey.head?_ne (h : IsBareKey name) {mark : Char} (hmark : inKey mark = false) :
    (name.toList ++ rest).head? ≠ some mark :=
  fun hhead => Text.ne_of_kind (h.inKey_of_head? hhead) hmark rfl

theorem IsBareKey.stops (h : IsBareKey name) :
    Text.Stops beginsSkipped (name.toList ++ rest) :=
  fun _ hc => beginsSkipped_of_inKey (h.inKey_of_head? hc)

theorem IsBareKey.reads_takeKey (h : IsBareKey name) (hstops : Text.Stops inKey rest) :
    Reads (takeKey (name.toList ++ rest)) name rest := by
  obtain ⟨hne, hkey⟩ := h
  obtain ⟨c, cs, hname⟩ := List.exists_cons_of_ne_nil hne
  rw [hname] at hkey
  obtain ⟨hc, hcs⟩ := List.forall_mem_cons.mp (List.all_eq_true.mp hkey)
  have htext : String.ofList (c :: cs) = name := by rw [← hname, String.ofList_toList]
  rw [hname, List.cons_append, takeKey, if_pos hc]
  · simp only [Text.takeWhile_run hcs hstops, Text.dropWhile_run hcs hstops, htext]
    exact ⟨_, rfl⟩
  · exact Text.ne_of_kind hc rfl
  · exact Text.ne_of_kind hc rfl

/-- A path of one key ends before any character that is neither a blank nor a dot. -/
theorem IsBareKey.reads_takePath (h : IsBareKey name) (hstops : Text.Stops inKey rest)
    (hdot : expect '.' (skipSpaces rest) = none) :
    Reads (takePath (name.toList ++ rest)) [name] (skipSpaces rest) := by
  obtain ⟨_, hkey⟩ := h.reads_takeKey hstops
  rw [takePath, takeKeys, hkey]
  simp only [Option.bind_eq_bind, Option.bind_some, hdot]
  exact ⟨_, rfl⟩

end

/-! ### Lines -/

section

variable {name : String} {cs rest : List Char} {statements : List Statement}

theorem IsBareKey.reads_header (h : IsBareKey name) :
    Reads (takeStatement ('[' :: (name.toList ++ ']' :: rest))) (.openTable [name]) rest := by
  have hspaces : skipSpaces (name.toList ++ ']' :: rest) = name.toList ++ ']' :: rest :=
    skipSpaces_of_stops fun c hc => isSpace_of_beginsSkipped (h.stops c hc)
  have hinner : expect '[' (name.toList ++ ']' :: rest) = none := expect_eq_none (h.head?_ne rfl)
  have hpath : Reads (takePath (skipSpaces (name.toList ++ ']' :: rest))) [name] (']' :: rest) := by
    rw [hspaces]
    exact h.reads_takePath (Text.stops_cons rfl) rfl
  obtain ⟨_, hpath⟩ := hpath
  obtain ⟨_, hbracket⟩ := reads_expect ']' rest
  rw [takeStatement, expect, if_pos rfl]
  simp only [hinner, takeHeader, hpath, hbracket, Option.bind_eq_bind, Option.bind_some]
  exact ⟨_, rfl⟩

theorem IsBareKey.reads_assignment (h : IsBareKey name) (item : Item) :
    Reads (takeStatement (name.toList ++ ' ' :: '=' :: ' ' :: (item.write ++ '\n' :: rest)))
      (.assign [name] item.toValue) ('\n' :: rest) := by
  -- The key is read without looking into what is assigned to it.
  generalize htext : ' ' :: '=' :: ' ' :: (item.write ++ '\n' :: rest) = text
  have hheader : expect '[' (name.toList ++ text) = none := expect_eq_none (h.head?_ne rfl)
  have hpath : Reads (takePath (name.toList ++ text)) [name]
      ('=' :: ' ' :: (item.write ++ '\n' :: rest)) := by
    subst htext
    exact h.reads_takePath (Text.stops_cons rfl) rfl
  have hvalue : Reads (takeValue depthLimit (skipSpaces (' ' :: (item.write ++ '\n' :: rest))))
      item.toValue ('\n' :: rest) := by
    have hspaces : skipSpaces (' ' :: (item.write ++ '\n' :: rest)) = item.write ++ '\n' :: rest :=
      skipSpaces_of_stops item.stops_write
    rw [hspaces]
    exact item.reads_write (by decide) rest
  obtain ⟨_, hpath⟩ := hpath
  obtain ⟨_, hequals⟩ := reads_expect '=' (' ' :: (item.write ++ '\n' :: rest))
  obtain ⟨_, hvalue⟩ := hvalue
  rw [takeStatement, hheader]
  simp only [hpath, hequals, hvalue, Option.bind_eq_bind, Option.bind_some]
  exact ⟨_, rfl⟩

theorem takeStatements_nil (h : skipLines cs = []) : takeStatements cs = some [] := by
  rw [takeStatements, if_pos (by rw [h]; rfl)]

/-- A statement ends with its line. -/
theorem takeStatements_cons {statement : Statement}
    (h : Reads (takeStatement (skipLines cs)) statement ('\n' :: rest))
    (hrest : takeStatements rest = some statements) :
    takeStatements cs = some (statement :: statements) := by
  obtain ⟨hshorter, h⟩ := h
  have hne : ¬(skipLines cs).isEmpty := by
    intro hempty
    rw [List.isEmpty_iff.mp hempty] at hshorter
    exact absurd hshorter (Nat.not_lt_zero _)
  -- Nothing follows the statement on its line, so the break that was left ends it.
  have hend : skipComment (skipSpaces ('\n' :: rest)) = '\n' :: rest := rfl
  rw [takeStatements, if_neg hne, h]
  simp only [Option.bind_eq_bind, Option.bind_some, hend]
  rw [if_neg (by simp)]
  split
  · rename_i after hafter
    cases hafter
    rw [hrest]
    rfl
  · rename_i hafter
    cases hafter

end

/-! ### Sections -/

/-- A section whose name and keys need no quotes. No two of its keys are the same. -/
structure Section.IsBare (part : Section) : Prop where
  name : IsBareKey part.name
  keys : ∀ key ∈ part.entries.map Prod.fst, IsBareKey key
  distinct : (part.entries.map Prod.fst).Nodup

def Section.values (part : Section) : Entries :=
  part.entries.map fun entry => (entry.1, entry.2.toValue)

def Section.table (part : Section) : String × Value :=
  (part.name, .table .header part.values)

def assignment (entry : String × Value) : Statement :=
  .assign [entry.1] entry.2

def Section.statements (part : Section) : List Statement :=
  .openTable [part.name] :: part.values.map assignment

def writeEntry (entry : String × Item) : List Char :=
  entry.1.toList ++ [' ', '=', ' '] ++ entry.2.write ++ ['\n']

/-- Sections with an empty line between two of them. -/
def writeSections (sections : List Section) : List Char :=
  ['\n'].intercalate (sections.map Section.write)

section

variable {cs rest : List Char} {statements : List Statement} {part : Section}

theorem Section.write_append (part : Section) (rest : List Char) :
    part.write ++ rest =
      '[' :: (part.name.toList ++ ']' :: '\n' :: (part.entries.flatMap writeEntry ++ rest)) := by
  change '[' :: part.name.toList ++ [']', '\n'] ++ part.entries.flatMap writeEntry ++ rest = _
  simp only [List.append_assoc, List.cons_append, List.nil_append]

theorem takeStatements_entries {entries : List (String × Item)}
    (hkeys : ∀ key ∈ entries.map Prod.fst, IsBareKey key)
    (hrest : takeStatements rest = some statements) :
    takeStatements (entries.flatMap writeEntry ++ rest) =
      some ((entries.map fun entry => assignment (entry.1, entry.2.toValue)) ++ statements) := by
  induction entries with
  | nil => exact hrest
  | cons entry entries ih =>
      obtain ⟨hkey, hkeys⟩ := List.forall_mem_cons.mp hkeys
      have hline : (entry :: entries).flatMap writeEntry ++ rest =
          entry.1.toList ++ ' ' :: '=' :: ' ' ::
            (entry.2.write ++ '\n' :: (entries.flatMap writeEntry ++ rest)) := by
        simp only [List.flatMap_cons, writeEntry, List.append_assoc, List.cons_append,
          List.nil_append]
      rw [hline, List.map_cons, List.cons_append]
      refine takeStatements_cons ?_ (ih hkeys)
      rw [skipLines_of_stops hkey.stops]
      exact hkey.reads_assignment entry.2

/-- A header ends with its line, and so does every entry after it. -/
theorem takeStatements_section (hpart : part.IsBare) (hcs : skipLines cs = part.write ++ rest)
    (hrest : takeStatements rest = some statements) :
    takeStatements cs = some (part.statements ++ statements) := by
  rw [Section.statements, Section.values, List.map_map]
  refine takeStatements_cons ?_ (takeStatements_entries hpart.keys hrest)
  rw [hcs, part.write_append]
  exact hpart.name.reads_header

theorem writeSections_cons_cons (part next : Section) (sections : List Section) :
    writeSections (part :: next :: sections) =
      part.write ++ '\n' :: writeSections (next :: sections) := by
  rw [writeSections, List.map_cons, List.map_cons, List.intercalate_cons_cons, List.append_assoc]
  rfl

/-- Sections begin with a header. -/
theorem eq_of_mem_head?_writeSections {sections : List Section} {c : Char}
    (h : c ∈ (writeSections sections).head?) : c = '[' := by
  match sections with
  | [] => cases h
  | [_] =>
      cases h
      rfl
  | part :: next :: sections =>
      rw [writeSections_cons_cons] at h
      cases h
      rfl

theorem skipLines_writeSections (sections : List Section) :
    skipLines (writeSections sections) = writeSections sections := by
  refine skipLines_of_stops fun c hc => ?_
  rw [eq_of_mem_head?_writeSections hc]
  rfl

/-- The sections of a document are read one after another. -/
theorem takeStatements_sections {sections : List Section}
    (hsections : ∀ part ∈ sections, part.IsBare) (hcs : skipLines cs = writeSections sections) :
    takeStatements cs = some (sections.flatMap Section.statements) := by
  induction sections generalizing cs with
  | nil => exact takeStatements_nil hcs
  | cons part sections ih =>
      obtain ⟨hpart, hsections⟩ := List.forall_mem_cons.mp hsections
      cases sections with
      | nil =>
          have hend : takeStatements [] = some [] :=
            takeStatements_nil (skipLines_of_stops Text.stops_nil)
          have htext : writeSections [part] = part.write ++ [] := by
            rw [writeSections, List.map_singleton, List.intercalate_singleton, List.append_nil]
          exact takeStatements_section hpart (hcs.trans htext) hend
      | cons next sections =>
          have hskip : skipLines ('\n' :: writeSections (next :: sections)) =
              writeSections (next :: sections) := by
            rw [skipLines_cons_break, skipLines_writeSections]
          exact takeStatements_section hpart (hcs.trans (writeSections_cons_cons ..))
            (ih hsections hskip)

end

/-! ### Tables -/

section

variable {key name : String} {value : Value} {entries inner : Entries} {path : List String}
  {statements : List Statement}

theorem find?_eq_none (h : key ∉ entries.map Prod.fst) : Entries.find? key entries = none := by
  refine List.lookup_eq_none_iff.mpr fun entry hentry => bne_iff_ne.mpr ?_
  rintro rfl
  exact h (List.mem_map_of_mem hentry)

theorem find?_concat (h : key ∉ entries.map Prod.fst) :
    Entries.find? key (entries ++ [(key, value)]) = some value := by
  have hnone : entries.lookup key = none := find?_eq_none h
  simp [Entries.find?, List.lookup_append, hnone]

theorem replace_concat {old : Value} (h : key ∉ entries.map Prod.fst) :
    Entries.replace key value (entries ++ [(key, old)]) = entries ++ [(key, value)] := by
  have hother : ∀ entry ∈ entries, (if entry.1 = key then (key, value) else entry) = id entry := by
    intro entry hentry
    have hne : entry.1 ≠ key := ne_of_mem_of_not_mem (List.mem_map_of_mem hentry) h
    rw [if_neg hne]
    rfl
  rw [Entries.replace, List.map_append, List.map_congr_left hother, List.map_id,
    List.map_singleton, if_pos rfl]

/-- A header opens a new table behind those that are there. -/
theorem build_openTable (h : name ∉ entries.map Prod.fst) :
    build (.openTable [name] :: statements) path entries =
      build statements [name] (entries ++ [(name, .table .header [])]) := by
  simp [build, Entries.within, Entries.openTable, find?_eq_none h]

/-- An assignment puts its value behind those of the table that was opened last. -/
theorem build_assignment (hname : name ∉ entries.map Prod.fst) (hkey : key ∉ inner.map Prod.fst) :
    build (assignment (key, value) :: statements) [name]
        (entries ++ [(name, .table .header inner)]) =
      build statements [name] (entries ++ [(name, .table .header (inner ++ [(key, value)]))]) := by
  simp [build, assignment, Entries.within, Entries.assign, find?_concat hname,
    find?_eq_none hkey, replace_concat hname]

theorem build_assignments {values : Entries} (hname : name ∉ entries.map Prod.fst)
    (hkeys : ((inner ++ values).map Prod.fst).Nodup) :
    build (values.map assignment ++ statements) [name]
        (entries ++ [(name, .table .header inner)]) =
      build statements [name] (entries ++ [(name, .table .header (inner ++ values))]) := by
  induction values generalizing inner with
  | nil =>
      rw [List.append_nil]
      rfl
  | cons value values ih =>
      have hkeys' : ((inner ++ [value] ++ values).map Prod.fst).Nodup := by
        rwa [List.append_assoc, List.singleton_append]
      have hkey : value.1 ∉ inner.map Prod.fst := by
        rw [List.map_append, List.nodup_append] at hkeys
        exact fun hmem => hkeys.2.2 _ hmem _ (List.mem_cons_self ..) rfl
      rw [List.map_cons, List.cons_append, build_assignment hname hkey, ih hkeys',
        List.append_assoc, List.singleton_append]

/-- Each section becomes a table of its own, behind those of the sections before it. -/
theorem build_sections {sections : List Section} (hsections : ∀ part ∈ sections, part.IsBare)
    (hnames : (entries.map Prod.fst ++ sections.map Section.name).Nodup) :
    build (sections.flatMap Section.statements) path entries =
      some (entries ++ sections.map Section.table) := by
  induction sections generalizing path entries with
  | nil => simp [build]
  | cons part sections ih =>
      obtain ⟨hpart, hsections⟩ := List.forall_mem_cons.mp hsections
      have hname : part.name ∉ entries.map Prod.fst := by
        rw [List.nodup_append] at hnames
        exact fun hmem => hnames.2.2 _ hmem _ (List.mem_cons_self ..) rfl
      have hkeys : (([] ++ part.values).map Prod.fst).Nodup := by
        rw [List.nil_append, Section.values, List.map_map]
        exact hpart.distinct
      have hnames' :
          ((entries ++ [part.table]).map Prod.fst ++ sections.map Section.name).Nodup := by
        rw [List.map_append, List.append_assoc]
        exact hnames
      have hrest : build (sections.flatMap Section.statements) [part.name]
          (entries ++ [part.table]) =
            some (entries ++ [part.table] ++ sections.map Section.table) :=
        ih hsections hnames'
      rw [List.append_assoc] at hrest
      rw [List.flatMap_cons, Section.statements, List.cons_append, build_openTable hname,
        build_assignments hname hkeys, List.nil_append]
      exact hrest

end

theorem read?_eq {text : String} (h : text.toList.head? ≠ some '\ufeff') :
    read? text = (takeStatements text.toList).bind fun statements => build statements [] [] := by
  unfold read?
  dsimp only
  split
  · rename_i htext
    exact absurd (by rw [htext]; rfl) h
  · rfl

/-- A document of sections with distinct names is read as their tables. -/
theorem read?_write {sections : List Section} (hsections : ∀ part ∈ sections, part.IsBare)
    (hnames : (sections.map Section.name).Nodup) :
    read? (write sections) = some (sections.map Section.table) := by
  have htext : (write sections).toList = writeSections sections := String.toList_ofList
  have hmark : (write sections).toList.head? ≠ some '\ufeff' := by
    rw [htext]
    exact fun hhead => absurd (eq_of_mem_head?_writeSections hhead) (by decide)
  have hstatements := takeStatements_sections hsections (skipLines_writeSections sections)
  have hbuild : build (sections.flatMap Section.statements) [] [] =
      some ([] ++ sections.map Section.table) :=
    build_sections hsections hnames
  rw [read?_eq hmark, htext, hstatements]
  exact hbuild

end Retrieval.Toml
