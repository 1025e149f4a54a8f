import Retrieval.Toml.Scalar

/-!
Reading TOML documents. A document is a list of statements, one on a line: headers that open a
table and assignments to keys of the table that was opened last. Reading fails as a whole at the
first part that does not fit or that clashes with what stands before it.
-/

namespace Retrieval.Toml

def inKey (c : Char) : Bool :=
  c.isAlphanum || c == '_' || c == '-'

def takeKey (cs : List Char) : Option (Taken String cs) :=
  match cs with
  | '"' :: rest =>
      (takeBasic rest).map fun taken =>
        ⟨String.ofList taken.value, taken.rest, taken.length_lt_succ⟩
  | '\'' :: rest =>
      (takeLiteral rest).map fun taken =>
        ⟨String.ofList taken.value, taken.rest, taken.length_lt_succ⟩
  | c :: rest =>
      if inKey c then
        some ⟨String.ofList (c :: rest.takeWhile inKey), rest.dropWhile inKey,
          Nat.lt_succ_of_le (List.dropWhile_sublist inKey).length_le⟩
      else none
  | [] => none

/-- The keys of a path, with dots between them, and the text after the blanks that follow it. -/
def takeKeys (cs : List Char) : Option (Taken (List String) cs) := do
  let key ← takeKey cs
  have := key.shorter
  have := length_skipSpaces_le key.rest
  match expect '.' (skipSpaces key.rest) with
  | some dot => do
      have := dot.shorter
      have := length_skipSpaces_le dot.rest
      let keys ← takeKeys (skipSpaces dot.rest)
      have := keys.shorter
      some ⟨key.value :: keys.value, keys.rest, by omega⟩
  | none => some ⟨[key.value], skipSpaces key.rest, by omega⟩
termination_by cs.length

/-- No path is longer than this, and brackets and braces are not nested deeper. -/
def depthLimit : Nat := 80

def takePath (cs : List Char) : Option (Taken (List String) cs) :=
  (takeKeys cs).filter fun path => path.value.length ≤ depthLimit

mutual

def takeValue (depth : Nat) (cs : List Char) : Option (Taken Value cs) :=
  match expect '[' cs with
  | some bracket => do
      have := bracket.shorter
      let items ← if 0 < depth then takeItems (depth - 1) bracket.rest else none
      have := items.shorter
      some ⟨.array items.value, items.rest, by omega⟩
  | none =>
      match expect '{' cs with
      | some brace => do
          have := brace.shorter
          let pairs ← if 0 < depth then takePairs (depth - 1) brace.rest else none
          have := pairs.shorter
          let entries ← pairs.value.foldlM
            (fun entries pair => Entries.assign pair.1 pair.2 entries) []
          some ⟨.table .inline entries, pairs.rest, by omega⟩
      | none =>
          match takeString cs with
          | some taken => some ⟨.string taken.value, taken.rest, taken.shorter⟩
          | none => takeScalar cs
termination_by 2 * cs.length

/-- The values of an array, after its opening bracket or after a comma. -/
def takeItems (depth : Nat) (cs : List Char) : Option (Taken (List Value) cs) :=
  have hcs := length_skipLines_le cs
  match expect ']' (skipLines cs) with
  | some bracket =>
      some ⟨[], bracket.rest, Nat.lt_of_lt_of_le bracket.shorter hcs⟩
  | none => do
      let item ← takeValue depth (skipLines cs)
      have := item.shorter
      have := length_skipLines_le item.rest
      match expect ',' (skipLines item.rest) with
      | some comma => do
          have := comma.shorter
          let items ← takeItems depth comma.rest
          have := items.shorter
          some ⟨item.value :: items.value, items.rest, by omega⟩
      | none => do
          let bracket ← expect ']' (skipLines item.rest)
          have := bracket.shorter
          some ⟨[item.value], bracket.rest, by omega⟩
termination_by 2 * cs.length + 1

/-- The keys and values of a table in braces, after its opening brace or after a comma. Lines may
break between all their parts, but not within a path. -/
def takePairs (depth : Nat) (cs : List Char) :
    Option (Taken (List (List String × Value)) cs) :=
  have hcs := length_skipLines_le cs
  match expect '}' (skipLines cs) with
  | some brace =>
      some ⟨[], brace.rest, Nat.lt_of_lt_of_le brace.shorter hcs⟩
  | none => do
      let path ← takePath (skipLines cs)
      have := path.shorter
      have := length_skipLines_le path.rest
      let equals ← expect '=' (skipLines path.rest)
      have := equals.shorter
      have := length_skipLines_le equals.rest
      let value ← takeValue depth (skipLines equals.rest)
      have := value.shorter
      have := length_skipLines_le value.rest
      match expect ',' (skipLines value.rest) with
      | some comma => do
          have := comma.shorter
          let pairs ← takePairs depth comma.rest
          have := pairs.shorter
          some ⟨(path.value, value.value) :: pairs.value, pairs.rest, by omega⟩
      | none => do
          let brace ← expect '}' (skipLines value.rest)
          have := brace.shorter
          some ⟨[(path.value, value.value)], brace.rest, by omega⟩
termination_by 2 * cs.length + 1

end

/-- One line of a document: a header of a table, a header of one of several tables, or an
assignment. -/
inductive Statement where
  | openTable (path : List String)
  | openElement (path : List String)
  | assign (path : List String) (value : Value)

def takeHeader (cs : List Char) : Option (Taken (List String) cs) := do
  have := length_skipSpaces_le cs
  let path ← takePath (skipSpaces cs)
  have := path.shorter
  let bracket ← expect ']' path.rest
  have := bracket.shorter
  some ⟨path.value, bracket.rest, by omega⟩

def takeStatement (cs : List Char) : Option (Taken Statement cs) :=
  match expect '[' cs with
  | some outer => do
      have := outer.shorter
      match expect '[' outer.rest with
      | some inner => do
          have := inner.shorter
          let path ← takeHeader inner.rest
          have := path.shorter
          let bracket ← expect ']' path.rest
          have := bracket.shorter
          some ⟨.openElement path.value, bracket.rest, by omega⟩
      | none => do
          let path ← takeHeader outer.rest
          have := path.shorter
          some ⟨.openTable path.value, path.rest, by omega⟩
  | none => do
      let path ← takePath cs
      have := path.shorter
      let equals ← expect '=' path.rest
      have := equals.shorter
      have := length_skipSpaces_le equals.rest
      let value ← takeValue depthLimit (skipSpaces equals.rest)
      have := value.shorter
      some ⟨.assign path.value value.value, value.rest, by omega⟩

def takeStatements (cs : List Char) : Option (List Statement) :=
  have := length_skipLines_le cs
  if (skipLines cs).isEmpty then some []
  else do
    let statement ← takeStatement (skipLines cs)
    have := statement.shorter
    have := length_skipSpaces_le statement.rest
    have := length_skipComment_le (skipSpaces statement.rest)
    if (skipComment (skipSpaces statement.rest)).isEmpty then some [statement.value]
    else
      match _h : dropBreak? (skipComment (skipSpaces statement.rest)) with
      | some rest => do
          have := length_lt_of_dropBreak? _h
          let statements ← takeStatements rest
          some (statement.value :: statements)
      | none => none
termination_by cs.length

/-- The entries of a document after some statements. The path is that of the table opened last. -/
def build : List Statement → List String → Entries → Option Entries
  | [], _, entries => some entries
  | .openTable path :: statements, _, entries => do
      let entries ← Entries.within path.dropLast
        (Entries.openTable (path.getLast?.getD "")) entries
      build statements path entries
  | .openElement path :: statements, _, entries => do
      let entries ← Entries.within path.dropLast
        (Entries.openElement (path.getLast?.getD "")) entries
      build statements path entries
  | .assign path value :: statements, current, entries => do
      let entries ← Entries.within current (Entries.assign path value) entries
      build statements current entries

/-- Reads a document. A byte order mark at its front is skipped. -/
def read? (text : String) : Option Entries := do
  let cs := match text.toList with
    | '\ufeff' :: rest => rest
    | cs => cs
  build (← takeStatements cs) [] []

end Retrieval.Toml
