/-!
Positions in a text, counted in bytes of its UTF-8 form. A position between two characters is a
boundary; a slice is taken between two boundaries only.
-/

namespace Retrieval.Text

def byteSize : List Char → Nat
  | [] => 0
  | c :: cs => c.utf8Size + byteSize cs

@[simp] theorem byteSize_nil : byteSize [] = 0 := rfl

@[simp] theorem byteSize_cons (c : Char) (cs : List Char) :
    byteSize (c :: cs) = c.utf8Size + byteSize cs := rfl

@[simp] theorem byteSize_append (xs ys : List Char) :
    byteSize (xs ++ ys) = byteSize xs + byteSize ys := by
  induction xs with
  | nil => simp
  | cons c xs ih => simp [ih, Nat.add_assoc]

/-- What is left of a text after its first bytes, if that is a boundary. -/
def dropBytes : Nat → List Char → Option (List Char)
  | 0, cs => some cs
  | _ + 1, [] => none
  | n + 1, c :: cs =>
      if c.utf8Size ≤ n + 1 then dropBytes (n + 1 - c.utf8Size) cs else none

/-- The first bytes of a text, if they end at a boundary. -/
def takeBytes : Nat → List Char → Option (List Char)
  | 0, _ => some []
  | _ + 1, [] => none
  | n + 1, c :: cs =>
      if c.utf8Size ≤ n + 1 then (takeBytes (n + 1 - c.utf8Size) cs).map (c :: ·) else none

theorem dropBytes_append (xs ys : List Char) :
    dropBytes (byteSize xs) (xs ++ ys) = some ys := by
  induction xs with
  | nil => simp [dropBytes]
  | cons c xs ih =>
      obtain ⟨n, hn⟩ : ∃ n, c.utf8Size + byteSize xs = n + 1 :=
        Nat.exists_eq_add_one.mpr (Nat.add_pos_left c.utf8Size_pos _)
      have hle : c.utf8Size ≤ n + 1 := by omega
      have hsub : n + 1 - c.utf8Size = byteSize xs := by omega
      simp [hn, dropBytes, hle, hsub, ih]

theorem takeBytes_append (xs ys : List Char) :
    takeBytes (byteSize xs) (xs ++ ys) = some xs := by
  induction xs with
  | nil => simp [takeBytes]
  | cons c xs ih =>
      obtain ⟨n, hn⟩ : ∃ n, c.utf8Size + byteSize xs = n + 1 :=
        Nat.exists_eq_add_one.mpr (Nat.add_pos_left c.utf8Size_pos _)
      have hle : c.utf8Size ≤ n + 1 := by omega
      have hsub : n + 1 - c.utf8Size = byteSize xs := by omega
      simp [hn, takeBytes, hle, hsub, ih]

/-- The characters between two byte positions, if the positions are boundaries of the text and in
order. -/
def slice (start stop : Nat) (cs : List Char) : Option (List Char) :=
  if start ≤ stop then (dropBytes start cs).bind (takeBytes (stop - start)) else none

/-- A slice between the ends of a part is that part. -/
theorem slice_append (xs ys zs : List Char) :
    slice (byteSize xs) (byteSize xs + byteSize ys) (xs ++ (ys ++ zs)) = some ys := by
  simp [slice, dropBytes_append, takeBytes_append]

def substring (start stop : Nat) (s : String) : Option String :=
  (slice start stop s.toList).map String.ofList

end Retrieval.Text
