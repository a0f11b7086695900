/-!
# Sizes in Bytes

How many bytes a text takes when it is written in UTF-8.
-/

namespace IncidentTracker.Text

/-- The size of a text in bytes. -/
def byteSize (text : List Char) : Nat :=
  text.foldl (fun size c => size + c.utf8Size) 0

private theorem foldl_utf8Size (text : List Char) (start : Nat) :
    text.foldl (fun size c => size + c.utf8Size) start = start + byteSize text := by
  induction text generalizing start with
  | nil => rfl
  | cons c rest ih =>
    have hrest : byteSize (c :: rest) = c.utf8Size + byteSize rest := by
      simpa [byteSize] using ih (0 + c.utf8Size)
    rw [List.foldl_cons, ih, hrest, Nat.add_assoc]

@[simp] theorem byteSize_nil : byteSize [] = 0 :=
  rfl

@[simp] theorem byteSize_cons (c : Char) (rest : List Char) :
    byteSize (c :: rest) = c.utf8Size + byteSize rest := by
  simpa [byteSize] using foldl_utf8Size rest (0 + c.utf8Size)

/-- Sizes add up. -/
theorem byteSize_append (a b : List Char) : byteSize (a ++ b) = byteSize a + byteSize b := by
  induction a with
  | nil => simp
  | cons c rest ih => simp [ih, Nat.add_assoc]

end IncidentTracker.Text
