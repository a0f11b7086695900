/-!
# ASCII Case Folding

Keywords and the names of well-known members are compared by folding the letters `A` to `Z` only;
every other character stands for itself.
-/

namespace IncidentTracker.Text

/-- The characters of a text with ASCII capitals made small. -/
def asciiFold (cs : List Char) : List Char :=
  cs.map Char.toLower

/-- Whether every character of a text is ASCII. -/
def isAscii (cs : List Char) : Bool :=
  cs.all fun c => c.toNat < 128

/-- Equality up to the case of ASCII letters. -/
def sameIgnoringAsciiCase (a b : String) : Bool :=
  asciiFold a.toList == asciiFold b.toList

/-! ## §1 The relation -/

theorem sameIgnoringAsciiCase_iff {a b : String} :
    sameIgnoringAsciiCase a b = true ↔ asciiFold a.toList = asciiFold b.toList := by
  simp [sameIgnoringAsciiCase]

@[simp] theorem sameIgnoringAsciiCase_refl (a : String) : sameIgnoringAsciiCase a a = true := by
  simp [sameIgnoringAsciiCase]

theorem asciiFold_append (a b : List Char) : asciiFold (a ++ b) = asciiFold a ++ asciiFold b := by
  simp [asciiFold]

end IncidentTracker.Text
