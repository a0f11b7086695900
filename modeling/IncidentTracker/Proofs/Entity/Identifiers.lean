import IncidentTracker.Entity.Property
import IncidentTracker.Proofs.Text.Lowering
import IncidentTracker.Proofs.Text.Numerals

/-!
# Identifiers as Texts

An identifier is written in decimal. There are no letters in that, and nothing becomes it by lowering
or by folding, so where texts are compared without regard to case an identifier is still equal to
nothing but its own decimal text.

Main statements: `idText_inj` and `eqIgnoreCase_idText`.
-/

namespace IncidentTracker

theorem idText_inj {n m : Int} : idText n = idText m ↔ n = m := by
  rw [idText, idText, String.ofList_inj, Text.Decimal.ofInt_inj]

/-- An identifier in range is read back. -/
theorem toWord?_idText {n : Int} (h : Text.Decimal.isWord n = true) :
    Text.Decimal.toWord? (idText n).toList = some n := by
  rw [idText, String.toList_ofList, Text.Decimal.toWord?_ofInt, if_pos h]

/-- Folding ASCII letters makes nothing else the decimal text of an identifier. -/
theorem asciiFold_eq_ofInt_iff {s : String} {n : Int} :
    Text.asciiFold s.toList = Text.Decimal.ofInt n ↔ s = idText n := by
  rw [Text.asciiFold_eq_iff fun _ hc => Text.Decimal.isAlpha_of_mem_ofInt hc, idText,
    ← String.toList_inj, String.toList_ofList]

/-- Without regard to case, an identifier is equal to its decimal text only. -/
theorem eqIgnoreCase_idText (n : Int) (v : String) :
    Text.eqIgnoreCase (idText n) v = decide (v = idText n) := by
  have hplain : ∀ c ∈ Text.Decimal.ofInt n, c.toNat < 128 ∧ c ≠ '\x00' :=
    fun c hc => Text.Decimal.isPlain_of_mem_ofInt hc
  have hascii : Text.isAscii (idText n).toList = true := by
    rw [idText, String.toList_ofList]
    exact List.all_eq_true.mpr fun c hc => decide_eq_true (hplain c hc).1
  -- two ASCII texts are compared by folding, which leaves digits and the sign alone
  by_cases hv : Text.isAscii v.toList = true
  · rw [Text.eqIgnoreCase_of_isAscii hascii hv, Bool.eq_iff_iff, beq_iff_eq, decide_eq_true_iff,
      ← asciiFold_eq_ofInt_iff, idText, String.toList_ofList, Text.Decimal.asciiFold_ofInt, eq_comm]
  · -- a text that is not ASCII is no decimal text, and lowering does not make it one
    have hne : v ≠ idText n := by
      rintro rfl
      exact hv hascii
    have hlower : Text.lowercase (idText n) ≠ Text.lowercase v := by
      intro heq
      have hchars := congrArg String.toList heq
      rw [Text.lowercase_eq_asciiFold hascii, idText, String.toList_ofList,
        Text.Decimal.asciiFold_ofInt, Text.lowercase, String.toList_ofList] at hchars
      have hdigits : ∀ d ∈ Text.lowerAfter [] v.toList, d.toNat < 128 ∧ d ≠ 'k' := by
        intro d hd
        rw [← hchars] at hd
        refine ⟨(hplain d hd).1, ?_⟩
        rintro rfl
        exact absurd (Text.Decimal.isAlpha_of_mem_ofInt hd) (by decide)
      exact hv (Text.isAscii_of_lowerAfter hdigits)
    rw [Text.eqIgnoreCase, Bool.eq_false_iff.mpr hv, Bool.and_false, if_neg Bool.false_ne_true,
      decide_eq_false hne, beq_eq_false_iff_ne.mpr hlower]

end IncidentTracker
