import IncidentTracker.Filtering.Basic
import IncidentTracker.Proofs.Text.Lowering

/-!
# Equality Ignoring Case

Two ASCII texts are compared by folding their letters, and any other two by their lower-case forms.
Which way it is depends on the pair, so among three texts both may be taken: `k` and `K` are
compared by folding, and the Kelvin sign is compared with either by lowering. Nothing comes of that.
Folding only cuts short what lowering would find, so equality is an equivalence; and where one of
two texts is ASCII, they are equal exactly if they are by folding once the other is written with `K`
for each Kelvin sign.

Main statement: `equivalence_eqIgnoreCase`.
-/

namespace IncidentTracker

open Filtering (Comparison)

namespace Text

/-- An ASCII text is equal to another text exactly if it is when that is written with `K` for each
    Kelvin sign. -/
theorem eqIgnoreCase_iff_unKelvin {a b : String} (ha : isAscii a.toList = true) :
    eqIgnoreCase a b = true ↔ asciiFold a.toList = asciiFold (b.toList.map unKelvin) := by
  rw [eqIgnoreCase_iff, ← String.toList_inj, lowercase_eq_asciiFold ha, lowercase,
    String.toList_ofList]
  -- either way the other text is lowered to ASCII, so it is ASCII apart from Kelvin signs
  constructor
  · intro h
    have hlower : isAscii (lowerAfter [] b.toList) = true := by
      rw [← h, isAscii_asciiFold, ha]
    rw [h, lowerAfter_eq_of_unKelvin (isAscii_unKelvin_of_lowerAfter hlower)]
  · intro h
    have hspelt : isAscii (b.toList.map unKelvin) = true := by
      rw [← isAscii_asciiFold, ← h, isAscii_asciiFold, ha]
    rw [h, lowerAfter_eq_of_unKelvin hspelt]

end Text

/-- A comparison sees of its two texts nothing but their lower-case forms. -/
theorem Filtering.Comparison.test_congr {actual actual' value value' : String} (c : Comparison)
    (hactual : Text.lowercase actual = Text.lowercase actual')
    (hvalue : Text.lowercase value = Text.lowercase value') :
    c.test actual value = c.test actual' value' := by
  have hequal : Text.eqIgnoreCase actual value = Text.eqIgnoreCase actual' value' := by
    rw [Bool.eq_iff_iff, Text.eqIgnoreCase_iff, Text.eqIgnoreCase_iff, hactual, hvalue]
  -- all three comparisons look at the lower-cased texts only
  cases c with
  | equals => exact hequal
  | notEquals => exact congrArg (!·) hequal
  | contains =>
    show Text.containsIgnoreCase actual value = Text.containsIgnoreCase actual' value'
    rw [Text.containsIgnoreCase_eq, Text.containsIgnoreCase_eq, hactual, hvalue]

namespace Text

/-- Texts are equal ignoring case exactly if their lower-case forms are the same, whichever way they
    are compared. So this is an equivalence, also where it is asked of ASCII texts and of others in
    turn: an ASCII text is equal to another text exactly if it takes no more than to read each
    Kelvin sign as `K` and to fold. No comparison that a criterion makes tells equal texts apart. -/
theorem equivalence_eqIgnoreCase :
    (∀ a b, eqIgnoreCase a b = true ↔ lowercase a = lowercase b) ∧
      (Equivalence fun a b => eqIgnoreCase a b = true) ∧
      (∀ a b, isAscii a.toList = true →
        (eqIgnoreCase a b = true ↔ asciiFold a.toList = asciiFold (b.toList.map unKelvin))) ∧
      ∀ (c : Comparison) (actual actual' value value' : String),
        eqIgnoreCase actual actual' = true → eqIgnoreCase value value' = true →
        c.test actual value = c.test actual' value' := by
  refine ⟨fun a b => eqIgnoreCase_iff, ?equivalence, fun a b => eqIgnoreCase_iff_unKelvin, ?tests⟩
  case equivalence =>
    -- sameness of lower-case forms is an equivalence, whatever the texts are
    constructor
    · intro a
      exact eqIgnoreCase_iff.mpr rfl
    · intro a b h
      exact eqIgnoreCase_iff.mpr (eqIgnoreCase_iff.mp h).symm
    · intro a b c hab hbc
      exact eqIgnoreCase_iff.mpr ((eqIgnoreCase_iff.mp hab).trans (eqIgnoreCase_iff.mp hbc))
  case tests =>
    intro c actual actual' value value' hactual hvalue
    exact c.test_congr (eqIgnoreCase_iff.mp hactual) (eqIgnoreCase_iff.mp hvalue)

/-- Of three texts two are compared by folding, and the third with each of them by lowering. -/
theorem equivalence_eqIgnoreCase_kelvin :
    eqIgnoreCase "Task" "TASK" = true ∧ eqIgnoreCase "TASK" "tas\u212A" = true ∧
      eqIgnoreCase "Task" "tas\u212A" = true ∧
      Comparison.contains.test "a Task" "SK" = Comparison.contains.test "A tas\u212A" "sk" := by
  obtain ⟨-, hequivalence, hkelvin, htest⟩ := equivalence_eqIgnoreCase
  have hfolded : eqIgnoreCase "Task" "TASK" = true := by decide
  have hmixed : eqIgnoreCase "TASK" "tas\u212A" = true :=
    (hkelvin "TASK" "tas\u212A" (by decide)).mpr (by decide)
  have hactual : eqIgnoreCase "a Task" "A tas\u212A" = true :=
    (hkelvin "a Task" "A tas\u212A" (by decide)).mpr (by decide)
  have hvalue : eqIgnoreCase "SK" "sk" = true := by decide
  exact ⟨hfolded, hmixed, hequivalence.trans hfolded hmixed, htest _ _ _ _ _ hactual hvalue⟩

end Text

end IncidentTracker
