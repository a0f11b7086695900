import IncidentTracker.Text.Bytes
import IncidentTracker.Text.CaseInsensitive

/-!
# Folding ASCII Letters

What folding does to code points, and how far it goes: a text of ASCII characters only is lowered
by folding, so comparisons of such texts ignore the case of ASCII letters and nothing else.
-/

namespace IncidentTracker.Text

/-! ## §1 Characters -/

theorem toNat_toLower (c : Char) :
    c.toLower.toNat = if 65 ≤ c.toNat ∧ c.toNat ≤ 90 then c.toNat + 32 else c.toNat := by
  -- the bounds in the definition are words, those of the statement are numbers
  have hrange : (c.val ≥ 'A'.val ∧ c.val ≤ 'Z'.val) ↔ (65 ≤ c.toNat ∧ c.toNat ≤ 90) := by
    rw [ge_iff_le, UInt32.le_iff_toNat_le, UInt32.le_iff_toNat_le]
    rfl
  unfold Char.toLower
  by_cases h : 65 ≤ c.toNat ∧ c.toNat ≤ 90
  · rw [dif_pos (hrange.2 h), if_pos h]
    have hadd : (c.val + ('a'.val - 'A'.val)).toNat = c.toNat + 32 := by
      rw [UInt32.toNat_add]
      exact Nat.mod_eq_of_lt (by have := h.2; change c.toNat + 32 < _; omega)
    exact hadd
  · rw [dif_neg (mt hrange.1 h), if_neg h]

theorem isAlpha_eq_false_iff {c : Char} :
    c.isAlpha = false ↔
      ¬(65 ≤ c.toNat ∧ c.toNat ≤ 90) ∧ ¬(97 ≤ c.toNat ∧ c.toNat ≤ 122) := by
  show (decide (c.val ≥ 'A'.val ∧ c.val ≤ 'Z'.val) ||
    (decide (c.val ≥ 'a'.val) && decide (c.val ≤ 'z'.val))) = false ↔ _
  simp [UInt32.le_iff_toNat_le]

/-- Folding leaves what is no letter alone, and makes nothing else equal to it. -/
theorem toLower_eq_iff {c d : Char} (hd : d.isAlpha = false) : c.toLower = d ↔ c = d := by
  have hcode := isAlpha_eq_false_iff.mp hd
  rw [← Char.toNat_inj, ← Char.toNat_inj, toNat_toLower]
  split <;> omega

/-- Small letters take as many bytes as capitals do. -/
theorem utf8Size_toLower (c : Char) : c.toLower.utf8Size = c.utf8Size := by
  by_cases h : 65 ≤ c.toNat ∧ c.toNat ≤ 90
  · -- a capital and its small letter both take one byte
    have hcode := toNat_toLower c
    rw [if_pos h] at hcode
    rw [Char.utf8Size_eq_one_iff.mpr, Char.utf8Size_eq_one_iff.mpr]
    all_goals
      rw [UInt32.le_iff_toNat_le]
      show Char.toNat _ ≤ 127
      omega
  · -- any other character is its own small letter here
    have hsame : c.toLower = c := by rw [← Char.toNat_inj, toNat_toLower, if_neg h]
    rw [hsame]

/-! ## §2 Texts -/

@[simp] theorem asciiFold_cons (c : Char) (cs : List Char) :
    asciiFold (c :: cs) = c.toLower :: asciiFold cs :=
  rfl

theorem byteSize_asciiFold (cs : List Char) : byteSize (asciiFold cs) = byteSize cs := by
  induction cs with
  | nil => rfl
  | cons c cs ih => rw [asciiFold_cons, byteSize_cons, byteSize_cons, utf8Size_toLower, ih]

/-- Folding a text twice is folding it once. -/
theorem asciiFold_asciiFold (cs : List Char) : asciiFold (asciiFold cs) = asciiFold cs := by
  have hchar (c : Char) : c.toLower.toLower = c.toLower := by
    have hnot : ¬(65 ≤ c.toLower.toNat ∧ c.toLower.toNat ≤ 90) := by
      rw [toNat_toLower]
      split <;> omega
    rw [← Char.toNat_inj, toNat_toLower c.toLower, if_neg hnot]
  simp [asciiFold, hchar]

/-- Folding makes no text ASCII that has not been. -/
@[simp] theorem isAscii_asciiFold (cs : List Char) : isAscii (asciiFold cs) = isAscii cs := by
  have hchar (c : Char) : c.toLower.toNat < 128 ↔ c.toNat < 128 := by
    rw [toNat_toLower]
    split <;> omega
  simp [isAscii, asciiFold, List.all_map, Function.comp_def, hchar]

/-- Folding makes a text without letters of no other text. -/
theorem asciiFold_eq_iff {cs ds : List Char} (h : ∀ d ∈ ds, d.isAlpha = false) :
    asciiFold cs = ds ↔ cs = ds := by
  induction cs generalizing ds with
  | nil => exact Iff.rfl
  | cons c cs ih =>
    cases ds with
    | nil => simp
    | cons d ds =>
      obtain ⟨hd, hds⟩ := List.forall_mem_cons.mp h
      rw [asciiFold_cons, List.cons.injEq, List.cons.injEq, toLower_eq_iff hd, ih hds]

/-- A text of ASCII characters is lowered by folding, whatever stands before it. -/
theorem lowerAfter_eq_asciiFold {before cs : List Char} (h : isAscii cs = true) :
    lowerAfter before cs = asciiFold cs := by
  induction cs generalizing before with
  | nil => rfl
  | cons c cs ih =>
    simp only [isAscii, List.all_cons, Bool.and_eq_true, decide_eq_true_eq] at h
    -- the sigma is the only letter whose lower case depends on its place, and it is not ASCII
    have hsigma : c ≠ 'Σ' := by
      rintro rfl
      exact absurd h.1 (by decide)
    rw [lowerAfter, if_neg hsigma, lowerChar, if_pos h.1, ih (by simpa [isAscii] using h.2)]
    rfl

theorem lowercase_eq_asciiFold {s : String} (h : isAscii s.toList = true) :
    (lowercase s).toList = asciiFold s.toList := by
  rw [lowercase, String.toList_ofList, lowerAfter_eq_asciiFold h]

/-! ## §3 Comparisons -/

@[simp] theorem occursIn_nil (text : List Char) : occursIn [] text = true :=
  occursIn_iff.2 ⟨[], text, rfl⟩

theorem eqIgnoreCase_of_isAscii {a b : String} (ha : isAscii a.toList = true)
    (hb : isAscii b.toList = true) :
    eqIgnoreCase a b = (asciiFold a.toList == asciiFold b.toList) := by
  rw [eqIgnoreCase, ha, hb, Bool.and_self, if_pos rfl, sameIgnoringAsciiCase]

/-- Folding ASCII letters, where both texts are ASCII, is a short cut: texts are equal ignoring case
    exactly if their lower-case forms are the same. -/
theorem eqIgnoreCase_iff {a b : String} :
    eqIgnoreCase a b = true ↔ lowercase a = lowercase b := by
  by_cases hascii : isAscii a.toList = true ∧ isAscii b.toList = true
  · obtain ⟨ha, hb⟩ := hascii
    rw [eqIgnoreCase_of_isAscii ha hb, ← String.toList_inj, lowercase_eq_asciiFold ha,
      lowercase_eq_asciiFold hb, beq_iff_eq]
  · rw [eqIgnoreCase, if_neg (by simpa using hascii), beq_iff_eq]

/-- A text that is equal to another one contains it. -/
theorem containsIgnoreCase_of_eqIgnoreCase {a b : String} (h : eqIgnoreCase a b = true) :
    containsIgnoreCase a b = true := by
  have hoccurs : occursIn (lowercase b).toList (lowercase b).toList = true :=
    occursIn_iff.mpr ⟨[], [], by simp⟩
  rw [containsIgnoreCase, eqIgnoreCase_iff.mp h, hoccurs, Bool.or_true]

/-- That the empty text is found everywhere needs no case of its own. -/
theorem containsIgnoreCase_eq (haystack needle : String) :
    containsIgnoreCase haystack needle =
      occursIn (lowercase needle).toList (lowercase haystack).toList := by
  by_cases hempty : needle = ""
  · have hlower : (lowercase "").toList = [] := rfl
    rw [hempty, hlower, occursIn_nil]
    rfl
  · simp [containsIgnoreCase, String.isEmpty_iff, hempty]

theorem containsIgnoreCase_of_isAscii {haystack needle : String}
    (hh : isAscii haystack.toList = true) (hn : isAscii needle.toList = true) :
    containsIgnoreCase haystack needle =
      occursIn (asciiFold needle.toList) (asciiFold haystack.toList) := by
  rw [containsIgnoreCase_eq, lowercase_eq_asciiFold hh, lowercase_eq_asciiFold hn]

end IncidentTracker.Text
