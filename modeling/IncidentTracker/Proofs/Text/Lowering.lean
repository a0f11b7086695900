import IncidentTracker.Proofs.Text.Folding

/-!
# Lowering Outside ASCII

Lowering takes hardly any character into ASCII: a capital I with a dot leaves a combining dot behind
its `i`, and of all the others only the Kelvin sign becomes a letter of ASCII, `k`. So what is
lowered to ASCII has been ASCII, apart from Kelvin signs; and a word of other ASCII letters than `k`
is found by lowering exactly where it is found by folding ASCII letters.

Main statements: `isAscii_unKelvin_of_lowerAfter` and `lowerAfter_eq_of_unKelvin`,
`sameIgnoringAsciiCase_lowercase` and `lowercase_eq_of_same`.
-/

namespace IncidentTracker.Text

/-! ## §1 Characters -/

/-- Every run of the table but that of the Kelvin sign leads out of ASCII, to code points that all
    belong to characters. -/
private theorem image_of_run : ∀ run ∈ lowerRuns, run = ⟨0x212A, 0x212A, 1, -8383⟩ ∨
    128 ≤ (run.first : Int) + run.shift ∧ (run.last : Int) + run.shift < 0xD800 ∨
    0xDFFF < (run.first : Int) + run.shift ∧ (run.last : Int) + run.shift < 0x110000 := by
  decide +kernel

private theorem toNat_ofNat {n : Nat} (h : n.isValidChar) : (Char.ofNat n).toNat = n := by
  rw [Char.ofNat, dif_pos h]
  rfl

/-- Of all characters outside ASCII only the Kelvin sign is lowered to one of ASCII. -/
theorem le_shiftedLower {c : Char} (h : 128 ≤ c.toNat) (hkelvin : c ≠ '\u212A') :
    128 ≤ (shiftedLower c).toNat := by
  unfold shiftedLower
  split
  · next run hfind =>
    have hcovers := List.find?_some hfind
    simp only [CaseRun.covers, Bool.and_eq_true, decide_eq_true_eq] at hcovers
    -- the code point lies in its run, so what it is shifted to lies in the image of the run
    rcases image_of_run run (List.mem_of_find?_eq_some hfind) with rfl | himage | himage
    · have hcode : c.toNat = 0x212A := by
        have hlow : 0x212A ≤ c.toNat := hcovers.1.1
        have hhigh : c.toNat ≤ 0x212A := hcovers.1.2
        omega
      exact absurd (Char.toNat_inj.mp hcode) hkelvin
    · rw [toNat_ofNat (.inl (by omega))]
      omega
    · rw [toNat_ofNat (.inr (by omega))]
      omega
  · exact h

/-- A character, or the letter `K` in place of the Kelvin sign. -/
def unKelvin (c : Char) : Char :=
  if c = '\u212A' then 'K' else c

theorem lowerChar_of_unKelvin {c : Char} (h : (unKelvin c).toNat < 128) :
    lowerChar c = [(unKelvin c).toLower] := by
  by_cases hkelvin : c = '\u212A'
  · rw [hkelvin]
    decide +kernel
  · rw [unKelvin, if_neg hkelvin] at h ⊢
    rw [lowerChar, if_pos h]

/-! ## §2 Texts -/

/-- What is lowered to ASCII has been ASCII before, apart from Kelvin signs. -/
theorem isAscii_unKelvin_of_lowerAfter {before cs : List Char}
    (h : isAscii (lowerAfter before cs) = true) : isAscii (cs.map unKelvin) = true := by
  induction cs generalizing before with
  | nil => rfl
  | cons c cs ih =>
    rw [lowerAfter, isAscii, List.all_append, Bool.and_eq_true] at h
    obtain ⟨hfirst, hrest⟩ := h
    -- of the characters that are not ASCII only the Kelvin sign has a lower case that is
    have hc : (unKelvin c).toNat < 128 := by
      refine Decidable.byContradiction fun hge => ?_
      have hkelvin : c ≠ '\u212A' := by
        rintro rfl
        exact hge (by decide)
      rw [unKelvin, if_neg hkelvin, Nat.not_lt] at hge
      split at hfirst
      · -- neither of the two small sigmas is an ASCII character
        split at hfirst <;> exact absurd hfirst (by decide)
      · rw [lowerChar, if_neg (Nat.not_lt.mpr hge)] at hfirst
        split at hfirst
        · exact absurd hfirst (by decide)
        · have hle := le_shiftedLower hge hkelvin
          simp only [List.all_cons, List.all_nil, Bool.and_true, decide_eq_true_eq] at hfirst
          omega
    simpa [isAscii, hc] using ih hrest

/-- A text that is ASCII apart from Kelvin signs is lowered by folding, whatever stands before it. -/
theorem lowerAfter_eq_of_unKelvin {before cs : List Char} (h : isAscii (cs.map unKelvin) = true) :
    lowerAfter before cs = asciiFold (cs.map unKelvin) := by
  induction cs generalizing before with
  | nil => rfl
  | cons c cs ih =>
    simp only [isAscii, List.map_cons, List.all_cons, Bool.and_eq_true, decide_eq_true_eq] at h
    have hsigma : c ≠ 'Σ' := by
      rintro rfl
      exact absurd h.1 (by decide)
    rw [lowerAfter, if_neg hsigma, lowerChar_of_unKelvin h.1, ih (by simpa [isAscii] using h.2)]
    rfl

/-- What is lowered to ASCII without `k` has been ASCII before. -/
theorem isAscii_of_lowerAfter {before cs : List Char}
    (h : ∀ d ∈ lowerAfter before cs, d.toNat < 128 ∧ d ≠ 'k') : isAscii cs = true := by
  have hlower : isAscii (lowerAfter before cs) = true :=
    List.all_eq_true.mpr fun d hd => decide_eq_true (h d hd).1
  have hascii := isAscii_unKelvin_of_lowerAfter hlower
  rw [lowerAfter_eq_of_unKelvin hascii] at h
  refine List.all_eq_true.mpr fun c hc => ?_
  have hmem := List.mem_map_of_mem (f := unKelvin) hc
  -- a Kelvin sign would have become a small k
  have hkelvin : c ≠ '\u212A' := by
    rintro rfl
    exact (h 'k' (List.mem_map_of_mem (f := Char.toLower) hmem)).2 rfl
  have hletter := List.all_eq_true.mp hascii _ hmem
  rwa [unKelvin, if_neg hkelvin] at hletter

/-! ## §3 Words -/

/-- Whether a word consists of small ASCII letters other than `k`. -/
def isSteady (word : String) : Bool :=
  word.toList.all fun c => c.isLower && c != 'k'

private theorem range_of_isLower {c : Char} (h : c.isLower = true) :
    97 ≤ c.toNat ∧ c.toNat ≤ 122 := by
  have hrange : (decide (c.val ≥ 'a'.val) && decide (c.val ≤ 'z'.val)) = true := h
  simpa [UInt32.le_iff_toNat_le] using hrange

/-- What folds to a letter of a steady word is an ASCII character other than `k`. -/
private theorem steady_of_toLower_mem {word : String} (hword : isSteady word = true) {d : Char}
    (hd : d.toLower ∈ asciiFold word.toList) : d.toNat < 128 ∧ d ≠ 'k' := by
  obtain ⟨c, hc, hfold⟩ := List.mem_map.mp hd
  have hletter := List.all_eq_true.mp hword c hc
  simp only [Bool.and_eq_true, bne_iff_ne, ne_eq] at hletter
  have hrange := range_of_isLower hletter.1
  have hk : c.toNat ≠ 107 := fun heq => hletter.2 (Char.toNat_inj.mp heq)
  -- `d` is one of the letters of the word or its capital
  have hcode : d.toLower.toNat = c.toNat := by
    rw [← hfold, toNat_toLower, if_neg (by omega)]
  rw [toNat_toLower] at hcode
  constructor
  · split at hcode <;> omega
  · rintro rfl
    have hsmall : 'k'.toNat = 107 := rfl
    split at hcode <;> omega

/-- What folds to a steady word consists of such characters. -/
private theorem steady_of_fold {word : String} (hword : isSteady word = true) {cs : List Char}
    (h : asciiFold word.toList = asciiFold cs) : ∀ d ∈ cs, d.toNat < 128 ∧ d ≠ 'k' := by
  intro d hd
  apply steady_of_toLower_mem hword
  rw [h]
  exact List.mem_map_of_mem hd

/-- A steady word is the lower-case form of a text, up to the case of ASCII letters, exactly if it is
    the text itself. -/
theorem sameIgnoringAsciiCase_lowercase {word : String} (hword : isSteady word = true)
    (s : String) : sameIgnoringAsciiCase word (lowercase s) = sameIgnoringAsciiCase word s := by
  -- of ASCII texts the lower-case form is the folded one
  by_cases hs : isAscii s.toList = true
  · rw [sameIgnoringAsciiCase, sameIgnoringAsciiCase, lowercase_eq_asciiFold hs,
      asciiFold_asciiFold]
  · -- a text that is not ASCII is no such word, and neither is its lower-case form
    have hself : ¬asciiFold word.toList = asciiFold s.toList := by
      intro heq
      refine hs (List.all_eq_true.mpr fun d hd => ?_)
      exact decide_eq_true (steady_of_fold hword heq d hd).1
    have hlower : ¬asciiFold word.toList = asciiFold (lowercase s).toList := by
      intro heq
      rw [lowercase, String.toList_ofList] at heq
      exact hs (isAscii_of_lowerAfter (steady_of_fold hword heq))
    rw [Bool.eq_iff_iff, sameIgnoringAsciiCase_iff, sameIgnoringAsciiCase_iff]
    exact iff_of_false hlower hself

/-- Lowering makes a steady word of every text that is equal to it up to the case of ASCII
    letters. -/
theorem lowercase_eq_of_same {word s : String} (hword : isSteady word = true)
    (h : sameIgnoringAsciiCase word s = true) : lowercase s = word := by
  have hfold := sameIgnoringAsciiCase_iff.mp h
  have hs : isAscii s.toList = true := List.all_eq_true.mpr fun d hd =>
    decide_eq_true (steady_of_fold hword hfold d hd).1
  -- the word consists of small letters, which folding leaves alone
  have hself : asciiFold word.toList = word.toList := by
    have hchar : ∀ c ∈ word.toList, c.toLower = c := by
      intro c hc
      have hletter := List.all_eq_true.mp hword c hc
      simp only [Bool.and_eq_true] at hletter
      have hrange := range_of_isLower hletter.1
      rw [← Char.toNat_inj, toNat_toLower, if_neg (by omega)]
    rw [asciiFold, List.map_congr_left hchar, List.map_id']
  rw [← String.toList_inj, lowercase_eq_asciiFold hs, ← hfold, hself]

end IncidentTracker.Text
