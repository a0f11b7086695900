import IncidentTracker.Proofs.Text.Folding
import IncidentTracker.Text.Like

/-!
# Literal Search by Wildcards

A pattern of literal elements between two `%` finds its characters inside a text, up to the case
of ASCII letters, and escaping takes care that every character of a needle becomes a literal
element. So a match of such a pattern is an occurrence of the needle in the folded text.
-/

namespace IncidentTracker.Text.Like

/-! ## §1 Elements of a pattern -/

@[simp] theorem matchItems_nil (text : List Char) : matchItems [] text = text.isEmpty := by
  rw [matchItems]

@[simp] theorem matchItems_literal_nil (c : Char) (pattern : List Item) :
    matchItems (.literal c :: pattern) [] = false := by
  rw [matchItems]

@[simp] theorem matchItems_literal_cons (c d : Char) (pattern : List Item) (text : List Char) :
    matchItems (.literal c :: pattern) (d :: text) =
      (c.toLower == d.toLower && matchItems pattern text) := by
  rw [matchItems]

/-- An element for any characters leaves some end of the text to the rest of the pattern. -/
theorem matchItems_anything_iff {pattern : List Item} {text : List Char} :
    matchItems (.anything :: pattern) text = true ↔
      ∃ skipped rest, text = skipped ++ rest ∧ matchItems pattern rest = true := by
  rw [matchItems]
  -- the loop tries the rest of the pattern at every place, from the first to the end
  induction text with
  | nil =>
    rw [matchItems.afterSome]
    constructor
    · intro h
      exact ⟨[], [], rfl, h⟩
    · rintro ⟨skipped, rest, heq, h⟩
      obtain ⟨-, rfl⟩ := List.append_eq_nil_iff.1 heq.symm
      exact h
  | cons c text ih =>
    rw [matchItems.afterSome, Bool.or_eq_true, ih]
    constructor
    · -- either nothing is skipped, or this character and what the rest skips
      rintro (h | ⟨skipped, rest, rfl, h⟩)
      · exact ⟨[], c :: text, rfl, h⟩
      · exact ⟨c :: skipped, rest, rfl, h⟩
    · rintro ⟨skipped, rest, heq, h⟩
      cases skipped with
      | nil => exact .inl (heq ▸ h)
      | cons s skipped =>
        rw [List.cons_append, List.cons.injEq] at heq
        exact .inr ⟨skipped, rest, heq.2, h⟩

/-- Literal elements match a beginning of the text that folds to the same characters. -/
theorem matchItems_literals_iff {needle : List Char} {pattern : List Item} {text : List Char} :
    matchItems (needle.map .literal ++ pattern) text = true ↔
      ∃ front rest, text = front ++ rest ∧ asciiFold front = asciiFold needle ∧
        matchItems pattern rest = true := by
  induction needle generalizing text with
  | nil =>
    constructor
    · intro h
      exact ⟨[], text, rfl, rfl, h⟩
    · rintro ⟨front, rest, rfl, hfront, h⟩
      rw [List.map_eq_nil_iff.1 hfront]
      exact h
  | cons c needle ih =>
    cases text with
    | nil => simp [asciiFold]
    | cons d text =>
      -- one literal takes one character, up to the case of ASCII letters
      rw [List.map_cons, List.cons_append, matchItems_literal_cons, Bool.and_eq_true, beq_iff_eq, ih]
      constructor
      · rintro ⟨hc, front, rest, rfl, hfront, h⟩
        refine ⟨d :: front, rest, rfl, ?_, h⟩
        simpa [asciiFold, hc] using hfront
      · rintro ⟨front, rest, heq, hfront, h⟩
        cases front with
        | nil => simp [asciiFold] at hfront
        | cons e front =>
          rw [List.cons_append, List.cons.injEq] at heq
          obtain ⟨rfl, rfl⟩ := heq
          simp only [asciiFold, List.map_cons, List.cons.injEq] at hfront
          exact ⟨hfront.1.symm, front, rest, rfl, hfront.2, h⟩

/-! ## §2 Escaped needles -/

/-- The elements of the pattern that searches for a needle. -/
theorem items_containing (needle : List Char) :
    items (containing needle) = .anything :: (needle.map .literal ++ [.anything]) := by
  have hfront : items (containing needle) = .anything :: items (escape needle ++ ['%']) := by
    simp [containing, items]
  rw [hfront, items_escape_append]
  simp [items]

/-- A needle that has been folded occurs in the folded text exactly where it matches. -/
theorem occursIn_asciiFold_iff {needle text : List Char} :
    occursIn (asciiFold needle) (asciiFold text) = true ↔
      ∃ before middle after, text = before ++ middle ++ after ∧
        asciiFold middle = asciiFold needle := by
  rw [occursIn_iff]
  constructor
  · -- folding keeps every character in its place, so the parts of the folded text are folded parts
    rintro ⟨before, after, h⟩
    obtain ⟨front, after', rfl, hfront, -⟩ := List.map_eq_append_iff.1 h
    obtain ⟨before', middle, rfl, -, hmiddle⟩ := List.map_eq_append_iff.1 hfront
    exact ⟨before', middle, after', rfl, hmiddle⟩
  · rintro ⟨before, middle, after, rfl, h⟩
    exact ⟨asciiFold before, asciiFold after, by rw [asciiFold_append, asciiFold_append, h]⟩

/-- The pattern of a needle matches a text exactly if the needle occurs in it, both folded. -/
theorem isMatch_containing (needle text : List Char) :
    isMatch (containing needle) text = occursIn (asciiFold needle) (asciiFold text) := by
  rw [Bool.eq_iff_iff, occursIn_asciiFold_iff, isMatch, items_containing, matchItems_anything_iff]
  -- the two percent signs stand for what comes before the needle and after it
  constructor
  · rintro ⟨before, rest, rfl, h⟩
    obtain ⟨middle, after, rfl, hmiddle, -⟩ := matchItems_literals_iff.1 h
    exact ⟨before, middle, after, by simp, hmiddle⟩
  · rintro ⟨before, middle, after, rfl, hmiddle⟩
    refine ⟨before, middle ++ after, by simp, matchItems_literals_iff.2 ?_⟩
    exact ⟨middle, after, rfl, hmiddle, matchItems_anything_iff.2 ⟨after, [], by simp, by simp⟩⟩

/-- The characters with a meaning of their own in a pattern. -/
def specials : List Char :=
  ['\\', '%', '_']

/-- Nothing comes into a pattern but what is in its needle and what has a meaning of its own. -/
theorem mem_of_mem_containing {c : Char} {needle : List Char} (h : c ∈ containing needle) :
    c ∈ specials ∨ c ∈ needle := by
  simp only [containing, escape, List.mem_append, List.mem_cons, List.mem_flatMap,
    List.not_mem_nil, or_false] at h
  rcases h with (rfl | ⟨d, hd, hc⟩) | rfl
  · exact .inl (by decide)
  · -- an escaped character brings a backslash with it
    unfold escapeChar at hc
    split at hc
    · rcases List.mem_cons.mp hc with rfl | hc
      · exact .inl (by decide)
      · exact .inr (List.mem_singleton.mp hc ▸ hd)
    · exact .inr (List.mem_singleton.mp hc ▸ hd)
  · exact .inl (by decide)

/-- Replacing the characters of a pattern replaces those of its needle, if characters with a meaning
    of their own are neither made nor lost. -/
theorem map_containing {f : Char → Char}
    (hf : ∀ special ∈ specials, ∀ c, f c = special ↔ c = special) (needle : List Char) :
    (containing needle).map f = containing (needle.map f) := by
  have hkept (special : Char) (h : special ∈ specials) : f special = special :=
    (hf special h special).mpr rfl
  have hb := hf '\\' (by decide)
  have hp := hf '%' (by decide)
  have hu := hf '_' (by decide)
  -- a character is escaped before the change exactly if it is after it
  have hchar (c : Char) : (escapeChar c).map f = escapeChar (f c) := by
    simp only [escapeChar, hb, hp, hu]
    split <;> simp [hkept '\\' (by decide)]
  have hescape : (escape needle).map f = escape (needle.map f) := by
    rw [escape, escape, List.map_flatMap, List.flatMap_map]
    exact congrArg (needle.flatMap ·) (funext hchar)
  simp [containing, hescape, hkept '%' (by decide)]

/-- Folding a pattern folds its needle. -/
theorem asciiFold_containing (needle : List Char) :
    asciiFold (containing needle) = containing (asciiFold needle) := by
  -- the special characters are no letters, so folding neither makes nor loses one
  have hplain : ∀ special ∈ specials, special.isAlpha = false := by simp [specials]
  exact map_containing (fun special h _ => toLower_eq_iff (hplain special h)) needle

end IncidentTracker.Text.Like
