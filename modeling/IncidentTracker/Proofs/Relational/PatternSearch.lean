import IncidentTracker.Proofs.Relational.LegacyListing
import IncidentTracker.Proofs.Text.Wildcards
import Mathlib.Data.List.Infix

/-!
# Searching by Patterns

A search under the consistent semantics is put as a pattern match: the value is escaped, put between
two `%`, lowered and matched with the lowered text. By the rules of patterns this finds the value
where it stands and nothing else, whatever characters it has.

A store adds three things of its own. A null character ends a text, two characters are read as a
third, and a pattern may be too long to be tried. Where none of them comes up, the answer of the
store is that of the rules.

Main statement: `matches_containsPattern`.
-/

namespace IncidentTracker.Relational

open Text.Like (Matches isMatch items mark specials)

/-! ## §1 Patterns that search -/

theorem toList_containsPattern (needle : String) :
    (containsPattern needle).toList = Text.Like.containing needle.toList :=
  String.toList_ofList

/-- Lowering a pattern lowers its needle. -/
theorem lower_containsPattern (needle : String) :
    lower (containsPattern needle).toList = Text.Like.containing (lower needle.toList) := by
  rw [toList_containsPattern]
  exact Text.Like.asciiFold_containing needle.toList

theorem occursIn_iff_infix {needle text : List Char} :
    Text.occursIn needle text = true ↔ needle <:+: text := by
  rw [Text.occursIn_iff]
  constructor
  · rintro ⟨before, after, h⟩
    exact ⟨before, after, h.symm⟩
  · rintro ⟨before, after, h⟩
    exact ⟨before, after, h.symm⟩

/-- Between texts that folding leaves alone, to match the pattern of one of them is to contain
    it. -/
theorem isMatch_iff_infix {needle text : List Char} (hneedle : Text.asciiFold needle = needle)
    (htext : Text.asciiFold text = text) :
    isMatch (Text.Like.containing needle) text = true ↔ needle <:+: text := by
  rw [Text.Like.isMatch_containing, hneedle, htext, occursIn_iff_infix]

/-! ## §2 Texts as they are read -/

/-- No special character of patterns is read as another one, and no other one is read as it. -/
theorem matchChar_eq_iff {special : Char} (h : special ∈ specials) (c : Char) :
    matchChar c = special ↔ c = special := by
  -- the two characters and what they are read as are none of the special ones
  have hfree : ∀ special ∈ specials,
      '\uFFFD' ≠ special ∧ '\uFFFE' ≠ special ∧ '\uFFFF' ≠ special := by
    simp [specials]
  obtain ⟨hreplacement, hfirst, hsecond⟩ := hfree special h
  unfold matchChar
  split
  · -- the character is one of the two that are read as the replacement character
    next hread =>
    simp only [Bool.or_eq_true, decide_eq_true_eq] at hread
    refine iff_of_false hreplacement ?_
    rcases hread with rfl | rfl
    · exact hfirst
    · exact hsecond
  · exact Iff.rfl

theorem toLower_matchChar (c : Char) : (matchChar c).toLower = matchChar c.toLower := by
  have hfirst : c.toLower = '\uFFFE' ↔ c = '\uFFFE' := Text.toLower_eq_iff (by decide)
  have hsecond : c.toLower = '\uFFFF' ↔ c = '\uFFFF' := Text.toLower_eq_iff (by decide)
  simp only [matchChar, hfirst, hsecond]
  split <;> rfl

theorem asciiFold_map_matchChar (cs : List Char) :
    Text.asciiFold (cs.map matchChar) = (Text.asciiFold cs).map matchChar := by
  simp [Text.asciiFold, Function.comp_def, toLower_matchChar]

/-- What a pattern match reads of a text is left alone by folding. -/
theorem asciiFold_map_lower (cs : List Char) :
    Text.asciiFold ((lower cs).map matchChar) = (lower cs).map matchChar := by
  rw [asciiFold_map_matchChar, lower, Text.asciiFold_asciiFold]

/-- Lowering makes no character that would be read as another one. -/
theorem map_lower_eq_self {cs : List Char} (h : ∀ c ∈ cs, matchChar c = c) :
    (lower cs).map matchChar = lower cs := by
  rw [lower, ← asciiFold_map_matchChar, List.map_congr_left h, List.map_id']

/-- The pattern that searches for a text without null characters is read as the one that searches
    for that text as it is read. -/
theorem matchText_containsPattern {needle : String} (h : '\x00' ∉ needle.toList) :
    matchText (containsPattern needle).toList =
      Text.Like.containing ((lower needle.toList).map matchChar) := by
  have hpattern : '\x00' ∉ (containsPattern needle).toList := by
    rw [toList_containsPattern]
    intro hmem
    rcases Text.Like.mem_of_mem_containing hmem with hspecial | hneedle
    · exact absurd hspecial (by decide)
    · exact h hneedle
  rw [matchText_eq_map hpattern, lower_containsPattern,
    Text.Like.map_containing fun special hspecial => matchChar_eq_iff hspecial]

/-- What a store answers to a search: a pattern that is too long is refused, and otherwise the value
    is found exactly if it stands in the text, both lowered and as they are read. -/
theorem holds_containsPattern {cell : Cell} {needle : String} (hcell : '\x00' ∉ cell.chars)
    (hneedle : '\x00' ∉ needle.toList) :
    Operator.lowerLike.holds cell (containsPattern needle).toList =
      if maxPatternBytes < Text.byteSize (containsPattern needle).toList then
        .error .patternTooLong
      else
        .ok (decide
          ((lower needle.toList).map matchChar <:+: (lower cell.chars).map matchChar)) := by
  -- lowering is done already, so the matcher has no case left to fold
  have hmatch : isMatch (matchText (containsPattern needle).toList) (matchText cell.chars) =
      decide ((lower needle.toList).map matchChar <:+: (lower cell.chars).map matchChar) := by
    rw [matchText_containsPattern hneedle, matchText_eq_map hcell, Bool.eq_iff_iff,
      decide_eq_true_iff]
    exact isMatch_iff_infix (asciiFold_map_lower _) (asciiFold_map_lower _)
  rw [Operator.holds, hmatch]

/-! ## §3 Literal search -/

/-- Searching for a value by its pattern is looking for the value itself, for all texts without null
    characters: the lowered text matches the lowered pattern exactly if it contains the lowered
    value. The pattern is the value with its special characters marked one after the other, between
    two `%`, and apart from these two all its elements are literal. A store answers just that, where
    the pattern is not too long for it and no character of the texts is read as another one. -/
theorem matches_containsPattern {haystack needle : String}
    (hh : Text.isNullFree haystack = true) (hn : Text.isNullFree needle = true) :
    let pattern := lower (containsPattern needle).toList
    let text := lower haystack.toList
    let value := lower needle.toList
    (Matches pattern text ↔ value <:+: text) ∧
      (isMatch pattern text = true ↔ value <:+: text) ∧
      (containsPattern needle).toList =
        '%' :: mark '_' (mark '%' (mark '\\' needle.toList)) ++ ['%'] ∧
      items pattern = .anything :: (value.map .literal ++ [.anything]) ∧
      ∀ cell : Cell, cell.chars = haystack.toList →
        Text.byteSize (containsPattern needle).toList ≤ maxPatternBytes →
        (∀ c ∈ haystack.toList ++ needle.toList, matchChar c = c) →
        Operator.lowerLike.holds cell (containsPattern needle).toList =
          .ok (decide (value <:+: text)) := by
  intro pattern text value
  have hpattern : pattern = Text.Like.containing value := lower_containsPattern needle
  have hfold (cs : List Char) : Text.asciiFold (lower cs) = lower cs := Text.asciiFold_asciiFold cs
  have hmatch : isMatch pattern text = true ↔ value <:+: text := by
    rw [hpattern]
    exact isMatch_iff_infix (hfold _) (hfold _)
  refine ⟨Text.Like.isMatch_iff_matches.symm.trans hmatch, hmatch, ?marks, ?elements, ?store⟩
  case marks => rw [toList_containsPattern, Text.Like.containing, Text.Like.escape_eq_mark]
  case elements => rw [hpattern, Text.Like.items_containing]
  -- in the store the texts also go through `matchChar`, which leaves these characters alone
  case store =>
    intro cell hcell hsize hread
    obtain ⟨hhaystack, hneedle⟩ := List.forall_mem_append.mp hread
    have hnull : '\x00' ∉ cell.chars := hcell ▸ notMem_of_isNullFree hh
    rw [holds_containsPattern hnull (notMem_of_isNullFree hn), if_neg (Nat.not_lt.mpr hsize), hcell,
      map_lower_eq_self hhaystack, map_lower_eq_self hneedle]

/-- A value made of special characters is found where it stands, and it stands for nothing else. -/
theorem matches_containsPattern_specials :
    let needle := "\\%_\\dONE"
    let haystack := "Größe: 100\\%_\\Done!"
    let decoy := "Größe: 100\\anything\\Done!"
    (containsPattern needle).toList = "%\\\\\\%\\_\\\\dONE%".toList ∧
      Matches (lower (containsPattern needle).toList) (lower haystack.toList) ∧
      ¬Matches (lower (containsPattern needle).toList) (lower decoy.toList) ∧
      Operator.lowerLike.holds (.text haystack.toList) (containsPattern needle).toList = .ok true ∧
      Operator.lowerLike.holds (.text decoy.toList) (containsPattern needle).toList =
        .ok false := by
  intro needle haystack decoy
  have hneedle : Text.isNullFree needle = true := by decide
  have hhaystack : Text.isNullFree haystack = true := by decide
  have hdecoy : Text.isNullFree decoy = true := by decide
  obtain ⟨hmatches, -, hpattern, -, hstore⟩ := matches_containsPattern hhaystack hneedle
  obtain ⟨hmatches', -, -, -, hstore'⟩ := matches_containsPattern hdecoy hneedle
  -- whether a text contains another is decided by `occursIn`
  have hfound : lower needle.toList <:+: lower haystack.toList :=
    occursIn_iff_infix.mp (by decide)
  have hmissing : ¬lower needle.toList <:+: lower decoy.toList :=
    mt occursIn_iff_infix.mpr (by decide)
  have hsize : Text.byteSize (containsPattern needle).toList ≤ maxPatternBytes := by decide
  have hread (cs : List Char) (h : cs.map matchChar = cs) : ∀ c ∈ cs, matchChar c = c :=
    List.map_eq_map_iff.mp (h.trans (List.map_id cs).symm)
  refine ⟨hpattern.trans (by decide), hmatches.mpr hfound, mt hmatches'.mp hmissing, ?_, ?_⟩
  · rw [hstore _ rfl hsize (hread _ (by decide)), decide_eq_true hfound]
  · rw [hstore' _ rfl hsize (hread _ (by decide)), decide_eq_false hmissing]

end IncidentTracker.Relational
