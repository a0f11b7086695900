import IncidentTracker.Proofs.Text.LiteralSearch

/-!
# What Patterns Match

What a pattern matches is given by rules, one for each kind of character that it may begin with.
Matching takes the pattern apart once and then tries, for every `%`, how many characters of the text
it might stand for; it finds a match exactly if the rules allow one.

A needle is escaped by marking one special character after the other, the backslash first: it is the
mark, and the marks that are set later must not be marked again.

Main statements: `isMatch_iff_matches` and `escape_eq_mark`.
-/

namespace IncidentTracker.Text.Like

/-! ## §1 Rules -/

/-- Whether a pattern matches the whole of a text. Nothing is matched by a backslash at the end of a
    pattern. -/
inductive Matches : List Char → List Char → Prop where
  | nil : Matches [] []
  /-- `%` stands for any characters, also none. -/
  | anything {pattern rest : List Char} (skipped : List Char) :
      Matches pattern rest → Matches ('%' :: pattern) (skipped ++ rest)
  /-- `_` stands for any one character. -/
  | single {pattern text : List Char} (c : Char) :
      Matches pattern text → Matches ('_' :: pattern) (c :: text)
  /-- A character behind a backslash stands for itself, up to the case of ASCII letters, -/
  | escaped {pattern text : List Char} {c d : Char} (hcase : c.toLower = d.toLower) :
      Matches pattern text → Matches ('\\' :: c :: pattern) (d :: text)
  /-- and so does a character without a meaning of its own. -/
  | plain {pattern text : List Char} {c d : Char} (hplain : c ∉ specials)
      (hcase : c.toLower = d.toLower) :
      Matches pattern text → Matches (c :: pattern) (d :: text)

/-! ## §2 Matching by the rules -/

@[simp] theorem matchItems_single_nil (pattern : List Item) :
    matchItems (.single :: pattern) [] = false := by
  rw [matchItems]

@[simp] theorem matchItems_single_cons (c : Char) (pattern : List Item) (text : List Char) :
    matchItems (.single :: pattern) (c :: text) = matchItems pattern text := by
  rw [matchItems]

@[simp] theorem matchItems_never (pattern : List Item) (text : List Char) :
    matchItems (.never :: pattern) text = false := by
  rw [matchItems]

theorem items_percent (pattern : List Char) :
    items ('%' :: pattern) = .anything :: items pattern := by
  simp [items]

theorem items_underscore (pattern : List Char) :
    items ('_' :: pattern) = .single :: items pattern := by
  simp [items]

theorem items_plain {c : Char} (h : c ∉ specials) (pattern : List Char) :
    items (c :: pattern) = .literal c :: items pattern := by
  simp only [specials, List.mem_cons, List.not_mem_nil, or_false, not_or] at h
  simp [items, h.1, h.2.1, h.2.2]

/-- What the rules allow is found. -/
theorem isMatch_of_matches {pattern text : List Char} (h : Matches pattern text) :
    isMatch pattern text = true := by
  unfold isMatch
  induction h with
  | nil => simp [items]
  | @anything pattern rest skipped _ ih =>
    rw [items_percent]
    exact matchItems_anything_iff.mpr ⟨skipped, rest, rfl, ih⟩
  | single c _ ih => rwa [items_underscore, matchItems_single_cons]
  | escaped hcase _ ih => simp [items, hcase, ih]
  | plain hplain hcase _ ih => simp [items_plain hplain, hcase, ih]

/-- What is found is allowed by the rules. The induction follows the way in which a pattern is taken
    apart. -/
theorem matches_of_isMatch {pattern text : List Char} (h : isMatch pattern text = true) :
    Matches pattern text := by
  unfold isMatch at h
  induction pattern using items.induct generalizing text with
  | case1 =>
    rw [items, matchItems_nil, List.isEmpty_iff] at h
    exact h ▸ .nil
  -- a backslash and the character it escapes
  | case2 c pattern ih =>
    rw [items] at h
    cases text with
    | nil => simp at h
    | cons d text =>
      rw [matchItems_literal_cons, Bool.and_eq_true, beq_iff_eq] at h
      exact .escaped h.1 (ih h.2)
  -- a backslash at the end, which matches nothing
  | case3 => simp [items] at h
  | case4 c pattern hescaped hlast ih =>
    have hbackslash : c ≠ '\\' := by
      intro heq
      cases pattern with
      | nil => exact hlast heq rfl
      | cons d pattern => exact hescaped d pattern heq rfl
    -- what is no backslash is a wildcard or stands for itself
    by_cases hpercent : c = '%'
    · subst hpercent
      rw [items_percent] at h
      obtain ⟨skipped, rest, rfl, hrest⟩ := matchItems_anything_iff.mp h
      exact .anything skipped (ih hrest)
    · by_cases hunderscore : c = '_'
      · subst hunderscore
        rw [items_underscore] at h
        cases text with
        | nil => simp at h
        | cons d text => exact .single d (ih (by simpa using h))
      · have hplain : c ∉ specials := by simp [specials, hbackslash, hpercent, hunderscore]
        rw [items_plain hplain] at h
        cases text with
        | nil => simp at h
        | cons d text =>
          rw [matchItems_literal_cons, Bool.and_eq_true, beq_iff_eq] at h
          exact .plain hplain h.1 (ih h.2)

theorem isMatch_iff_matches {pattern text : List Char} :
    isMatch pattern text = true ↔ Matches pattern text :=
  ⟨matches_of_isMatch, isMatch_of_matches⟩

/-! ## §3 Escaping -/

/-- A text with a backslash in front of every occurrence of a character. -/
def mark (special : Char) (text : List Char) : List Char :=
  text.flatMap fun c => if c = special then ['\\', c] else [c]

/-- Escaping is marking the special characters one after the other. -/
theorem escape_eq_mark (text : List Char) :
    escape text = mark '_' (mark '%' (mark '\\' text)) := by
  simp only [escape, mark, List.flatMap_assoc]
  congr 1
  funext c
  -- the later marks are set in front of a character or a marked backslash, and leave either alone
  by_cases hbackslash : c = '\\'
  · subst hbackslash
    rfl
  · by_cases hpercent : c = '%'
    · subst hpercent
      rfl
    · simp [escapeChar, hbackslash, hpercent]

end IncidentTracker.Text.Like
