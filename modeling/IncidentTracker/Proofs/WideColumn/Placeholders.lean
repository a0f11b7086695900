import IncidentTracker.Proofs.Dictionary
import IncidentTracker.Proofs.Entity.Members
import IncidentTracker.Proofs.WideColumn.Scanning
import Mathlib.Data.List.TakeWhile

/-!
# Placeholders

The service refuses an expression with a placeholder that is not defined, and one that defines a
placeholder it does not use. Which placeholders occur in the text of an expression is therefore read
off the text, character by character, and compared with what the two dictionaries define.
Placeholders come in the order of the criteria that are written, so the numbers ascend from left to
right.

Main statement: `Scan.placeholders_ofRequest`.
-/

namespace IncidentTracker.WideColumn

open Filtering (Comparison Criterion Junction Semantics)

/-! ## §1 Placeholders in a text -/

/-- Whether a placeholder begins with a character. -/
def isMark (c : Char) : Bool :=
  c == '#' || c == ':'

/-- Whether no placeholder begins in a text. -/
def isUnmarked (text : List Char) : Bool :=
  text.all fun c => !isMark c

/-- Whether a placeholder goes on with a character. -/
def isWordChar (c : Char) : Bool :=
  c.isAlphanum || c == '_'

/-- The placeholders in a text, from left to right: every mark with the word that follows it. -/
def placeholders : List Char → List String
  | [] => []
  | c :: rest =>
    if isMark c then String.ofList (c :: rest.takeWhile isWordChar) :: placeholders rest
    else placeholders rest

/-- A text that ends the word before it. -/
def EndsWord (text : List Char) : Prop :=
  ∀ c rest, text = c :: rest → isWordChar c = false

theorem endsWord_cons {c : Char} (h : isWordChar c = false) (rest : List Char) :
    EndsWord (c :: rest) := by
  intro d tail heq
  rw [← (List.cons.inj heq).1]
  exact h

theorem EndsWord.takeWhile_append {b : List Char} (h : EndsWord b) (a : List Char) :
    (a ++ b).takeWhile isWordChar = a.takeWhile isWordChar := by
  -- no word goes on in `b`
  have hnone : b.takeWhile isWordChar = [] := by
    cases b with
    | nil => rfl
    | cons c rest => simp [h c rest rfl]
  rw [List.takeWhile_append, hnone, List.append_nil]
  split
  · next hall => exact (List.takeWhile_prefix isWordChar).eq_of_length hall |>.symm
  · rfl

/-- A text has the placeholders of its parts if it is cut at the end of a word. -/
theorem placeholders_append (a : List Char) {b : List Char} (h : EndsWord b) :
    placeholders (a ++ b) = placeholders a ++ placeholders b := by
  induction a with
  | nil => rfl
  | cons c rest ih =>
    rw [List.cons_append, placeholders, placeholders, h.takeWhile_append, ih]
    split <;> rfl

/-- A text without marks has no placeholders, whatever it is cut at. -/
theorem placeholders_append_of_isUnmarked {a : List Char} (h : isUnmarked a = true)
    (b : List Char) : placeholders (a ++ b) = placeholders b := by
  induction a with
  | nil => rfl
  | cons c rest ih =>
    rw [isUnmarked, List.all_cons, Bool.and_eq_true, Bool.not_eq_true'] at h
    rw [List.cons_append, placeholders, h.1, ih h.2]
    rfl

theorem placeholders_of_isUnmarked {a : List Char} (h : isUnmarked a = true) :
    placeholders a = [] := by
  have happend := placeholders_append_of_isUnmarked h []
  rw [List.append_nil] at happend
  exact happend

theorem isUnmarked_of_isWordChar {word : List Char} (h : word.all isWordChar = true) :
    isUnmarked word = true := by
  rw [isUnmarked, List.all_eq_true]
  intro c hc
  have hword := List.all_eq_true.mp h c hc
  rw [Bool.not_eq_true', Bool.eq_false_iff, isMark, Ne, Bool.or_eq_true, beq_iff_eq, beq_iff_eq]
  -- neither mark is a character of words
  rintro (rfl | rfl)
  · exact absurd hword (by decide)
  · exact absurd hword (by decide)

/-- A mark with a word is one placeholder. -/
theorem placeholders_cons_word {mark : Char} (hmark : isMark mark = true) {word : List Char}
    (hword : word.all isWordChar = true) :
    placeholders (mark :: word) = [String.ofList (mark :: word)] := by
  have hall : word.takeWhile isWordChar = word :=
    List.takeWhile_eq_self_iff.mpr (List.all_eq_true.mp hword)
  have hrest : placeholders word = [] :=
    placeholders_of_isUnmarked (isUnmarked_of_isWordChar hword)
  rw [placeholders, if_pos hmark, hall, hrest]

/-- Texts put together with a separator have the placeholders of each, if the separator ends the
    words before it and no word is begun by it. -/
theorem placeholders_intercalate {separator : List Char} {texts : List (List Char)}
    (h : ∀ text ∈ texts, ∀ rest,
      placeholders (text ++ separator ++ rest) = placeholders text ++ placeholders rest) :
    placeholders (separator.intercalate texts) = texts.flatMap placeholders := by
  induction texts with
  | nil => rfl
  | cons text texts ih =>
    obtain ⟨htext, htexts⟩ := List.forall_mem_cons.mp h
    -- no separator stands behind the last text
    cases texts with
    | nil => rw [List.intercalate_singleton, List.flatMap_singleton]
    | cons next texts =>
      rw [List.intercalate_cons_cons, htext, ih htexts]
      rfl

/-! ## §2 Placeholders of criteria -/

theorem all_isWordChar_toString (n : Nat) : (toString n).toList.all isWordChar = true := by
  rw [Nat.toString_eq_repr, Nat.toList_repr, List.all_eq_true]
  intro c hc
  have hdigit : c.isDigit = true := Nat.isDigit_of_mem_toDigits (by decide) (by decide) hc
  simp [isWordChar, Char.isAlphanum, hdigit]

/-- A mark, a word and a number make one placeholder. -/
private theorem placeholders_numbered {text : String} (mark : Char) (word : List Char) (n : Nat)
    (htext : text.toList = mark :: word ++ (toString n).toList) (hmark : isMark mark = true)
    (hword : word.all isWordChar = true) : placeholders text.toList = [text] := by
  have hall : (word ++ (toString n).toList).all isWordChar = true := by
    rw [List.all_append, hword, all_isWordChar_toString]
    rfl
  have hone := placeholders_cons_word hmark hall
  rw [← List.cons_append, ← htext, String.ofList_toList] at hone
  exact hone

theorem placeholders_namePlaceholder (n : Nat) :
    placeholders (namePlaceholder n).toList = [namePlaceholder n] := by
  refine placeholders_numbered '#' "name".toList n ?_ (by decide) (by decide)
  rw [namePlaceholder, String.toList_append]
  rfl

theorem placeholders_valuePlaceholder (n : Nat) :
    placeholders (valuePlaceholder n).toList = [valuePlaceholder n] := by
  refine placeholders_numbered ':' "value".toList n ?_ (by decide) (by decide)
  rw [valuePlaceholder, String.toList_append]
  rfl

/-- Whether a criterion asks for a free-form attribute in its map. -/
def isCustom (s : Semantics) (c : Criterion) : Bool :=
  s == .consistent && !isMember Incident c.property

theorem isNested_eq_isCustom (s : Semantics) (c : Criterion) : isNested s c = isCustom s c := by
  rw [isNested, isCustom, Incident.isMember_lowercase]

/-- The placeholders in the text of the `n`-th criterion, from left to right. -/
def criterionPlaceholders (s : Semantics) (n : Nat) (c : Criterion) : List String :=
  (if isCustom s c then [attributesPlaceholder] else []) ++ [namePlaceholder n, valuePlaceholder n]

theorem endsWord_namePlaceholder (n : Nat) : EndsWord (namePlaceholder n).toList := by
  rw [namePlaceholder, String.toList_append]
  exact endsWord_cons (by decide) _

theorem endsWord_valuePlaceholder (n : Nat) : EndsWord (valuePlaceholder n).toList := by
  rw [valuePlaceholder, String.toList_append]
  exact endsWord_cons (by decide) _

/-- The placeholders of what a criterion compares, from left to right. -/
private theorem placeholders_target (s : Semantics) (n : Nat) (c : Criterion) :
    placeholders (if isNested s c then attributesPlaceholder ++ "." ++ namePlaceholder n
        else namePlaceholder n).toList =
      (if isCustom s c then [attributesPlaceholder] else []) ++ [namePlaceholder n] := by
  rw [isNested_eq_isCustom]
  -- the point between the two placeholders ends the first one
  split
  · have hattributes :
        placeholders (attributesPlaceholder ++ ".").toList = [attributesPlaceholder] := by
      decide
    rw [String.toList_append, placeholders_append _ (endsWord_namePlaceholder n), hattributes,
      placeholders_namePlaceholder]
  · rw [placeholders_namePlaceholder]
    rfl

theorem placeholders_criterionText (s : Semantics) (n : Nat) (c : Criterion) :
    placeholders (criterionText s n c).toList = criterionPlaceholders s n c := by
  -- the sign ends the target, and the value stands at the end
  have hpair (sign : String) (hends : EndsWord sign.toList)
      (hplain : isUnmarked sign.toList = true) (target : String) :
      placeholders (target ++ sign ++ valuePlaceholder n).toList =
        placeholders target.toList ++ [valuePlaceholder n] := by
    rw [String.toList_append, String.toList_append,
      placeholders_append _ (endsWord_valuePlaceholder n), placeholders_append _ hends,
      placeholders_of_isUnmarked hplain, List.append_nil, placeholders_valuePlaceholder]
  have hcriterion : criterionPlaceholders s n c =
      placeholders (if isNested s c then attributesPlaceholder ++ "." ++ namePlaceholder n
        else namePlaceholder n).toList ++ [valuePlaceholder n] := by
    rw [placeholders_target, criterionPlaceholders, List.append_assoc]
    rfl
  rw [hcriterion, criterionText]
  cases c.comparison with
  | equals => exact hpair " = " (endsWord_cons (by decide) _) (by decide) _
  | notEquals => exact hpair " <> " (endsWord_cons (by decide) _) (by decide) _
  | contains =>
    have hclose : EndsWord " )".toList := endsWord_cons (by decide) _
    dsimp only
    rw [String.toList_append, placeholders_append _ hclose,
      placeholders_of_isUnmarked (a := " )".toList) (by decide), List.append_nil,
      hpair ", " (endsWord_cons (by decide) _) (by decide), String.toList_append,
      placeholders_append_of_isUnmarked (a := "contains( ".toList) (by decide)]

/-! ## §3 Placeholders of expressions -/

/-- The placeholders in the texts of criteria that are numbered from `n` on, from left to right. -/
def writtenFrom (s : Semantics) (n : Nat) (criteria : List Criterion) : List String :=
  (criteria.zipIdx n).flatMap fun a => criterionPlaceholders s a.2 a.1

theorem writtenFrom_append (s : Semantics) (n : Nat) (criteria more : List Criterion) :
    writtenFrom s n (criteria ++ more) =
      writtenFrom s n criteria ++ writtenFrom s (n + criteria.length) more := by
  rw [writtenFrom, List.zipIdx_append, List.flatMap_append]
  rfl

theorem flatMap_placeholders_criteriaText (s : Semantics) (n : Nat) (criteria : List Criterion) :
    (criteriaText s n criteria).flatMap (fun text => placeholders text.toList) =
      writtenFrom s n criteria := by
  induction criteria generalizing n with
  | nil => rfl
  | cons c criteria ih =>
    rw [criteriaText, List.flatMap_cons, placeholders_criterionText, ih, writtenFrom, writtenFrom,
      List.zipIdx_cons, List.flatMap_cons]

/-- The texts of the parts of a group are told apart by the word between them. -/
theorem placeholders_joinWord (j : Junction) (texts : List String) :
    placeholders ((joinWord j).intercalate texts).toList =
      texts.flatMap fun text => placeholders text.toList := by
  -- the words between the texts begin with a blank and hold no mark
  have hends (rest : List Char) : EndsWord ((joinWord j).toList ++ rest) := by
    cases j <;> exact endsWord_cons (by decide) _
  have hplain : isUnmarked (joinWord j).toList = true := by
    cases j <;> decide
  rw [String.toList_intercalate, placeholders_intercalate, List.flatMap_map]
  intro text _ rest
  rw [List.append_assoc, placeholders_append text (hends rest),
    placeholders_append_of_isUnmarked hplain]

/-- A blank ends the word before it, and is no placeholder. -/
private theorem placeholders_blank (text : String) (rest : List Char) :
    placeholders ((text ++ " ").toList ++ rest) = placeholders text.toList ++ placeholders rest := by
  have hblank : EndsWord (" ".toList ++ rest) := endsWord_cons (by decide) rest
  rw [String.toList_append, List.append_assoc, placeholders_append text.toList hblank]
  rfl

/-- Texts that end in a blank are told apart by it. -/
theorem placeholders_and (texts : List String) :
    placeholders ("and ".intercalate (texts.map (· ++ " "))).toList =
      texts.flatMap fun text => placeholders text.toList := by
  -- the blank behind a text ends its last placeholder
  have hend (text : String) : placeholders (text ++ " ").toList = placeholders text.toList := by
    simpa [placeholders] using placeholders_blank text []
  rw [String.toList_intercalate, placeholders_intercalate, List.map_map, List.flatMap_map]
  · exact congrArg texts.flatMap (funext hend)
  · intro spaced hspaced rest
    obtain ⟨text, -, rfl⟩ := List.mem_map.mp (List.map_map ▸ hspaced)
    have hplain : isUnmarked "and ".toList = true := by decide
    rw [Function.comp_apply, List.append_assoc, placeholders_blank,
      placeholders_append_of_isUnmarked hplain, hend]

mutual

/-- In the text of a folded filter there are the placeholders of its members, numbered through. -/
theorem placeholders_foldedText :
    ∀ (folded : Folded Criterion) (n : Nat),
      placeholders (foldedText n folded).toList = writtenFrom .consistent n folded.members
  | .constant _, _ => rfl
  | .member c, n => by
    rw [foldedText, placeholders_criterionText, Folded.members, writtenFrom, List.zipIdx_singleton,
      List.flatMap_singleton]
  | .group j parts, n => by
    -- the parentheses hold no mark, and the closing one ends a placeholder
    have hclose : EndsWord ")".toList := endsWord_cons (by decide) _
    rw [foldedText, String.toList_append, placeholders_append _ hclose, String.toList_append,
      placeholders_append_of_isUnmarked (a := "(".toList) (by decide), placeholders_joinWord,
      placeholders_foldedTextEach parts n, placeholders_of_isUnmarked (a := ")".toList) (by decide),
      List.append_nil, Folded.members]

theorem placeholders_foldedTextEach :
    ∀ (parts : List (Folded Criterion)) (n : Nat),
      (foldedTextEach n parts).flatMap (fun text => placeholders text.toList) =
        writtenFrom .consistent n (Folded.membersEach parts)
  | [], _ => rfl
  | part :: parts, n => by
    rw [foldedTextEach, List.flatMap_cons, placeholders_foldedText part n,
      placeholders_foldedTextEach parts (n + part.members.length), Folded.membersEach,
      writtenFrom_append]

end

/-! ## §4 Definitions of placeholders -/

private theorem toString_inj {n m : Nat} : toString n = toString m ↔ n = m := by
  constructor
  · intro h
    -- the number can be read back from its digits
    have hdigits : Nat.toDigits 10 n = Nat.toDigits 10 m := by
      rw [← Nat.toList_repr, ← Nat.toList_repr, ← Nat.toString_eq_repr, h, Nat.toString_eq_repr]
    rw [← Nat.ofDigitChars_toDigits (b := 10) (n := n) (by decide) (by decide), hdigits,
      Nat.ofDigitChars_toDigits (by decide) (by decide)]
  · rintro rfl
    rfl

theorem namePlaceholder_inj {n m : Nat} : namePlaceholder n = namePlaceholder m ↔ n = m :=
  (String.append_right_inj "#name").trans toString_inj

theorem valuePlaceholder_inj {n m : Nat} : valuePlaceholder n = valuePlaceholder m ↔ n = m :=
  (String.append_right_inj ":value").trans toString_inj

theorem namePlaceholder_ne_attributesPlaceholder (n : Nat) :
    namePlaceholder n ≠ attributesPlaceholder := by
  intro h
  have hlist := congrArg String.toList h
  rw [namePlaceholder, String.toList_append] at hlist
  exact absurd (congrArg (List.take 2) hlist) (by simp [attributesPlaceholder])

theorem valuePlaceholder_ne_attributesPlaceholder (n : Nat) :
    valuePlaceholder n ≠ attributesPlaceholder := by
  intro h
  have hlist := congrArg String.toList h
  rw [valuePlaceholder, String.toList_append] at hlist
  exact absurd (congrArg (List.take 2) hlist) (by simp [attributesPlaceholder])

theorem namePlaceholder_ne_valuePlaceholder (n m : Nat) : namePlaceholder n ≠ valuePlaceholder m := by
  intro h
  have hlist := congrArg String.toList h
  rw [namePlaceholder, valuePlaceholder, String.toList_append, String.toList_append] at hlist
  exact absurd (congrArg (List.take 2) hlist) (by simp)

section Defined

variable (s : Semantics)

theorem mem_keys_namesFrom {key : String} (n : Nat) (criteria : List Criterion) :
    key ∈ (namesFrom s n criteria).keys ↔
      (∃ a ∈ criteria.zipIdx n, key = namePlaceholder a.2) ∨
        key = attributesPlaceholder ∧ ∃ c ∈ criteria, isCustom s c = true := by
  induction criteria generalizing n with
  | nil => simp [namesFrom]
  | cons c criteria ih =>
    rw [namesFrom, isNested_eq_isCustom]
    -- a custom name also needs the placeholder of the attributes
    split
    · next hcustom =>
      simp only [Dictionary.mem_keys_insert, ih, List.zipIdx_cons, List.mem_cons,
        exists_eq_or_imp, hcustom, true_or, and_true]
      grind
    · next hknown =>
      simp only [Dictionary.mem_keys_insert, ih, List.zipIdx_cons, List.mem_cons,
        exists_eq_or_imp, hknown, Bool.false_eq_true, false_or, or_assoc]

theorem mem_keys_valuesFrom {key : String} (n : Nat) (criteria : List Criterion) :
    key ∈ (valuesFrom n criteria).keys ↔ ∃ a ∈ criteria.zipIdx n, key = valuePlaceholder a.2 := by
  induction criteria generalizing n with
  | nil => simp [valuesFrom]
  | cons c criteria ih =>
    simp only [valuesFrom, Dictionary.mem_keys_insert, ih, List.zipIdx_cons, List.mem_cons,
      exists_eq_or_imp]

/-- The placeholder of the `k`-th name stands for what the `k`-th criterion asks for. -/
theorem get?_namesFrom {n : Nat} {criteria : List Criterion} {a : Criterion × Nat}
    (h : a ∈ criteria.zipIdx n) :
    (namesFrom s n criteria).get? (namePlaceholder a.2) = some (nameOf s a.1) := by
  have hattributes : attributesPlaceholder ≠ namePlaceholder a.2 :=
    (namePlaceholder_ne_attributesPlaceholder a.2).symm
  induction criteria generalizing n with
  | nil => cases h
  | cons c criteria ih =>
    -- the entry of the map does not matter
    have hdrop : (namesFrom s n (c :: criteria)).get? (namePlaceholder a.2) =
        ((namesFrom s (n + 1) criteria).insert (namePlaceholder n) (nameOf s c)).get?
          (namePlaceholder a.2) := by
      rw [namesFrom]
      split
      · rw [Dictionary.get?_insert, if_neg hattributes]
      · rfl
    rw [hdrop, Dictionary.get?_insert]
    rw [List.zipIdx_cons] at h
    rcases List.mem_cons.mp h with rfl | hlater
    · rw [if_pos rfl]
    · have hne : namePlaceholder n ≠ namePlaceholder a.2 := by
        rw [Ne, namePlaceholder_inj]
        exact Nat.ne_of_lt (List.mem_zipIdx hlater).1
      rw [if_neg hne, ih hlater]

theorem get?_valuesFrom {n : Nat} {criteria : List Criterion} {a : Criterion × Nat}
    (h : a ∈ criteria.zipIdx n) :
    (valuesFrom n criteria).get? (valuePlaceholder a.2) = some (valueOf a.1) := by
  induction criteria generalizing n with
  | nil => cases h
  | cons c criteria ih =>
    rw [valuesFrom, Dictionary.get?_insert]
    rw [List.zipIdx_cons] at h
    rcases List.mem_cons.mp h with rfl | hlater
    · rw [if_pos rfl]
    · -- a later criterion has a larger number, so its placeholder is another one
      have hne : valuePlaceholder n ≠ valuePlaceholder a.2 := by
        rw [Ne, valuePlaceholder_inj]
        exact Nat.ne_of_lt (List.mem_zipIdx hlater).1
      rw [if_neg hne, ih hlater]

/-- The placeholder of the map stands for its name if it is defined. -/
theorem get?_namesFrom_attributesPlaceholder {n : Nat} {criteria : List Criterion}
    (h : ∃ c ∈ criteria, isCustom s c = true) :
    (namesFrom s n criteria).get? attributesPlaceholder = some attributesName := by
  induction criteria generalizing n with
  | nil => simp at h
  | cons c criteria ih =>
    rw [namesFrom, isNested_eq_isCustom]
    -- the first custom criterion inserts it, and later insertions are under other placeholders
    split
    · rw [Dictionary.get?_insert, if_pos rfl]
    · next hknown =>
      rw [Dictionary.get?_insert, if_neg (namePlaceholder_ne_attributesPlaceholder n)]
      exact ih (by simpa [hknown] using h)

/-- A placeholder that is in the text of the criterion with its number only, and there once, is
    once among the placeholders of criteria numbered through. -/
theorem count_writtenFrom {token : Nat → String}
    (h : ∀ n k c, (criterionPlaceholders s n c).count (token k) = if n = k then 1 else 0) (n k : Nat)
    (criteria : List Criterion) :
    (writtenFrom s n criteria).count (token k) =
      if n ≤ k ∧ k < n + criteria.length then 1 else 0 := by
  induction criteria generalizing n with
  | nil =>
    rw [if_neg (by rw [List.length_nil]; omega)]
    rfl
  | cons c criteria ih =>
    have hcons : writtenFrom s n (c :: criteria) =
        criterionPlaceholders s n c ++ writtenFrom s (n + 1) criteria := by
      rw [writtenFrom, List.zipIdx_cons, List.flatMap_cons]
      rfl
    -- the token counts at its own number only, which lies in one of the two parts
    rw [hcons, List.count_append, h, ih, List.length_cons]
    split
    · rw [if_neg (by omega), if_pos (by omega)]
    · split
      · rw [if_pos (by omega)]
      · rw [if_neg (by omega)]

theorem count_namePlaceholder (n k : Nat) (c : Criterion) :
    (criterionPlaceholders s n c).count (namePlaceholder k) = if n = k then 1 else 0 := by
  have hattributes := (namePlaceholder_ne_attributesPlaceholder k).symm
  have hvalue := (namePlaceholder_ne_valuePlaceholder k n).symm
  rw [criterionPlaceholders]
  split <;> simp [List.count_cons, hattributes, hvalue, namePlaceholder_inj]

theorem count_valuePlaceholder (n k : Nat) (c : Criterion) :
    (criterionPlaceholders s n c).count (valuePlaceholder k) = if n = k then 1 else 0 := by
  have hattributes := (valuePlaceholder_ne_attributesPlaceholder k).symm
  have hname := namePlaceholder_ne_valuePlaceholder n k
  rw [criterionPlaceholders]
  split <;> simp [List.count_cons, hattributes, hname, valuePlaceholder_inj]

/-- The placeholders that are written are the ones that are defined. -/
theorem mem_writtenFrom {key : String} (n : Nat) (criteria : List Criterion) :
    key ∈ writtenFrom s n criteria ↔
      key ∈ (namesFrom s n criteria).keys ∨ key ∈ (valuesFrom n criteria).keys := by
  -- what a criterion writes is its name and its value, with the attributes if it is custom
  have hcriterion (m : Nat) (c : Criterion) : key ∈ criterionPlaceholders s m c ↔
      (key = attributesPlaceholder ∧ isCustom s c = true) ∨ key = namePlaceholder m ∨
        key = valuePlaceholder m := by
    rw [criterionPlaceholders]
    split <;> simp [*]
  have hcustom : (∃ c ∈ criteria, isCustom s c = true) ↔
      ∃ a ∈ criteria.zipIdx n, isCustom s a.1 = true := by
    have hfst := List.zipIdx_map_fst n criteria
    constructor
    · rintro ⟨c, hc, hcustom⟩
      rw [← hfst] at hc
      obtain ⟨a, ha, rfl⟩ := List.mem_map.mp hc
      exact ⟨a, ha, hcustom⟩
    · rintro ⟨a, ha, hcustom⟩
      exact ⟨a.1, hfst ▸ List.mem_map_of_mem ha, hcustom⟩
  rw [mem_keys_namesFrom, mem_keys_valuesFrom, hcustom, writtenFrom, List.mem_flatMap]
  simp only [hcriterion]
  grind

end Defined

/-! ## §5 Scans -/

/-- The text a bound value carries. -/
def Bound.content : Bound → String
  | .text s => s
  | .number digits => digits

@[simp] theorem content_valueOf (c : Criterion) : (valueOf c).content = c.value := by
  rw [valueOf]
  split <;> rfl

/-- The criteria that a filter is written with: those of the groups of the first level under the
    legacy semantics, what folding leaves under the consistent one. -/
def rendered (s : Semantics) (r : Filtering.Request) : List Criterion :=
  match s with
  | .legacy => r.ownMembers
  | .consistent => (Folded.ofForest r).members

/-- An expression is made of the criteria that the filter is written with. -/
theorem Scan.exists_of_ofRequest {s : Semantics} {r : Filtering.Request} {e : Expression}
    (h : Scan.ofRequest s r = .filtered e) :
    rendered s r ≠ [] ∧ e.names = namesFrom s 0 (rendered s r) ∧
      e.values = valuesFrom 0 (rendered s r) ∧
      placeholders e.text.toList = writtenFrom s 0 (rendered s r) := by
  cases s with
  | legacy =>
    rw [Scan.ofRequest] at h
    dsimp only at h
    split at h
    · cases h
    · next hsome =>
      cases h
      refine ⟨by simpa [rendered] using hsome, rfl, rfl, ?_⟩
      rw [Expression.ofCriteria, placeholders_and, flatMap_placeholders_criteriaText]
      rfl
  | consistent =>
    rcases Folded.isNormal_ofForest r with ⟨b, hconstant⟩ | ⟨φ, hproper, hφ⟩
    · -- a constant is never written down as an expression
      rw [Scan.ofRequest_of_constant hconstant] at h
      cases b <;> cases h
    · rw [Scan.ofRequest_of_formula hφ] at h
      cases h
      have hmembers : rendered .consistent r = φ.atoms := by
        rw [rendered, hφ, Folded.members_ofFormula]
      rw [hmembers, Expression.ofCriteria, placeholders_foldedText, Folded.members_ofFormula]
      exact ⟨φ.atoms_ne_nil hproper, rfl, rfl, rfl⟩

/-- A number is that of a criterion if there are more criteria than that. -/
private theorem exists_mem_zipIdx {key : String} {token : Nat → String} (criteria : List Criterion) :
    (∃ a ∈ criteria.zipIdx, key = token a.2) ↔ ∃ k < criteria.length, key = token k := by
  constructor
  · rintro ⟨a, hmem, hkey⟩
    exact ⟨a.2, by simpa using (List.mem_zipIdx hmem).2.1, hkey⟩
  · rintro ⟨k, hk, hkey⟩
    exact ⟨(criteria[k], k), List.mem_zipIdx_iff_getElem?.mpr (List.getElem?_eq_getElem hk), hkey⟩

/-- Placeholders are numbered in the order of the criteria that a filter is written with, which is
    the order of the filter. Those that are written are those that are defined, each number is
    written once for the name and once for the value, and the placeholders with the number of a
    criterion stand for its property and its value. -/
theorem Scan.placeholders_ofRequest {s : Semantics} {r : Filtering.Request} {e : Expression}
    (h : Scan.ofRequest s r = .filtered e) :
    let leaves := rendered s r
    let written := placeholders e.text.toList
    1 ≤ leaves.length ∧
      leaves.Sublist (match s with | .legacy => r.ownMembers | .consistent => r.leaves) ∧
      (∀ key, key ∈ e.values.keys ↔ ∃ k < leaves.length, key = valuePlaceholder k) ∧
      (∀ key, key ∈ e.names.keys ↔ (∃ k < leaves.length, key = namePlaceholder k) ∨
        key = attributesPlaceholder ∧ ∃ c ∈ leaves, isCustom s c = true) ∧
      written = leaves.zipIdx.flatMap (fun a =>
        (if isCustom s a.1 then [attributesPlaceholder] else []) ++
          [namePlaceholder a.2, valuePlaceholder a.2]) ∧
      (∀ k < leaves.length,
        written.count (namePlaceholder k) = 1 ∧ written.count (valuePlaceholder k) = 1) ∧
      (∀ key, key ∈ written ↔ key ∈ e.names.keys ∨ key ∈ e.values.keys) ∧
      (attributesPlaceholder ∈ e.names.keys →
        e.names.get? attributesPlaceholder = some attributesName) ∧
      ∀ k c, leaves[k]? = some c →
        e.names.get? (namePlaceholder k) =
          some (if isCustom s c then c.property else Text.lowercase c.property) ∧
        ∃ bound, e.values.get? (valuePlaceholder k) = some bound ∧ bound.content = c.value := by
  intro leaves written
  -- the expression in terms of the leaves that it renders
  obtain ⟨hne, hnames, hvalues, hwritten⟩ : leaves ≠ [] ∧ e.names = namesFrom s 0 leaves ∧
      e.values = valuesFrom 0 leaves ∧ written = writtenFrom s 0 leaves :=
    Scan.exists_of_ofRequest h
  have hkeys (key : String) : key ∈ e.names.keys ↔ (∃ k < leaves.length, key = namePlaceholder k) ∨
      key = attributesPlaceholder ∧ ∃ c ∈ leaves, isCustom s c = true := by
    rw [hnames, mem_keys_namesFrom, exists_mem_zipIdx leaves]
  refine ⟨List.length_pos_iff.mpr hne, ?_, ?_, hkeys, hwritten, ?_, ?_, ?_, ?_⟩
  · cases s with
    | legacy => exact List.Sublist.refl _
    | consistent => exact Folded.members_ofForest_sublist r
  · intro key
    rw [hvalues, mem_keys_valuesFrom, exists_mem_zipIdx leaves]
  · intro k hk
    -- each number stands once among those of the leaves
    have hrange : 0 ≤ k ∧ k < 0 + leaves.length := ⟨k.zero_le, by rwa [Nat.zero_add]⟩
    have hcount {token : Nat → String} (htoken : ∀ n k c,
        (criterionPlaceholders s n c).count (token k) = if n = k then 1 else 0) :
        written.count (token k) = 1 := by
      rw [hwritten, count_writtenFrom s htoken, if_pos hrange]
    exact ⟨hcount (count_namePlaceholder s), hcount (count_valuePlaceholder s)⟩
  · intro key
    rw [hwritten, hnames, hvalues, mem_writtenFrom]
  · intro hattributes
    -- the placeholder of the attributes is none of the numbered ones, so it comes from a custom
    -- leaf
    rcases (hkeys attributesPlaceholder).mp hattributes with ⟨k, -, hk⟩ | ⟨-, hcustom⟩
    · exact absurd hk.symm (namePlaceholder_ne_attributesPlaceholder k)
    · rw [hnames]
      exact get?_namesFrom_attributesPlaceholder s hcustom
  · intro k c hc
    have hmem : (c, k) ∈ leaves.zipIdx := List.mem_zipIdx_iff_getElem?.mpr hc
    have hname := get?_namesFrom s hmem
    have hvalue := get?_valuesFrom hmem
    refine ⟨?_, valueOf c, ?_, content_valueOf c⟩
    · rw [hnames, hname, nameOf, isNested_eq_isCustom]
    · rw [hvalues, hvalue]

/-- Two groups are folded away, one of them with a criterion, and the criteria that are left are
    numbered without a gap. -/
theorem Scan.placeholders_ofRequest_folded :
    let r : Filtering.Request :=
      ⟨.and,
        [.group .and [], .branch .or [.group .and [], .group .or [⟨"state", .equals, "open"⟩]] [],
        .branch .or [.group .and [⟨"ID", .equals, "7"⟩], .branch .or [] [⟨"state", .equals, ""⟩],
          .group .and [⟨"#name0", .contains, ":value1"⟩]] []]⟩
    let text := "(#name0 = :value0 or contains( #attributes.#name1, :value1 ))"
    let e : Expression :=
      .ofCriteria .consistent [⟨"ID", .equals, "7"⟩, ⟨"#name0", .contains, ":value1"⟩] text
    Scan.ofRequest .consistent r = .filtered e ∧
      (∀ key, key ∈ placeholders text.toList ↔ key ∈ e.names.keys ∨ key ∈ e.values.keys) ∧
      e.names.get? "#name1" = some "#name0" := by
  intro r text e
  let left : Formula Criterion :=
    .group .or [.atom ⟨"ID", .equals, "7"⟩, .atom ⟨"#name0", .contains, ":value1"⟩]
  -- the empty groups fold away, and with them the leaf beside them
  have hfold : Folded.ofForest r = .ofFormula left := rfl
  have htext : foldedText 0 (.ofFormula left) = text := rfl
  have h : Scan.ofRequest .consistent r = .filtered e := by
    rw [Scan.ofRequest_of_formula hfold, htext]
    rfl
  obtain ⟨-, -, -, -, -, -, hdefined, -, hstand⟩ := Scan.placeholders_ofRequest h
  have hsecond : (rendered .consistent r)[1]? = some ⟨"#name0", .contains, ":value1"⟩ := rfl
  -- the name that looks like a placeholder is bound to one
  have hcustom : isCustom .consistent ⟨"#name0", .contains, ":value1"⟩ = true := rfl
  have hname := (hstand 1 _ hsecond).1
  rw [if_pos hcustom] at hname
  have hnumber : namePlaceholder 1 = "#name1" := by decide
  rw [hnumber] at hname
  exact ⟨h, hdefined, hname⟩

end IncidentTracker.WideColumn
