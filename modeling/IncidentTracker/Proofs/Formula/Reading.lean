import IncidentTracker.Proofs.Formula.Basic

/-!
# Reading Formulas

How a text is read as a formula. Outside of parentheses it is cut at blanks into words; two of the
words are the junctions, and the word for `and` binds tighter than the word for `or`. What stands
between junctions is an operand: if it begins with a parenthesis it is a formula in parentheses,
and otherwise it is an atom as it stands, parentheses of its own included. A text is refused if its
parentheses do not match or if it has an empty operand.

Symbols may be of any type, so that a text can hold more than characters.

Main statement: `Formula.read_text`, a proper formula is read back from its text.
-/

namespace IncidentTracker

open Filtering (Junction)

/-- The symbols that structure a text: parentheses, the blank, and the words for the junctions. -/
structure Marks (σ : Type) where
  opening : σ
  closing : σ
  blank : σ
  word : Junction → List σ
  opening_ne_closing : opening ≠ closing
  blank_ne_opening : blank ≠ opening
  blank_ne_closing : blank ≠ closing
  /-- Words hold none of the other marks. -/
  plain : ∀ j, opening ∉ word j ∧ closing ∉ word j ∧ blank ∉ word j
  word_ne : word .and ≠ word .or

/-- The marks of a text of characters, for which only the words may vary. -/
def Marks.ofWords (word : Junction → List Char)
    (plain : ∀ j, '(' ∉ word j ∧ ')' ∉ word j ∧ ' ' ∉ word j)
    (word_ne : word .and ≠ word .or) : Marks Char where
  opening := '('
  closing := ')'
  blank := ' '
  word := word
  opening_ne_closing := by decide
  blank_ne_opening := by decide
  blank_ne_closing := by decide
  plain := plain
  word_ne := word_ne

variable {σ : Type} [DecidableEq σ]

namespace Marks

variable (m : Marks σ)

/-! ## §1 Words -/

/-- A text without parentheses and blanks. -/
def IsPlain (text : List σ) : Prop :=
  m.opening ∉ text ∧ m.closing ∉ text ∧ m.blank ∉ text

instance (text : List σ) : Decidable (m.IsPlain text) :=
  inferInstanceAs (Decidable (_ ∧ _ ∧ _))

/-- How many parentheses are open after a symbol. -/
def depthAfter (d : Nat) (s : σ) : Nat :=
  if s = m.opening then d + 1 else if s = m.closing then d - 1 else d

/-- Whether a text closes the given number of open parentheses, and all that it opens itself. -/
def closes (d : Nat) : List σ → Bool
  | [] => d == 0
  | s :: rest => if s = m.closing ∧ d = 0 then false else closes (m.depthAfter d s) rest

/-- The words of a text that begins inside of the given number of parentheses: it is cut at every
    blank outside of them. -/
def words (d : Nat) : List σ → List (List σ)
  | [] => [[]]
  | s :: rest =>
    if d = 0 ∧ s = m.blank then [] :: words 0 rest
    else (words (m.depthAfter d s) rest).modifyHead (s :: ·)

/-- The operands of a text: cut at the one junction, and every piece of it cut at the other. -/
def operands (text : List σ) : List (List (List σ)) :=
  ((m.words 0 text).splitOn (m.word .or)).map fun conjuncts =>
    (conjuncts.splitOn (m.word .and)).map fun words => [m.blank].intercalate words

end Marks

/-! ## §2 The reader -/

namespace Formula

/-- Reads an operand, where what stands in parentheses is read as given. -/
def readOperand (m : Marks σ) (inner : List σ → Option (Formula (List σ))) :
    List σ → Option (Formula (List σ))
  | [] => none
  | s :: rest =>
    if s = m.opening then
      if rest.getLast? = some m.closing then inner rest.dropLast else none
    else some (.atom (s :: rest))

/-- Reads a text as a formula whose groups are nested less deeply than the given number. -/
def readBelow (m : Marks σ) : Nat → List σ → Option (Formula (List σ))
  | 0, _ => none
  | n + 1, text =>
    if m.closes 0 text then do
      let disjuncts ← (m.operands text).mapM fun operands => do
        let conjuncts ← operands.mapM (readOperand m (readBelow m n))
        return join .and conjuncts
      return join .or disjuncts
    else none

/-- Reads a text as a formula; there are no more groups in it than symbols. -/
def read (m : Marks σ) (text : List σ) : Option (Formula (List σ)) :=
  readBelow m (text.length + 1) text

/-! ## §3 The text of a formula -/

/-- What stands between the parts of a group. -/
def separator (m : Marks σ) (j : Junction) : List σ :=
  m.blank :: (m.word j ++ [m.blank])

mutual

/-- The text of a formula whose atoms are texts. -/
def text (m : Marks σ) : Formula (List σ) → List σ
  | .atom a => a
  | .group j parts => m.opening :: ((separator m j).intercalate (textEach m parts) ++ [m.closing])

def textEach (m : Marks σ) : List (Formula (List σ)) → List (List σ)
  | [] => []
  | part :: parts => text m part :: textEach m parts

end

/-- What an atom must be like to be read as one: not empty, not in parentheses, its own
    parentheses match, and outside of them there is no word for a junction. -/
structure IsAtomic (m : Marks σ) (a : List σ) : Prop where
  nonempty : a ≠ []
  ungrouped : a.head? ≠ some m.opening
  closed : m.closes 0 a = true
  free : ∀ j, m.word j ∉ m.words 0 a

instance (m : Marks σ) (a : List σ) : Decidable (IsAtomic m a) :=
  decidable_of_iff
    (a ≠ [] ∧ a.head? ≠ some m.opening ∧ m.closes 0 a = true ∧ m.word .and ∉ m.words 0 a ∧
      m.word .or ∉ m.words 0 a)
    ⟨fun h => ⟨h.1, h.2.1, h.2.2.1, fun j => match j with
      | .and => h.2.2.2.1
      | .or => h.2.2.2.2⟩,
      fun h => ⟨h.nonempty, h.ungrouped, h.closed, h.free .and, h.free .or⟩⟩

end Formula

namespace Marks

variable {m : Marks σ}

/-! ## §4 Texts put together -/

@[simp] theorem depthAfter_opening (d : Nat) : m.depthAfter d m.opening = d + 1 := by
  rw [depthAfter, if_pos rfl]

@[simp] theorem depthAfter_closing (d : Nat) : m.depthAfter d m.closing = d - 1 := by
  rw [depthAfter, if_neg (Ne.symm m.opening_ne_closing), if_pos rfl]

theorem depthAfter_of_ne {s : σ} (hopening : s ≠ m.opening) (hclosing : s ≠ m.closing) (d : Nat) :
    m.depthAfter d s = d := by
  rw [depthAfter, if_neg hopening, if_neg hclosing]

@[simp] theorem depthAfter_blank (d : Nat) : m.depthAfter d m.blank = d :=
  depthAfter_of_ne m.blank_ne_opening m.blank_ne_closing d

theorem closes_cons {d : Nat} {s : σ} {rest : List σ} :
    m.closes d (s :: rest) = true ↔
      ¬(s = m.closing ∧ d = 0) ∧ m.closes (m.depthAfter d s) rest = true := by
  rw [closes]
  split
  · next h => simp [h]
  · next h => simp [h]

/-- Inside of further parentheses the depth is larger by their number. -/
theorem depthAfter_succ {d : Nat} {s : σ} (h : ¬(s = m.closing ∧ d = 0)) :
    m.depthAfter (d + 1) s = m.depthAfter d s + 1 := by
  unfold depthAfter
  -- only a closing mark at depth 0 would lead below
  split
  · rfl
  · split
    · next hclosing =>
      have hd : d ≠ 0 := fun hd => h ⟨hclosing, hd⟩
      omega
    · rfl

theorem words_ne_nil (d : Nat) (text : List σ) : m.words d text ≠ [] := by
  induction text generalizing d with
  | nil => simp [words]
  | cons s rest ih =>
    rw [words]
    -- a blank begins a new word, any other symbol changes the first one
    split
    · simp
    · intro h
      have hlength := congrArg List.length h
      rw [List.length_modifyHead] at hlength
      exact ih _ (List.length_eq_zero_iff.mp hlength)

private theorem modifyHead_append {α : Type} {f : α → α} {xs : List α} (h : xs ≠ [])
    (ys : List α) : (xs ++ ys).modifyHead f = xs.modifyHead f ++ ys := by
  cases xs with
  | nil => exact absurd rfl h
  | cons x xs => rfl

/-- A text that closes all parentheses leaves the rest as deep as it began. -/
theorem closes_append {d : Nat} {text : List σ} (h : m.closes d text = true) (rest : List σ) :
    m.closes d (text ++ rest) = m.closes 0 rest := by
  -- the induction follows the depth, which is 0 again where `text` ends
  induction text generalizing d with
  | nil =>
    have hd : d = 0 := by simpa [closes] using h
    rw [hd, List.nil_append]
  | cons s text ih =>
    obtain ⟨hs, htext⟩ := closes_cons.mp h
    rw [List.cons_append, closes, if_neg hs, ih htext]

/-- The same inside of one more parenthesis. -/
theorem closes_append_inside {d : Nat} {text : List σ} (h : m.closes d text = true)
    (rest : List σ) : m.closes (d + 1) (text ++ rest) = m.closes 1 rest := by
  -- one level deeper nothing closes more than was opened
  induction text generalizing d with
  | nil =>
    have hd : d = 0 := by simpa [closes] using h
    rw [hd, List.nil_append]
  | cons s text ih =>
    obtain ⟨hs, htext⟩ := closes_cons.mp h
    rw [List.cons_append, closes, if_neg (by simp), depthAfter_succ hs, ih htext]

/-- A text in parentheses closes what it opens. -/
theorem closes_enclosed {text : List σ} (h : m.closes 0 text = true) :
    m.closes 0 (m.opening :: (text ++ [m.closing])) = true := by
  refine closes_cons.mpr ⟨fun heq => m.opening_ne_closing heq.1, ?_⟩
  rw [depthAfter_opening, closes_append_inside h]
  simp [closes]

/-- Behind a text that closes all parentheses, a blank ends a word. -/
theorem words_append_blank {d : Nat} {text : List σ} (h : m.closes d text = true)
    (rest : List σ) : m.words d (text ++ m.blank :: rest) = m.words d text ++ m.words 0 rest := by
  induction text generalizing d with
  | nil =>
    have hd : d = 0 := by simpa [closes] using h
    simp [words, hd]
  | cons s text ih =>
    obtain ⟨-, htext⟩ := closes_cons.mp h
    -- a blank at depth 0 ends a word; any other symbol joins the first one
    by_cases hblank : d = 0 ∧ s = m.blank
    · obtain ⟨rfl, rfl⟩ := hblank
      rw [depthAfter_blank] at htext
      simp [words, ih htext]
    · rw [List.cons_append, words, words, if_neg hblank, if_neg hblank, ih htext,
        modifyHead_append (words_ne_nil _ _)]

/-- Inside of parentheses nothing is cut. -/
theorem words_append_inside {d : Nat} {text : List σ} (h : m.closes d text = true)
    (rest : List σ) :
    m.words (d + 1) (text ++ rest) = (m.words 1 rest).modifyHead (text ++ ·) := by
  -- inside parentheses no blank ends a word, so the text stays in one piece
  induction text generalizing d with
  | nil =>
    have hd : d = 0 := by simpa [closes] using h
    rw [hd]
    exact (congrFun List.modifyHead_id _).symm
  | cons s text ih =>
    obtain ⟨hs, htext⟩ := closes_cons.mp h
    rw [List.cons_append, words, if_neg (by simp), depthAfter_succ hs, ih htext,
      List.modifyHead_modifyHead]
    rfl

/-- A text in parentheses is one word. -/
theorem words_enclosed {text : List σ} (h : m.closes 0 text = true) :
    m.words 0 (m.opening :: (text ++ [m.closing])) = [m.opening :: (text ++ [m.closing])] := by
  have hopening : ¬(0 = 0 ∧ m.opening = m.blank) := fun heq => m.blank_ne_opening heq.2.symm
  rw [words, if_neg hopening, depthAfter_opening, words_append_inside h]
  simp [words]

omit [DecidableEq σ] in
theorem IsPlain.append {front rest : List σ} (hfront : m.IsPlain front) (hrest : m.IsPlain rest) :
    m.IsPlain (front ++ rest) := by
  simp only [IsPlain, List.mem_append, not_or] at hfront hrest ⊢
  exact ⟨⟨hfront.1, hrest.1⟩, ⟨hfront.2.1, hrest.2.1⟩, hfront.2.2, hrest.2.2⟩

/-- Symbols other than marks begin the word that comes next. -/
theorem words_append_of_plain {text : List σ} (h : m.IsPlain text) (d : Nat) (rest : List σ) :
    m.words d (text ++ rest) = (m.words d rest).modifyHead (text ++ ·) := by
  induction text with
  | nil => exact (congrFun List.modifyHead_id _).symm
  | cons s text ih =>
    simp only [IsPlain, List.mem_cons, not_or] at h
    -- the symbol is none of the marks: the depth stays and no word ends
    obtain ⟨⟨hopening, hopens⟩, ⟨hclosing, hcloses⟩, hblank, hblanks⟩ := h
    rw [List.cons_append, words, if_neg fun heq => hblank heq.2.symm,
      depthAfter_of_ne (Ne.symm hopening) (Ne.symm hclosing), ih ⟨hopens, hcloses, hblanks⟩,
      List.modifyHead_modifyHead]
    rfl

/-- Symbols other than marks are one word. -/
theorem words_of_plain {text : List σ} (h : m.IsPlain text) : m.words 0 text = [text] := by
  have happend := words_append_of_plain h 0 []
  rw [List.append_nil] at happend
  rw [happend, words, List.modifyHead_cons, List.append_nil]

/-- A text without parentheses closes all of them. -/
theorem closes_of_flat {text : List σ} (hopening : m.opening ∉ text) (hclosing : m.closing ∉ text) :
    m.closes 0 text = true := by
  induction text with
  | nil => rfl
  | cons s text ih =>
    rw [List.mem_cons, not_or] at hopening hclosing
    refine closes_cons.mpr ⟨fun heq => hclosing.1 heq.1.symm, ?_⟩
    rw [depthAfter_of_ne (Ne.symm hopening.1) (Ne.symm hclosing.1)]
    exact ih hopening.2 hclosing.2

/-- The word for a junction holds no parentheses. -/
theorem closes_word (m : Marks σ) (j : Junction) : m.closes 0 (m.word j) = true :=
  closes_of_flat (m.plain j).1 (m.plain j).2.1

/-- Words put together with blanks are the text again. -/
theorem intercalate_words (d : Nat) (text : List σ) :
    [m.blank].intercalate (m.words d text) = text := by
  induction text generalizing d with
  | nil => rfl
  | cons s rest ih =>
    rw [words]
    split
    · -- a blank at the top level ends a word, and the blank put back is that one
      next h =>
      rw [List.intercalate_cons_of_ne_nil (words_ne_nil 0 rest), ih, h.2]
      rfl
    · -- the symbol goes in front of the first word, of which there always is one
      have hrest := ih (m.depthAfter d s)
      cases hwords : m.words (m.depthAfter d s) rest with
      | nil => exact absurd hwords (words_ne_nil _ rest)
      | cons first others =>
        rw [hwords] at hrest
        cases others with
        | nil =>
          rw [List.intercalate_singleton] at hrest
          rw [List.modifyHead_cons, List.intercalate_singleton, hrest]
        | cons second others =>
          rw [List.intercalate_cons_cons] at hrest
          rw [List.modifyHead_cons, List.intercalate_cons_cons, ← hrest]
          rfl

/-! ## §5 Texts separated by junctions -/

private theorem mem_of_mem_intercalate {α : Type} {sep : List α} {lists : List (List α)} {a : α}
    (h : a ∈ sep.intercalate lists) : a ∈ sep ∨ ∃ list ∈ lists, a ∈ list := by
  induction lists with
  | nil => cases h
  | cons list lists ih =>
    -- no separator stands behind the last list
    by_cases hnil : lists = []
    · subst hnil
      rw [List.intercalate_singleton] at h
      exact .inr ⟨list, List.mem_cons_self, h⟩
    · rw [List.intercalate_cons_of_ne_nil hnil, List.append_assoc, List.mem_append,
        List.mem_append] at h
      rcases h with h | h | h
      · exact .inr ⟨list, List.mem_cons_self, h⟩
      · exact .inl h
      · rcases ih h with h | ⟨other, hother, h⟩
        · exact .inl h
        · exact .inr ⟨other, List.mem_cons_of_mem list hother, h⟩

omit [DecidableEq σ] in
/-- A text behind a junction. -/
private theorem append_separator (front rest : List σ) (j : Junction) :
    front ++ Formula.separator m j ++ rest =
      front ++ m.blank :: (m.word j ++ m.blank :: rest) := by
  simp [Formula.separator]

theorem closes_separated (j : Junction) {texts : List (List σ)}
    (h : ∀ text ∈ texts, m.closes 0 text = true) :
    m.closes 0 ((Formula.separator m j).intercalate texts) = true := by
  induction texts with
  | nil => rfl
  | cons text texts ih =>
    obtain ⟨htext, htexts⟩ := List.forall_mem_cons.mp h
    by_cases hnil : texts = []
    · rw [hnil, List.intercalate_singleton]
      exact htext
    · -- the separator is a word between two blanks, none of which opens or closes anything
      have hblank (rest : List σ) : m.closes 0 (m.blank :: rest) = m.closes 0 rest := by
        rw [closes, if_neg fun heq => m.blank_ne_closing heq.1, depthAfter_blank]
      rw [List.intercalate_cons_of_ne_nil hnil, append_separator, closes_append htext, hblank,
        closes_append (m.closes_word j), hblank]
      exact ih htexts

/-- Between texts that close all parentheses, a junction is a word of its own. -/
theorem words_separated (j : Junction) {texts : List (List σ)} (hne : texts ≠ [])
    (h : ∀ text ∈ texts, m.closes 0 text = true) :
    m.words 0 ((Formula.separator m j).intercalate texts) =
      [m.word j].intercalate (texts.map (m.words 0)) := by
  induction texts with
  | nil => exact absurd rfl hne
  | cons text texts ih =>
    obtain ⟨htext, htexts⟩ := List.forall_mem_cons.mp h
    by_cases hnil : texts = []
    · rw [hnil, List.intercalate_singleton, List.map_singleton, List.intercalate_singleton]
    · -- the words of the first text, the junction, then those of the texts behind it
      have hmap : texts.map (m.words 0) ≠ [] := mt List.map_eq_nil_iff.mp hnil
      rw [List.intercalate_cons_of_ne_nil hnil, append_separator, words_append_blank htext,
        words_append_blank (m.closes_word j), words_of_plain (m.plain j),
        ih hnil htexts, List.map_cons, List.intercalate_cons_of_ne_nil hmap, List.append_assoc]

/-- Texts that close all parentheses and hold no junction outside of them are the operands of the
    text that they make under a junction. -/
theorem operands_separated (j : Junction) {texts : List (List σ)} (hne : texts ≠ [])
    (hclosed : ∀ text ∈ texts, m.closes 0 text = true)
    (hfree : ∀ text ∈ texts, ∀ j, m.word j ∉ m.words 0 text) :
    m.operands ((Formula.separator m j).intercalate texts) =
      match j with
      | .and => [texts]
      | .or => texts.map fun text => [text] := by
  have hmap : texts.map (m.words 0) ≠ [] := mt List.map_eq_nil_iff.mp hne
  have hcut (j : Junction) : ∀ piece ∈ texts.map (m.words 0), m.word j ∉ piece := by
    intro piece hpiece
    obtain ⟨text, htext, rfl⟩ := List.mem_map.mp hpiece
    exact hfree text htext j
  rw [operands, words_separated j hne hclosed]
  cases j with
  | and =>
    -- the other junction stands nowhere in the text, so it is cut at this one only
    have hor : m.word .or ∉ [m.word .and].intercalate (texts.map (m.words 0)) := by
      intro hmem
      rcases mem_of_mem_intercalate hmem with hmem | ⟨piece, hpiece, hmem⟩
      · exact m.word_ne (List.mem_singleton.mp hmem).symm
      · exact hcut .or piece hpiece hmem
    rw [List.splitOn_eq_singleton hor, List.map_singleton,
      List.splitOn_intercalate (m.word .and) (hcut .and) hmap, List.map_map]
    simp [Function.comp_def, intercalate_words]
  | or =>
    -- the text is cut into its operands, and none of those any further
    rw [List.splitOn_intercalate (m.word .or) (hcut .or) hmap, List.map_map]
    refine List.map_congr_left fun text htext => ?_
    show ((m.words 0 text).splitOn (m.word .and)).map _ = [text]
    rw [List.splitOn_eq_singleton (hfree text htext .and), List.map_singleton, intercalate_words]

end Marks

namespace Formula

variable {m : Marks σ}

/-! ## §6 Atoms -/

namespace IsAtomic

/-- A word without marks is an atom unless it is that of a junction. -/
theorem of_plain {a : List σ} (hne : a ≠ []) (h : m.IsPlain a) (hword : ∀ j, m.word j ≠ a) :
    IsAtomic m a where
  nonempty := hne
  ungrouped := fun hhead => h.1 (List.mem_of_head? hhead)
  closed := Marks.closes_of_flat h.1 h.2.1
  free := by
    intro j
    -- a plain text is one word, which is no junction
    rw [Marks.words_of_plain h, List.mem_singleton]
    exact hword j

/-- A name with a list of arguments in parentheses is an atom. -/
theorem call {name inner : List σ} (hne : name ≠ []) (h : m.IsPlain name)
    (hinner : m.closes 0 inner = true) : IsAtomic m (name ++ m.opening :: (inner ++ [m.closing])) where
  nonempty := by simp
  ungrouped := by
    cases name with
    | nil => exact absurd rfl hne
    | cons s name =>
      intro hhead
      have hs : s = m.opening := Option.some.inj hhead
      exact h.1 (hs ▸ List.mem_cons_self)
  closed := by
    rw [Marks.closes_append (Marks.closes_of_flat h.1 h.2.1)]
    exact Marks.closes_enclosed hinner
  free := by
    intro j hmem
    rw [Marks.words_append_of_plain h, Marks.words_enclosed hinner, List.modifyHead_cons,
      List.mem_singleton] at hmem
    -- a word for a junction holds no parenthesis, and this one does
    have hopening : m.opening ∈ m.word j := by
      rw [hmem]
      exact List.mem_append_right name List.mem_cons_self
    exact (m.plain j).1 hopening

/-- Atoms with a blank between them are one atom. -/
theorem append_blank {a b : List σ} (ha : IsAtomic m a) (hb : IsAtomic m b) :
    IsAtomic m (a ++ m.blank :: b) where
  nonempty := by simp
  ungrouped := by
    cases a with
    | nil => exact absurd rfl ha.nonempty
    | cons s a => exact ha.ungrouped
  -- the blank between them changes no depth
  closed := by
    rw [Marks.closes_append ha.closed, Marks.closes, if_neg fun heq => m.blank_ne_closing heq.1,
      Marks.depthAfter_blank, hb.closed]
  free := by
    intro j
    rw [Marks.words_append_blank ha.closed, List.mem_append, not_or]
    exact ⟨ha.free j, hb.free j⟩

end IsAtomic

/-! ## §7 Reading back -/

theorem readOperand_of_isAtomic {a : List σ} (h : IsAtomic m a)
    (inner : List σ → Option (Formula (List σ))) : readOperand m inner a = some (.atom a) := by
  cases a with
  | nil => exact absurd rfl h.nonempty
  | cons s rest =>
    have hs : s ≠ m.opening := fun heq => h.ungrouped (by rw [heq]; rfl)
    rw [readOperand, if_neg hs]

theorem readOperand_enclosed (inner : List σ → Option (Formula (List σ))) (text : List σ) :
    readOperand m inner (m.opening :: (text ++ [m.closing])) = inner text := by
  rw [readOperand, if_pos rfl, List.getLast?_concat, if_pos rfl, List.dropLast_concat]

/-- A text of operands under one junction is read as what its operands are read as, under that
    junction. -/
theorem readBelow_separated {n : Nat} (j : Junction) {texts : List (List σ)}
    {parts : List (Formula (List σ))} (hne : texts ≠ [])
    (hclosed : ∀ text ∈ texts, m.closes 0 text = true)
    (hfree : ∀ text ∈ texts, ∀ j, m.word j ∉ m.words 0 text)
    (hparts : texts.mapM (readOperand m (readBelow m n)) = some parts) :
    readBelow m (n + 1) ((separator m j).intercalate texts) = some (join j parts) := by
  -- the words of junctions in the text are those of the separators alone
  rw [readBelow, if_pos (Marks.closes_separated j hclosed),
    Marks.operands_separated j hne hclosed hfree]
  cases j with
  | and =>
    rw [List.mapM_cons, hparts, List.mapM_nil]
    rfl
  | or =>
    -- between two "or" stands one operand, and joining a single part changes nothing
    have hsingle (operand : List σ) :
        ([operand].mapM (readOperand m (readBelow m n)) >>= fun parts =>
          some (join .and parts)) = readOperand m (readBelow m n) operand := by
      rw [List.mapM_cons, List.mapM_nil]
      cases readOperand m (readBelow m n) operand with
      | none => rfl
      | some part => rfl
    show ((texts.map fun text => [text]).mapM _ >>= fun parts => some (join .or parts)) = _
    rw [List.mapM_map]
    show (texts.mapM (fun operand => [operand].mapM (readOperand m (readBelow m n)) >>=
      fun parts => some (join .and parts)) >>= fun parts => some (join .or parts)) = _
    rw [funext hsingle, hparts]
    rfl

omit [DecidableEq σ] in
theorem textEach_eq_map (m : Marks σ) (parts : List (Formula (List σ))) :
    textEach m parts = parts.map (text m) := by
  induction parts with
  | nil => rfl
  | cons part parts ih => rw [textEach, ih, List.map_cons]

mutual

/-- The text of a formula closes all parentheses. -/
theorem closes_text :
    ∀ φ : Formula (List σ), (∀ a ∈ φ.atoms, IsAtomic m a) → m.closes 0 (φ.text m) = true
  | .atom a, h => (h a (List.mem_singleton.mpr rfl)).closed
  | .group j parts, h => Marks.closes_enclosed (Marks.closes_separated j (closes_textEach parts h))

theorem closes_textEach :
    ∀ parts : List (Formula (List σ)), (∀ a ∈ atomsEach parts, IsAtomic m a) →
      ∀ text ∈ textEach m parts, m.closes 0 text = true
  | [], _ => fun _ hmem => nomatch hmem
  | part :: parts, h => by
    simp only [atomsEach, List.mem_append] at h
    refine List.forall_mem_cons.mpr ⟨?_, ?_⟩
    · exact closes_text part fun a ha => h a (.inl ha)
    · exact closes_textEach parts fun a ha => h a (.inr ha)

end

/-- Outside of its parentheses, the text of a formula holds no junction. -/
theorem word_notMem_text {φ : Formula (List σ)} (h : ∀ a ∈ φ.atoms, IsAtomic m a)
    (j : Junction) : m.word j ∉ m.words 0 (φ.text m) := by
  cases φ with
  | atom a => exact (h a (List.mem_singleton.mpr rfl)).free j
  | group k parts =>
    -- a group is one word that begins with a parenthesis, as no word of a junction does
    rw [text, Marks.words_enclosed (Marks.closes_separated k (closes_textEach parts h))]
    intro hmem
    have hopening : m.opening ∈ m.word j := by
      rw [List.mem_singleton.mp hmem]
      exact List.mem_cons_self
    exact (m.plain j).1 hopening

theorem word_notMem_textEach {parts : List (Formula (List σ))}
    (h : ∀ a ∈ atomsEach parts, IsAtomic m a) :
    ∀ text ∈ textEach m parts, ∀ j, m.word j ∉ m.words 0 text := by
  intro text htext j
  rw [textEach_eq_map] at htext
  obtain ⟨part, hpart, rfl⟩ := List.mem_map.mp htext
  refine word_notMem_text (fun a ha => h a ?_) j
  rw [atomsEach_eq_flatMap]
  exact List.mem_flatMap.mpr ⟨part, hpart, ha⟩

theorem join_of_two_le {α : Type} (j : Junction) {parts : List (Formula α)}
    (h : 2 ≤ parts.length) : join j parts = .group j parts := by
  rcases parts with _ | ⟨part, _ | ⟨next, parts⟩⟩
  · exact absurd h (by simp)
  · exact absurd h (by simp)
  · rfl

mutual

/-- A proper formula is read back where it is an operand. -/
theorem readOperand_text :
    ∀ (φ : Formula (List σ)) {n : Nat}, φ.IsProper → (∀ a ∈ φ.atoms, IsAtomic m a) →
      φ.height ≤ n → readOperand m (readBelow m n) (φ.text m) = some φ
  | .atom a, _, _, h, _ => readOperand_of_isAtomic (h a (List.mem_singleton.mpr rfl)) _
  | .group j parts, n, hproper, h, hheight => by
    obtain ⟨hlength, hparts⟩ := hproper
    rw [height] at hheight
    -- the parentheses of the group take one of the levels that may be read
    obtain ⟨k, rfl⟩ : ∃ k, n = k + 1 := ⟨n - 1, by omega⟩
    have hne : textEach m parts ≠ [] := by
      rw [textEach_eq_map]
      exact mt List.map_eq_nil_iff.mp (List.ne_nil_of_length_pos (Nat.lt_of_lt_of_le Nat.two_pos hlength))
    rw [text, readOperand_enclosed, readBelow_separated j hne (closes_textEach parts h)
      (word_notMem_textEach h) (mapM_readOperand_textEach parts hparts h (by omega)),
      join_of_two_le j hlength]

theorem mapM_readOperand_textEach :
    ∀ (parts : List (Formula (List σ))) {n : Nat}, AreProper parts →
      (∀ a ∈ atomsEach parts, IsAtomic m a) → heightEach parts ≤ n →
      (textEach m parts).mapM (readOperand m (readBelow m n)) = some parts
  | [], _, _, _, _ => rfl
  | part :: parts, n, hproper, h, hheight => by
    simp only [atomsEach, List.mem_append] at h
    rw [heightEach] at hheight
    -- the head is read within the height, and so are the others
    have hpart := readOperand_text part hproper.1 (fun a ha => h a (.inl ha)) (n := n) (by omega)
    have hparts := mapM_readOperand_textEach parts hproper.2 (fun a ha => h a (.inr ha)) (n := n)
      (by omega)
    rw [textEach, List.mapM_cons, hpart, hparts]
    rfl

end

omit [DecidableEq σ] in
mutual

/-- Groups are nested no deeper than there are symbols. -/
theorem height_le_length_text : ∀ φ : Formula (List σ), φ.height ≤ (φ.text m).length
  | .atom _ => Nat.zero_le _
  | .group j parts => by
    have hparts := heightEach_le_length_separated j parts
    rw [height, text, List.length_cons, List.length_append]
    omega

theorem heightEach_le_length_separated (j : Junction) :
    ∀ parts : List (Formula (List σ)),
      heightEach parts ≤ ((separator m j).intercalate (textEach m parts)).length
  | [] => Nat.zero_le _
  | [part] => by
    rw [heightEach, heightEach, textEach, textEach, List.intercalate_singleton, Nat.max_zero]
    exact height_le_length_text part
  | first :: second :: rest => by
    -- each part is as long as it is high, and the separators only add to that
    have hfirst := height_le_length_text first
    have hrest := heightEach_le_length_separated j (second :: rest)
    rw [heightEach, textEach, textEach, List.intercalate_cons_cons, ← textEach,
      List.length_append, List.length_append]
    omega

end

/-- Proper formulas under a junction are read back from their texts under that junction. -/
theorem read_separated (j : Junction) {parts : List (Formula (List σ))} (hne : parts ≠ [])
    (hproper : AreProper parts) (h : ∀ a ∈ atomsEach parts, IsAtomic m a) :
    read m ((separator m j).intercalate (textEach m parts)) = some (join j parts) := by
  have htexts : textEach m parts ≠ [] := by
    rw [textEach_eq_map]
    exact mt List.map_eq_nil_iff.mp hne
  -- as many levels may be read as there are symbols, which is more than enough
  exact readBelow_separated j htexts (closes_textEach parts h) (word_notMem_textEach h)
    (mapM_readOperand_textEach parts hproper h (heightEach_le_length_separated j parts))

/-- A proper formula is read back from its text. -/
theorem read_text {φ : Formula (List σ)} (hproper : φ.IsProper)
    (h : ∀ a ∈ φ.atoms, IsAtomic m a) : read m (φ.text m) = some φ := by
  -- a formula alone is what a single part makes under any junction
  have hread := read_separated (m := m) .and (List.cons_ne_nil φ []) ⟨hproper, trivial⟩
    (by simpa [atomsEach] using h)
  rw [textEach, textEach, List.intercalate_singleton] at hread
  exact hread

end Formula

/-! ## §8 Replacing symbols -/

/-- A replacement of symbols under which one kind of marks becomes another, and nothing else becomes
    a mark. -/
structure Marks.Carries {τ : Type} (m : Marks σ) (m' : Marks τ) (f : σ → τ) : Prop where
  opening : ∀ s, f s = m'.opening ↔ s = m.opening
  closing : ∀ s, f s = m'.closing ↔ s = m.closing
  blank : ∀ s, f s = m'.blank ↔ s = m.blank
  word : ∀ j, (m.word j).map f = m'.word j

namespace Marks.Carries

variable {τ : Type} [DecidableEq τ] {m : Marks σ} {m' : Marks τ} {f : σ → τ}

theorem depthAfter_map (h : m.Carries m' f) (d : Nat) (s : σ) :
    m'.depthAfter d (f s) = m.depthAfter d s := by
  simp only [depthAfter, h.opening, h.closing]

theorem closes_map (h : m.Carries m' f) (d : Nat) (text : List σ) :
    m'.closes d (text.map f) = m.closes d text := by
  induction text generalizing d with
  | nil => rfl
  | cons s text ih => simp only [List.map_cons, closes, h.closing, h.depthAfter_map, ih]

theorem words_map (h : m.Carries m' f) (d : Nat) (text : List σ) :
    m'.words d (text.map f) = (m.words d text).map (List.map f) := by
  induction text generalizing d with
  | nil => rfl
  | cons s text ih =>
    simp only [List.map_cons, words, h.blank, h.depthAfter_map, ih]
    split
    · rfl
    · cases m.words (m.depthAfter d s) text <;> rfl

/-- A text that becomes an atom is one already. -/
theorem isAtomic_of_map (h : m.Carries m' f) {a : List σ} (ha : Formula.IsAtomic m' (a.map f)) :
    Formula.IsAtomic m a where
  nonempty := mt List.map_eq_nil_iff.mpr ha.nonempty
  -- a mark in `a` would be the mark of the same kind in its image
  ungrouped := by
    intro hhead
    refine ha.ungrouped ?_
    rw [List.head?_map, hhead, Option.map_some, (h.opening _).mpr rfl]
  closed := by rw [← h.closes_map, ha.closed]
  free := by
    intro j hmem
    refine ha.free j ?_
    rw [h.words_map, ← h.word]
    exact List.mem_map_of_mem hmem

end Marks.Carries

end IncidentTracker
