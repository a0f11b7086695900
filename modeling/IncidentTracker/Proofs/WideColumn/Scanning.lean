import IncidentTracker.Proofs.Formula.Reading
import IncidentTracker.Proofs.WideColumn.Folding
import IncidentTracker.WideColumn.Expression

/-!
# Scans of Filters

Under the consistent semantics, a filter becomes a scan of everything exactly if it is true whatever
its leaves are worth, and no scan at all exactly if it is false whatever they are worth. Otherwise
the expression of the scan, read as a formula, is worth what the filter is worth.

Main statement: `Scan.ofRequest_consistent`.
-/

namespace IncidentTracker.WideColumn

open Filtering (Criterion Junction)

/-! ## §1 Marks -/

/-- What structures an expression. -/
def marks : Marks Char :=
  .ofWords (fun j => j.name.toList) (by intro j; cases j <;> decide) (by decide)

theorem toList_joinWord (j : Junction) : (joinWord j).toList = Formula.separator marks j := by
  cases j <;> rfl

/-- The words for the junctions begin with a letter of their own. -/
private theorem word_ne_cons {c : Char} (h : c ≠ 'a' ∧ c ≠ 'o') (j : Junction) (rest : List Char) :
    marks.word j ≠ c :: rest := by
  intro heq
  cases j with
  | and => exact h.1 (List.cons.inj heq).1.symm
  | or => exact h.2 (List.cons.inj heq).1.symm

private theorem isPlain_toString (n : Nat) : marks.IsPlain (toString n).toList := by
  rw [Nat.toString_eq_repr, Nat.toList_repr]
  have hdigit : ∀ c ∈ Nat.toDigits 10 n, c.isDigit = true :=
    fun c hc => Nat.isDigit_of_mem_toDigits (by decide) (by decide) hc
  refine ⟨?_, ?_, ?_⟩
  all_goals
    intro hmem
    exact absurd (hdigit _ hmem) (by decide)

/-! ## §2 Criteria -/

/-- What the `n`-th criterion compares. -/
def targetText (n : Nat) (c : Criterion) : String :=
  if isNested .consistent c then attributesPlaceholder ++ "." ++ namePlaceholder n
  else namePlaceholder n

/-- A target begins with `#`, and there is no mark in it. -/
private theorem exists_toList_targetText (n : Nat) (c : Criterion) :
    ∃ rest, (targetText n c).toList = '#' :: rest ∧ marks.IsPlain ('#' :: rest) := by
  have hname : marks.IsPlain ("#name".toList ++ (toString n).toList) :=
    Marks.IsPlain.append (by decide) (isPlain_toString n)
  unfold targetText namePlaceholder
  -- with the attributes in front or without, there is no mark of a formula in it
  split
  · rw [String.toList_append, String.toList_append, String.toList_append]
    have hattributes : marks.IsPlain "#attributes.".toList := by decide
    exact ⟨_, rfl, hattributes.append hname⟩
  · rw [String.toList_append]
    exact ⟨_, rfl, hname⟩

private theorem exists_toList_valuePlaceholder (n : Nat) :
    ∃ rest, (valuePlaceholder n).toList = ':' :: rest ∧ marks.IsPlain (':' :: rest) := by
  have hvalue : marks.IsPlain (":value".toList ++ (toString n).toList) :=
    Marks.IsPlain.append (by decide) (isPlain_toString n)
  rw [valuePlaceholder, String.toList_append]
  exact ⟨_, rfl, hvalue⟩

/-- A word without marks is an atom unless it begins like that of a junction. -/
private theorem isAtomic_of_isPlain {c : Char} {rest : List Char} (hc : c ≠ 'a' ∧ c ≠ 'o')
    (h : marks.IsPlain (c :: rest)) : Formula.IsAtomic marks (c :: rest) :=
  .of_plain (List.cons_ne_nil c rest) h fun j => word_ne_cons hc j rest

/-- The text of a criterion is an atom: nothing in it is taken for a part of the formula. -/
theorem isAtomic_criterionText (n : Nat) (c : Criterion) :
    Formula.IsAtomic marks (criterionText .consistent n c).toList := by
  obtain ⟨target, htext, htarget⟩ := exists_toList_targetText n c
  obtain ⟨value, hvalueText, hvalue⟩ := exists_toList_valuePlaceholder n
  obtain ⟨property, comparison, wanted⟩ := c
  have hfront := isAtomic_of_isPlain (by decide) htarget
  have hback := isAtomic_of_isPlain (by decide) hvalue
  cases comparison with
  | equals =>
    have hcriterion : criterionText .consistent n ⟨property, .equals, wanted⟩ =
        targetText n ⟨property, .equals, wanted⟩ ++ " = " ++ valuePlaceholder n := rfl
    have hsign : Formula.IsAtomic marks ['='] := by decide
    have hatom : Formula.IsAtomic marks
        ('#' :: target ++ ' ' :: (['='] ++ ' ' :: ':' :: value)) :=
      hfront.append_blank (hsign.append_blank hback)
    simpa [hcriterion, String.toList_append, htext, hvalueText] using hatom
  | notEquals =>
    have hcriterion : criterionText .consistent n ⟨property, .notEquals, wanted⟩ =
        targetText n ⟨property, .notEquals, wanted⟩ ++ " <> " ++ valuePlaceholder n := rfl
    have hsign : Formula.IsAtomic marks ['<', '>'] := by decide
    have hatom : Formula.IsAtomic marks
        ('#' :: target ++ ' ' :: (['<', '>'] ++ ' ' :: ':' :: value)) :=
      hfront.append_blank (hsign.append_blank hback)
    simpa [hcriterion, String.toList_append, htext, hvalueText] using hatom
  | contains =>
    have hcriterion : criterionText .consistent n ⟨property, .contains, wanted⟩ =
        "contains( " ++ targetText n ⟨property, .contains, wanted⟩ ++ ", " ++
          valuePlaceholder n ++ " )" := rfl
    -- the parentheses of the call are the only ones
    have hinner : ∀ c, c ≠ ' ' → c ≠ ',' → c ∉ '#' :: target → c ∉ ':' :: value →
        c ∉ ' ' :: ('#' :: target ++ ',' :: ' ' :: (':' :: value ++ [' '])) := by
      intro c hblank hcomma hc hc'
      grind
    have hname : marks.IsPlain "contains".toList := by decide
    have hatom : Formula.IsAtomic marks ("contains".toList ++ '(' ::
        (' ' :: ('#' :: target ++ ',' :: ' ' :: (':' :: value ++ [' '])) ++ [')'])) :=
      .call (by decide) hname (Marks.closes_of_flat
        (hinner _ (by decide) (by decide) htarget.1 hvalue.1)
        (hinner _ (by decide) (by decide) htarget.2.1 hvalue.2.1))
    simpa [hcriterion, String.toList_append, htext, hvalueText] using hatom

/-! ## §3 Expressions -/

/-- The text of a criterion under its number. -/
def atomText (a : Criterion × Nat) : List Char :=
  (criterionText .consistent a.2 a.1).toList

mutual

/-- A formula of criteria is written as the formula of their texts. -/
theorem toList_foldedText :
    ∀ (φ : Formula Criterion) (n : Nat),
      (foldedText n (Folded.ofFormula φ)).toList = ((φ.number n).map atomText).text marks
  | .atom _, _ => rfl
  | .group j parts, n => by
    rw [Folded.ofFormula, foldedText, String.toList_append, String.toList_append,
      String.toList_intercalate, toList_joinWord, toList_foldedTextEach parts n, Formula.number,
      Formula.map, Formula.text]
    rfl

theorem toList_foldedTextEach :
    ∀ (parts : List (Formula Criterion)) (n : Nat),
      (foldedTextEach n (Folded.ofFormulas parts)).map String.toList =
        Formula.textEach marks (Formula.mapEach atomText (Formula.numberEach n parts))
  | [], _ => rfl
  | part :: parts, n => by
    rw [Folded.ofFormulas, foldedTextEach, List.map_cons, toList_foldedText part n,
      Folded.members_ofFormula, toList_foldedTextEach parts (n + part.atoms.length),
      Formula.numberEach, Formula.mapEach, Formula.textEach]

end

/-- The text of a proper formula of criteria is read as that formula. -/
theorem read_foldedText {φ : Formula Criterion} (h : φ.IsProper) :
    Formula.read marks (foldedText 0 (Folded.ofFormula φ)).toList =
      some ((φ.number 0).map atomText) := by
  rw [toList_foldedText]
  refine Formula.read_text (Formula.isProper_map _ _ (Formula.isProper_number φ 0 h)) ?_
  intro a ha
  rw [Formula.atoms_map] at ha
  obtain ⟨⟨c, n⟩, -, rfl⟩ := List.mem_map.mp ha
  exact isAtomic_criterionText n c

/-! ## §4 Scans -/

/-- What a filter of which nothing is left but a constant is scanned as. -/
theorem Scan.ofRequest_of_constant {r : Filtering.Request} {b : Bool}
    (h : Folded.ofForest r = .constant b) :
    Scan.ofRequest .consistent r = if b then .all else .nothing := by
  rw [Scan.ofRequest, h]
  cases b <;> rfl

/-- What a filter of which a formula is left is scanned as. -/
theorem Scan.ofRequest_of_formula {r : Filtering.Request} {φ : Formula Criterion}
    (h : Folded.ofForest r = Folded.ofFormula φ) :
    Scan.ofRequest .consistent r =
      .filtered (.ofCriteria .consistent φ.atoms (foldedText 0 (Folded.ofFormula φ))) := by
  rw [Scan.ofRequest, h, ← Folded.members_ofFormula]
  cases φ <;> rfl

/-- A filter becomes a scan of everything, no scan at all, or a scan for a formula of its leaves,
    according to what it is worth under all assignments of truth values to the places of its
    leaves. -/
theorem Scan.ofRequest_consistent (r : Filtering.Request) :
    let worth (v : Nat → Bool) : Bool := r.number.eval fun a => v a.2
    (Scan.ofRequest .consistent r = .all ↔ ∀ v, worth v = true) ∧
      (Scan.ofRequest .consistent r = .nothing ↔ ∀ v, worth v = false) ∧
      (Scan.ofRequest .consistent r = .all ∨ Scan.ofRequest .consistent r = .nothing ∨
        ∃ φ : Formula (Criterion × Nat), ∃ text : String,
          Scan.ofRequest .consistent r =
            .filtered (.ofCriteria .consistent (φ.atoms.map Prod.fst) text) ∧
          Formula.read marks text.toList =
            some (((φ.map Prod.fst).number 0).map atomText) ∧
          φ.IsProper ∧ φ.atoms.Sublist r.number.leaves ∧
          ∀ v : Nat → Bool, φ.eval (fun a => v a.2) = worth v) := by
  intro worth
  have hforget : Folded.ofForest r = (Folded.ofForest r.number).map Prod.fst := by
    rw [← Folded.ofForest_map, Filtering.Forest.map_number]
  have hworth (v : Nat → Bool) : (Folded.ofForest r.number).eval (fun a => v a.2) = worth v :=
    Folded.eval_ofForest _ _
  -- the numbered filter is folded to a constant or to a proper formula, and so is the filter itself
  rcases Folded.isNormal_ofForest r.number with ⟨b, hconstant⟩ | ⟨φ, hproper, hφ⟩
  · have hscan : Scan.ofRequest .consistent r = if b then .all else .nothing := by
      refine Scan.ofRequest_of_constant ?_
      rw [hforget, hconstant, Folded.map]
    have hvalue (v : Nat → Bool) : worth v = b := by rw [← hworth, hconstant, Folded.eval]
    rw [hscan]
    simp only [hvalue]
    cases b <;> simp
  · have hscan := Scan.ofRequest_of_formula (r := r) (φ := φ.map Prod.fst)
      (by rw [hforget, hφ, Folded.map_ofFormula])
    have hvalue (v : Nat → Bool) : φ.eval (fun a => v a.2) = worth v := by
      rw [← hworth, hφ, Folded.eval_ofFormula]
    -- a formula is worth what all its leaves are, so neither constant scan would do
    have hconst (b : Bool) : worth (fun _ => b) = b :=
      (hvalue fun _ => b).symm.trans (Formula.eval_const b φ hproper)
    let text := foldedText 0 (Folded.ofFormula (φ.map Prod.fst))
    refine ⟨?_, ?_, .inr (.inr ⟨φ, text, ?_, ?_, hproper, ?_, hvalue⟩)⟩
    · rw [hscan]
      constructor
      · intro h
        cases h
      · intro h
        exact nomatch (hconst false).symm.trans (h fun _ => false)
    · rw [hscan]
      constructor
      · intro h
        cases h
      · intro h
        exact nomatch (hconst true).symm.trans (h fun _ => true)
    · rw [hscan, Formula.atoms_map]
    · exact read_foldedText (Formula.isProper_map _ _ hproper)
    · have hmembers := Folded.members_ofForest_sublist r.number
      rw [hφ, Folded.members_ofFormula] at hmembers
      exact hmembers

end IncidentTracker.WideColumn
