import IncidentTracker.Proofs.Formula.Reading
import IncidentTracker.Proofs.Formula.Tree
import IncidentTracker.Proofs.Relational.Truth

/-!
# Texts of Clauses

What the text of a clause says once its arguments are put in place of its question marks. There are
as many question marks as arguments, and read as a formula the text is the formula of the filter:
its leaves, in order, each with its own arguments.

Main statement: `Clause.reads_ofRequest`.
-/

namespace IncidentTracker.Relational

open Filtering (Criterion Junction Request Semantics)

/-! ## §1 Arguments in place -/

/-- A symbol of a text whose question marks have been replaced by arguments. -/
inductive Symbol where
  | char (c : Char)
  | argument (value : String)
  deriving DecidableEq, Repr

/-- Replaces each question mark by the next argument. -/
def fill : List Char → List String → List Symbol
  | [], _ => []
  | c :: rest, args =>
    if c = '?' then
      match args with
      | [] => .char c :: fill rest []
      | arg :: args => .argument arg :: fill rest args
    else .char c :: fill rest args

/-- Texts are filled one after the other if the first has as many question marks as arguments. -/
theorem fill_append {text : List Char} {args : List String}
    (h : text.count '?' = args.length) (rest : List Char) (more : List String) :
    fill (text ++ rest) (args ++ more) = fill text args ++ fill rest more := by
  induction text generalizing args with
  | nil =>
    rw [List.count_nil] at h
    rw [List.eq_nil_of_length_eq_zero h.symm]
    rfl
  | cons c text ih =>
    rw [List.count_cons] at h
    -- a placeholder takes the next argument, any other character none
    by_cases hc : c = '?'
    · subst hc
      cases args with
      | nil => simp at h
      | cons arg args =>
        have htext : text.count '?' = args.length := by simpa using h
        simp [fill, ih htext]
    · have htext : text.count '?' = args.length := by simpa [hc] using h
      simp [fill, hc, ih htext]

/-- Nothing is filled in where there is no question mark. -/
theorem fill_of_notMem {text : List Char} (h : '?' ∉ text) : fill text [] = text.map .char := by
  induction text with
  | nil => rfl
  | cons c text ih =>
    rw [List.mem_cons, not_or] at h
    rw [fill, if_neg (Ne.symm h.1), ih h.2, List.map_cons]

/-- A text with its arguments and with what they make of it: there is one argument for each question
    mark. -/
structure Fills (text : List Char) (args : List String) (symbols : List Symbol) : Prop where
  count : text.count '?' = args.length
  fill : fill text args = symbols

namespace Fills

theorem append {text rest : List Char} {args more : List String} {symbols others : List Symbol}
    (h : Fills text args symbols) (hrest : Fills rest more others) :
    Fills (text ++ rest) (args ++ more) (symbols ++ others) where
  count := by rw [List.count_append, h.count, hrest.count, List.length_append]
  fill := by rw [fill_append h.count, h.fill, hrest.fill]

theorem of_notMem {text : List Char} (h : '?' ∉ text) : Fills text [] (text.map .char) where
  count := List.count_eq_zero.mpr h
  fill := fill_of_notMem h

end Fills

/-- The character at the place of a symbol. -/
def Symbol.erase : Symbol → Char
  | .char c => c
  | .argument _ => '?'

/-- What is filled in can be taken out again. -/
theorem map_erase_fill (text : List Char) (args : List String) :
    (fill text args).map Symbol.erase = text := by
  induction text generalizing args with
  | nil => rfl
  | cons c text ih =>
    -- a question mark is filled with an argument, or stays if none is left
    by_cases hc : c = '?'
    · subst hc
      cases args with
      | nil => exact congrArg ('?' :: ·) (ih [])
      | cons arg args => exact congrArg ('?' :: ·) (ih args)
    · simp only [fill, if_neg hc, List.map_cons, ih]
      rfl

/-! ## §2 Marks and fragments -/

/-- The word for a junction in a query. -/
def junctionWord : Junction → String
  | .and => "AND"
  | .or => "OR"

/-- What structures the text of a clause. -/
def textMarks : Marks Char :=
  .ofWords (fun j => (junctionWord j).toList) (by intro j; cases j <;> decide) (by decide)

/-- The same with arguments in place. -/
def marks : Marks Symbol where
  opening := .char '('
  closing := .char ')'
  blank := .char ' '
  word j := (junctionWord j).toList.map .char
  opening_ne_closing := by decide
  blank_ne_opening := by decide
  blank_ne_closing := by decide
  plain := by
    intro j
    cases j <;> decide
  word_ne := by decide

/-- Arguments are no marks, whatever they are. -/
theorem carries_erase : marks.Carries textMarks Symbol.erase where
  opening s := by cases s <;> simp [Symbol.erase, marks, textMarks, Marks.ofWords]
  closing s := by cases s <;> simp [Symbol.erase, marks, textMarks, Marks.ofWords]
  blank s := by cases s <;> simp [Symbol.erase, marks, textMarks, Marks.ofWords]
  word j := by
    show ((junctionWord j).toList.map Symbol.char).map Symbol.erase = (junctionWord j).toList
    rw [List.map_map]
    exact List.map_id _

theorem fills_joinWord (j : Junction) :
    Fills (joinWord j).toList [] (Formula.separator marks j) := by
  cases j with
  | and =>
    have hword : '?' ∉ " AND ".toList := by decide
    exact Fills.of_notMem hword
  | or =>
    have hword : '?' ∉ " OR ".toList := by decide
    exact Fills.of_notMem hword

/-! ## §3 Fragments -/

private theorem isAtomic_call {name inner : String} (hne : name.toList ≠ [])
    (hname : textMarks.IsPlain name.toList) (hinner : textMarks.closes 0 inner.toList = true) :
    Formula.IsAtomic textMarks (name ++ ("(" ++ (inner ++ ")"))).toList := by
  simp only [String.toList_append]
  exact Formula.IsAtomic.call hne hname hinner

private theorem count_call {name : String} (hname : '?' ∉ name.toList) (inner : String) :
    (name ++ ("(" ++ (inner ++ ")"))).toList.count '?' = inner.toList.count '?' := by
  simp [List.count_eq_zero.mpr hname]

/-- The part of the text of a test that an operator writes in front of a blank. -/
private def Operator.front (subject : String) : Operator → String
  | .collatedEqual | .collatedDifferent | .collatedMember => subject
  | .lowerEqual | .lowerDifferent | .lowerLike => "LOWER" ++ ("(" ++ (subject ++ ")"))

/-- The part behind that blank. -/
private def Operator.suffix : Operator → String
  | .collatedEqual => "COLLATE NOCASE = ?"
  | .collatedDifferent => "COLLATE NOCASE != ?"
  | .collatedMember => "COLLATE NOCASE IN (?)"
  | .lowerEqual => "= LOWER(?)"
  | .lowerDifferent => "!= LOWER(?)"
  | .lowerLike => "LIKE LOWER(?) ESCAPE '\\'"

private theorem text_eq_front_suffix (subject : String) (operator : Operator) :
    operator.text subject = operator.front subject ++ (" " ++ operator.suffix) := by
  cases operator with
  | collatedEqual | collatedDifferent | collatedMember => rfl
  | lowerEqual | lowerDifferent | lowerLike =>
    simp only [Operator.text, Operator.front, Operator.suffix, String.append_assoc]
    rfl

private theorem count_suffix (operator : Operator) : operator.suffix.toList.count '?' = 1 := by
  cases operator <;> decide

private theorem isAtomic_suffix (operator : Operator) :
    Formula.IsAtomic textMarks operator.suffix.toList := by
  cases operator <;> decide

private theorem count_front (subject : String) (operator : Operator) :
    (operator.front subject).toList.count '?' = subject.toList.count '?' := by
  cases operator with
  | collatedEqual | collatedDifferent | collatedMember => rfl
  | lowerEqual | lowerDifferent | lowerLike =>
    exact count_call (by decide) subject

private theorem isAtomic_front {subject : String}
    (h : Formula.IsAtomic textMarks subject.toList) (operator : Operator) :
    Formula.IsAtomic textMarks (operator.front subject).toList := by
  cases operator with
  | collatedEqual | collatedDifferent | collatedMember => exact h
  | lowerEqual | lowerDifferent | lowerLike =>
    exact isAtomic_call (by decide) (by decide) h.closed

/-- The argument list of the call by which an attribute is looked up. -/
private def lookUpList : String :=
  "(SELECT ia.AttributeValue FROM IncidentAttributes ia WHERE ia.IncidentId = i.Id" ++
    " AND LOWER(ia.AttributeName) = LOWER(?) LIMIT 1), ''"

private theorem text_attributeNamed (name : String) :
    (Subject.attributeNamed name).text = "COALESCE" ++ ("(" ++ (lookUpList ++ ")")) := by
  show (Subject.attributeNamed "").text = _
  decide +kernel

/-- What a test reads is written with a question mark for each of its arguments, as an atom. -/
theorem Subject.count_text (subject : Subject) :
    subject.text.toList.count '?' = subject.args.length ∧
      Formula.IsAtomic textMarks subject.text.toList := by
  cases subject with
  | column c => cases c <;> decide
  | attributeNamed name =>
    -- the name is bound in the subquery, which is one call and so one atom
    have hlist : lookUpList.toList.count '?' = 1 ∧
        textMarks.closes 0 lookUpList.toList = true := by decide +kernel
    rw [text_attributeNamed]
    refine ⟨?_, isAtomic_call (by decide) (by decide) hlist.2⟩
    rw [count_call (by decide), hlist.1]
    rfl

/-- The text of a test has a question mark for each of its arguments, and is an atom. -/
theorem Test.count_text (t : Test) :
    t.text.toList.count '?' = t.args.length ∧ Formula.IsAtomic textMarks t.text.toList := by
  obtain ⟨hcount, hatomic⟩ := t.subject.count_text
  rw [Test.text, text_eq_front_suffix]
  simp only [String.toList_append]
  refine ⟨?_, (isAtomic_front hatomic _).append_blank (isAtomic_suffix _)⟩
  rw [List.count_append, List.count_append, count_front, count_suffix, hcount, Test.args,
    List.length_append]
  rfl

/-- The text of a test with its arguments in place. -/
def Test.symbols (t : Test) : List Symbol :=
  fill t.text.toList t.args

theorem Test.fills (t : Test) : Fills t.text.toList t.args t.symbols :=
  ⟨t.count_text.1, rfl⟩

/-- With its arguments in place, whatever they are, the text of a test is still an atom. -/
theorem Test.isAtomic_symbols (t : Test) : Formula.IsAtomic marks t.symbols := by
  refine carries_erase.isAtomic_of_map ?_
  rw [Test.symbols, map_erase_fill]
  exact t.count_text.2

/-! ## §4 Conditions -/

/-- The text of an operand, where leaves have the given texts. -/
def operandSymbols {α : Type} (leaf : α → List Symbol) : Operand α → List Symbol
  | .constant true => "1=1".toList.map .char
  | .constant false => "1=0".toList.map .char
  | .leaf a => leaf a

theorem operandSymbols_map {α β : Type} (leaf : β → List Symbol) (f : α → β) (o : Operand α) :
    operandSymbols leaf (o.map f) = operandSymbols (fun a => leaf (f a)) o := by
  cases o with
  | constant b => cases b <;> rfl
  | leaf a => rfl

mutual

/-- The formula that a condition is written as. -/
def Condition.formula : Condition → Formula (Operand Test)
  | .test t => .atom (.leaf t)
  | .constant b => .atom (.constant b)
  | .group j parts => .group j (Condition.formulaEach parts)

def Condition.formulaEach : List Condition → List (Formula (Operand Test))
  | [] => []
  | part :: parts => Condition.formula part :: Condition.formulaEach parts

end

namespace Condition

mutual

/-- The text of a condition, with its arguments in place, is the text of its formula. -/
theorem fills_text :
    ∀ c : Condition, Fills c.text.toList (c.tests.flatMap Test.args)
      ((c.formula.map (operandSymbols Test.symbols)).text marks)
  | .test t => by
    rw [tests, List.flatMap_singleton]
    exact t.fills
  | .constant true => by
    have htrue : '?' ∉ "1=1".toList := by decide
    exact Fills.of_notMem htrue
  | .constant false => by
    have hfalse : '?' ∉ "1=0".toList := by decide
    exact Fills.of_notMem hfalse
  | .group j parts => by
    -- the parentheses hold no placeholder and stand for themselves
    have hopening : Fills "(".toList [] [marks.opening] := Fills.of_notMem (by decide)
    have hclosing : Fills ")".toList [] [marks.closing] := Fills.of_notMem (by decide)
    have hgroup := (hopening.append (fills_textEach j parts)).append hclosing
    rw [List.nil_append, List.append_nil] at hgroup
    rw [text, String.toList_append, String.toList_append, String.toList_intercalate]
    exact hgroup

/-- The texts of several conditions, separated by a junction. -/
theorem fills_textEach (j : Junction) :
    ∀ parts : List Condition,
      Fills ((joinWord j).toList.intercalate ((textEach parts).map String.toList))
        ((testsEach parts).flatMap Test.args)
        ((Formula.separator marks j).intercalate
          (Formula.textEach marks
            (Formula.mapEach (operandSymbols Test.symbols) (formulaEach parts))))
  | [] => ⟨rfl, rfl⟩
  | [part] => by
    have hpart := fills_text part
    simpa [textEach, testsEach, formulaEach, Formula.mapEach, Formula.textEach] using hpart
  | first :: second :: rest => by
    -- the first part, the word of the junction, then the others
    have hfirst := (fills_text first).append (fills_joinWord j)
    have hrest := hfirst.append (fills_textEach j (second :: rest))
    rw [List.append_nil, ← List.flatMap_append] at hrest
    simp only [textEach, List.map_cons, formulaEach, Formula.mapEach, Formula.textEach,
      List.intercalate_cons_cons]
    exact hrest

end

theorem formulaEach_eq_map (parts : List Condition) :
    formulaEach parts = parts.map formula := by
  induction parts with
  | nil => rfl
  | cons part parts ih => rw [formulaEach, ih, List.map_cons]

theorem textEach_eq_map (parts : List Condition) : textEach parts = parts.map text := by
  induction parts with
  | nil => rfl
  | cons part parts ih => rw [textEach, ih, List.map_cons]

/-- Joining conditions gathers their formulas. -/
theorem formula_join (j : Junction) (parts : List Condition) :
    (join j parts).formula = Formula.gather j (formulaEach parts) := by
  rcases parts with _ | ⟨part, _ | ⟨next, parts⟩⟩
  · rfl
  · rfl
  · rfl

/-- The condition of a group is written as the formula of the group. -/
theorem formula_ofTree (t : Filtering.Tree Criterion) :
    (ofTree t).formula = (Formula.ofTree t).map (Operand.map (Test.ofCriterion .consistent)) := by
  rw [← Formula.ofTree_map, Formula.ofTree_eq_interpret, Filtering.Tree.interpret_map,
    ofTree_eq_interpret]
  refine Filtering.Tree.map_interpret (fun _ => rfl) ?_ t
  intro j parts
  rw [← formulaEach_eq_map]
  exact formula_join j parts

end Condition

/-! ## §5 Clauses of filters -/

/-- The arguments of a leaf: the name of its property unless it is that of a column, and its value
    or the pattern that finds it. -/
def leafArgs (s : Semantics) (c : Criterion) : List String :=
  (if (Column.ofProperty? c.property).isSome then [] else [c.property]) ++
    [if s = .consistent ∧ c.comparison = .contains then containsPattern c.value else c.value]

theorem args_ofCriterion (s : Semantics) (c : Criterion) :
    (Test.ofCriterion s c).args = leafArgs s c := by
  obtain ⟨property, comparison, value⟩ := c
  -- a column takes no argument, an attribute takes its name
  have hsubject : (Subject.ofProperty property).args =
      if (Column.ofProperty? property).isSome then [] else [property] := by
    rw [Subject.ofProperty]
    cases Column.ofProperty? property with
    | none => rfl
    | some c => rfl
  unfold leafArgs Test.args
  rw [← hsubject]
  cases s <;> cases comparison <;> rfl

/-- The text of a leaf with its arguments in place. -/
def leafSymbols (s : Semantics) (a : Criterion × Nat) : List Symbol :=
  fill (Test.ofCriterion s a.1).text.toList (leafArgs s a.1)

theorem leafSymbols_eq (s : Semantics) (a : Criterion × Nat) :
    leafSymbols s a = (Test.ofCriterion s a.1).symbols := by
  rw [leafSymbols, ← args_ofCriterion, Test.symbols]

/-- A clause says a formula of leaves if this is what its text is read as, once the arguments of the
    clause are put in place of its question marks. -/
def Clause.Says (s : Semantics) (clause : Clause) (φ : Formula (Operand (Criterion × Nat))) :
    Prop :=
  ∃ body : String, clause.text = "WHERE " ++ body ∧
    body.toList.count '?' = clause.args.length ∧
    Formula.read marks (fill body.toList clause.args) =
      some (φ.map (operandSymbols (leafSymbols s)))

namespace Clause

/-- The formula of numbered criteria, written as that of their tests. -/
private theorem map_operandSymbols (s : Semantics) (φ : Formula (Operand (Criterion × Nat))) :
    ((φ.map (Operand.map Prod.fst)).map (Operand.map (Test.ofCriterion s))).map
        (operandSymbols Test.symbols) =
      φ.map (operandSymbols (leafSymbols s)) := by
  have hleaf : leafSymbols s = fun a => (Test.ofCriterion s a.1).symbols :=
    funext (leafSymbols_eq s)
  simp only [Formula.map_map, operandSymbols_map, hleaf]

private theorem isAtomic_operandSymbols (o : Operand Test) :
    Formula.IsAtomic marks (operandSymbols Test.symbols o) := by
  cases o with
  | constant b => cases b <;> decide
  | leaf t => exact t.isAtomic_symbols

/-- Every atom of a formula whose operands are written down is one. -/
private theorem isAtomic_of_mem_atoms {φ : Formula (Operand Test)} {a : List Symbol}
    (h : a ∈ (φ.map (operandSymbols Test.symbols)).atoms) : Formula.IsAtomic marks a := by
  rw [Formula.atoms_map] at h
  obtain ⟨o, -, rfl⟩ := List.mem_map.mp h
  exact isAtomic_operandSymbols o

/-- The clause of a filter says the formula of the filter. -/
theorem says_consistent (r : Request) :
    (ofRequest .consistent r).Says .consistent (Formula.ofForest r.number) := by
  let c := Condition.join r.junction (Condition.ofTrees r.nodes)
  -- numbering the leaves and forgetting the numbers again changes nothing but their names
  have hformula : c.formula =
      ((Formula.ofForest r.number).map (Operand.map Prod.fst)).map
        (Operand.map (Test.ofCriterion .consistent)) := by
    rw [← Formula.ofForest_map, Filtering.Forest.map_number]
    exact Condition.formula_ofTree r.asBranch
  have hproper : c.formula.IsProper := by
    rw [hformula]
    exact Formula.isProper_map _ _ (Formula.isProper_map _ _ (Formula.isProper_ofForest _))
  -- with its arguments in place, the text is that of the formula, and is read back as such
  obtain ⟨hcount, hfill⟩ := c.fills_text
  refine ⟨c.text, rfl, hcount, ?_⟩
  show Formula.read marks (fill c.text.toList (c.tests.flatMap Test.args)) = _
  rw [hfill, Formula.read_text (Formula.isProper_map _ _ hproper)
    fun a ha => isAtomic_of_mem_atoms ha, hformula, map_operandSymbols]

/-- Tests side by side are read as the formula of a group of them. -/
private theorem read_conjunction {tests : List Test} (h : tests ≠ []) :
    Formula.read marks (fill (" AND ".intercalate (tests.map Test.text)).toList
        (tests.flatMap Test.args)) =
      some ((Formula.ofTree (.group .and tests)).map (operandSymbols Test.symbols)) ∧
    (" AND ".intercalate (tests.map Test.text)).toList.count '?' =
      (tests.flatMap Test.args).length := by
  let parts : List (Formula (Operand Test)) := tests.map fun t => .atom (.leaf t)
  have hne : parts ≠ [] := mt List.map_eq_nil_iff.mp h
  have hproper : Formula.AreProper parts := by
    have hatoms := Formula.areProper_map_atom (tests.map Operand.leaf)
    rwa [List.map_map] at hatoms
  -- the text is that of the parts of a condition, so all about those applies
  have hformulas : Condition.formulaEach (tests.map .test) = parts := by
    rw [Condition.formulaEach_eq_map, List.map_map]
    rfl
  have htexts : Condition.textEach (tests.map .test) = tests.map Test.text := by
    rw [Condition.textEach_eq_map, List.map_map]
    rfl
  have htests := Condition.testsEach_map_test tests
  have hatoms : ∀ a ∈ Formula.atomsEach (Formula.mapEach (operandSymbols Test.symbols) parts),
      Formula.IsAtomic marks a := by
    intro a ha
    rw [Formula.atomsEach_mapEach] at ha
    obtain ⟨o, -, rfl⟩ := List.mem_map.mp ha
    exact isAtomic_operandSymbols o
  have hne' : Formula.mapEach (operandSymbols Test.symbols) parts ≠ [] := by
    rw [Formula.mapEach_eq_map]
    exact mt List.map_eq_nil_iff.mp hne
  have hread := Formula.read_separated (m := marks) .and hne'
    (Formula.areProper_mapEach _ _ hproper) hatoms
  obtain ⟨hcount, hfill⟩ := Condition.fills_textEach .and (tests.map .test)
  rw [htexts, htests] at hcount hfill
  rw [hformulas] at hfill
  rw [String.toList_intercalate]
  refine ⟨?_, hcount⟩
  show Formula.read marks (fill ((joinWord .and).toList.intercalate _) _) =
    some ((Formula.gather .and parts).map (operandSymbols Test.symbols))
  rw [hfill, hread, Formula.map_gather_eq_join _ _ hne]

/-- The clause of a filter that carries members says that all of them hold. -/
theorem says_legacy {r : Request} (h : r.ownMembers ≠ []) :
    (ofRequest .legacy r).Says .legacy (Formula.ofTree (.group .and r.ownMembers.zipIdx)) := by
  let tests := r.ownMembers.map (Test.ofCriterion .legacy)
  have htests : tests ≠ [] := mt List.map_eq_nil_iff.mp h
  -- with members of its own the request gives a conjunction
  have hclause : ofRequest .legacy r = .conjunction tests := by
    obtain ⟨t, rest, htests⟩ := List.exists_cons_of_ne_nil htests
    have hmap : r.ownMembers.map (Test.ofCriterion .legacy) = t :: rest := htests
    rw [ofRequest, hmap, htests]
  obtain ⟨hread, hcount⟩ := read_conjunction htests
  -- numbering the members changes no symbol of the formula
  have hformula : (Formula.ofTree (.group .and tests)).map (operandSymbols Test.symbols) =
      (Formula.ofTree (.group .and r.ownMembers.zipIdx)).map
        (operandSymbols (leafSymbols .legacy)) := by
    rw [← map_operandSymbols, ← Formula.ofTree_map, ← Formula.ofTree_map, Filtering.Tree.map,
      Filtering.Tree.map, List.zipIdx_map_fst]
  rw [hclause]
  exact ⟨_, rfl, hcount, by rw [← hformula]; exact hread⟩

/-- The text of a clause has a question mark for each of its arguments. -/
theorem count_text (clause : Clause) : clause.text.toList.count '?' = clause.args.length := by
  have hwhere : "WHERE ".toList.count '?' = 0 := by decide
  cases clause with
  | unfiltered => rfl
  | conjunction tests =>
    rw [text, String.toList_append, List.count_append, hwhere, Nat.zero_add]
    -- no test, no placeholder; otherwise the text was read with its placeholders
    by_cases h : tests = []
    · subst h
      rfl
    · exact (read_conjunction h).2
  | condition c =>
    rw [text, String.toList_append, List.count_append, hwhere, Nat.zero_add]
    exact c.fills_text.count

/-- What the clause of a filter says. Under the consistent semantics it is a formula of all leaves of
    the filter that is worth what the filter is worth, whatever they are worth. Under the legacy
    semantics it is a formula of the members that the groups of the first level carry themselves,
    which is true exactly if all of them are; without any, there is no clause. -/
theorem reads_ofRequest (r : Request) :
    (∀ s, (ofRequest s r).text.toList.count '?' = (ofRequest s r).args.length) ∧
    (∃ φ, (ofRequest .consistent r).Says .consistent φ ∧ φ.leaves = r.leaves.zipIdx ∧
      ∀ v : Nat → Bool, φ.eval (Operand.value fun a => v a.2) = r.number.eval fun a => v a.2) ∧
    ((r.ownMembers = [] ∧ (ofRequest .legacy r).text = "" ∧ (ofRequest .legacy r).args = []) ∨
      ∃ φ, (ofRequest .legacy r).Says .legacy φ ∧ φ.leaves = r.ownMembers.zipIdx ∧
        r.ownMembers ≠ [] ∧
        ∀ v : Nat → Bool,
          φ.eval (Operand.value fun a => v a.2) = r.ownMembers.zipIdx.all fun a => v a.2) := by
  refine ⟨fun s => count_text _, ⟨_, says_consistent r, ?_, ?_⟩, ?_⟩
  · rw [Formula.leaves_ofForest, Filtering.Forest.leaves_number]
  · intro v
    exact Formula.eval_ofForest _ _
  · -- without members the clause is empty
    by_cases h : r.ownMembers = []
    · left
      have hclause : ofRequest .legacy r = .unfiltered := by rw [ofRequest, h, List.map_nil]
      rw [hclause]
      exact ⟨h, rfl, rfl⟩
    · right
      refine ⟨_, says_legacy h, Formula.leaves_ofTree _, h, ?_⟩
      intro v
      rw [Formula.eval_ofTree, Filtering.Tree.eval, Junction.combine, List.all_map]
      rfl

end Clause

end IncidentTracker.Relational
