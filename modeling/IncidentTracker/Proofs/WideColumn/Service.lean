import IncidentTracker.Proofs.Text.Pieces
import IncidentTracker.Proofs.WideColumn.Placeholders
import IncidentTracker.WideColumn.Item

/-!
# What the Service Makes of an Expression

The service that keeps a table reads the text of an expression as a formula, and each atom of it as a
question: it finds the value at a path of names in an item and compares it with a bound value. Where
there is nothing at the path, the value is neither equal to anything nor contains anything. An
expression with an atom that is no question, with a placeholder that stands for nothing, or with one
that is defined in vain, is refused as a whole.

What two values are to each other is up to the service; all that is asked of it is stated in
`Service`. The expression of a filter is never refused, and each of its atoms is answered as the
criterion it was written for.

Main statement: `Scan.selects?_consistent`.
-/

namespace IncidentTracker.WideColumn

open Filtering (Comparison Criterion Junction Semantics)

/-! ## §1 The service -/

/-- How the service compares the values of items with bound values. Texts are compared as they are,
    and numbers by what they denote. A text is never equal to a number. -/
structure Service where
  equal : Value → Bound → Bool
  contains : Value → Bound → Bool
  equal_texts : ∀ s t, equal (.text s) (.text t) = (s == t)
  contains_texts : ∀ s t, contains (.text s) (.text t) = Text.occursIn t.toList s.toList
  equal_numbers : ∀ s t n m, Text.Decimal.toWord? s.toList = some n →
    Text.Decimal.toWord? t.toList = some m → equal (.number s) (.number t) = (n == m)
  equal_number_text : ∀ s t, equal (.number s) (.text t) = false

/-- A service that knows the integers of a signed word, and takes other numbers as they are
    written. -/
def Service.ofWords : Service where
  equal
    | .text s, .text t => s == t
    | .number s, .number t =>
      match Text.Decimal.toWord? s.toList, Text.Decimal.toWord? t.toList with
      | some n, some m => n == m
      | _, _ => s == t
    | _, _ => false
  contains
    | .text s, .text t => Text.occursIn t.toList s.toList
    | .texts elements, .text t => elements.contains t
    | .numbers elements, .number t => elements.contains t
    | _, _ => false
  equal_texts _ _ := rfl
  contains_texts _ _ := rfl
  equal_numbers s t n m hs ht := by simp only [hs, ht]
  equal_number_text _ _ := rfl

/-- The value at a path of names. -/
def Value.at? (v : Value) : List String → Option Value
  | [] => some v
  | name :: path =>
    match v with
    | .map entries => (entries.find? fun entry => entry.1 == name).bind fun entry => entry.2.at? path
    | _ => none

/-- The value at a path of names in an item. -/
def Item.at? (item : Item) (path : List String) : Option Value :=
  (Value.map item.entries).at? path

/-- What the service answers when a comparison is made with the value that was found, if any. -/
def Service.compare (service : Service) (comparison : Comparison) (found : Option Value)
    (wanted : Bound) : Bool :=
  match comparison with
  | .equals => found.any fun value => service.equal value wanted
  | .notEquals => !found.any fun value => service.equal value wanted
  | .contains => found.any fun value => service.contains value wanted

/-! ## §2 Questions -/

/-- What an atom of an expression asks of an item, in placeholders. -/
structure Question where
  path : List String
  comparison : Comparison
  value : String
  deriving DecidableEq, Repr

/-- The placeholders on a path. -/
def readPath (text : List Char) : List String :=
  (Text.cut '.' text).map String.ofList

/-- Reads an atom: a comparison of a path with a value, or a call with both of them. Blanks separate
    the words and count for nothing else. -/
def Question.read? (text : List Char) : Option Question :=
  match (Text.cut ' ' text).filter fun word => !word.isEmpty with
  | [path, sign, value] =>
    if sign = "=".toList then some ⟨readPath path, .equals, String.ofList value⟩
    else if sign = "<>".toList then some ⟨readPath path, .notEquals, String.ofList value⟩
    else none
  | [call, path, value, close] =>
    if call = "contains(".toList && path.getLast? = some ',' && close = ")".toList then
      some ⟨readPath path.dropLast, .contains, String.ofList value⟩
    else none
  | _ => none

/-- What is answered to a question, if its placeholders are defined. -/
def Question.answer? (service : Service) (e : Expression) (item : Item) (q : Question) :
    Option Bool := do
  let path ← q.path.mapM fun placeholder => e.names.get? placeholder
  let wanted ← e.values.get? q.value
  return service.compare q.comparison (item.at? path) wanted

/-- What is answered to an atom of an expression, if it is a question at all. -/
def Expression.answer? (e : Expression) (service : Service) (item : Item) (atom : List Char) :
    Option Bool :=
  (Question.read? atom).bind fun q => q.answer? service e item

/-- Whether every placeholder that is defined is used. -/
def Expression.usesAll (e : Expression) : Bool :=
  (e.names.keys ++ e.values.keys).all fun key => (placeholders e.text.toList).contains key

/-- Whether an item passes an expression, if the service does not refuse it. -/
def Expression.passes? (e : Expression) (service : Service) (item : Item) : Option Bool := do
  let φ ← Formula.read marks e.text.toList
  if e.usesAll && φ.atoms.all fun atom => (e.answer? service item atom).isSome then
    some (φ.eval fun atom => (e.answer? service item atom).getD false)
  else none

/-- Whether an item is among those that a scan shows, if the service does not refuse it. -/
def Scan.selects? (scan : Scan) (service : Service) (item : Item) : Option Bool :=
  match scan with
  | .all => some true
  | .filtered e => e.passes? service item
  | .nothing => some false

/-! ## §3 The question of a criterion -/

/-- The question that the `n`-th criterion is written as. -/
def Question.ofCriterion (s : Semantics) (n : Nat) (c : Criterion) : Question :=
  ⟨(if isNested s c then [attributesPlaceholder] else []) ++ [namePlaceholder n], c.comparison,
    valuePlaceholder n⟩

/-- A character that no placeholder goes on with is in none, unless it is in the front of it. -/
private theorem notMem_placeholder {c : Char} {front : String} (hfront : c ∉ front.toList)
    (hc : isWordChar c = false) (n : Nat) : c ∉ (front ++ toString n).toList := by
  rw [String.toList_append, List.mem_append, not_or]
  refine ⟨hfront, fun hmem => ?_⟩
  rw [List.all_eq_true.mp (all_isWordChar_toString n) c hmem] at hc
  cases hc

private theorem readPath_targetText (n : Nat) (c : Criterion) :
    readPath (targetText n c).toList =
      (if isNested .consistent c then [attributesPlaceholder] else []) ++ [namePlaceholder n] := by
  have hname : Text.cut '.' (namePlaceholder n).toList = [(namePlaceholder n).toList] :=
    Text.cut_of_notMem (notMem_placeholder (by decide) (by decide) n)
  rw [targetText]
  -- the point separates the attributes from the name, none of which has one itself
  split
  · have hattributes : '.' ∉ attributesPlaceholder.toList := by decide
    have htext : (attributesPlaceholder ++ "." ++ namePlaceholder n).toList =
        attributesPlaceholder.toList ++ '.' :: (namePlaceholder n).toList := by
      simp [String.toList_append]
    rw [readPath, htext, Text.cut_append hattributes, hname]
    simp
  · rw [readPath, hname]
    simp

private theorem notMem_targetText {c : Char} (hc : isWordChar c = false)
    (hmarks : c ∉ "#attributes.#name".toList) (n : Nat) (criterion : Criterion) :
    c ∉ (targetText n criterion).toList := by
  have hfront : "#attributes.#name".toList =
      (attributesPlaceholder ++ ".").toList ++ "#name".toList := rfl
  rw [hfront, List.mem_append, not_or] at hmarks
  have hname : c ∉ (namePlaceholder n).toList := notMem_placeholder hmarks.2 hc n
  rw [targetText]
  -- the target is a part of the words in front and a number
  split
  · rw [String.toList_append, List.mem_append, not_or]
    exact ⟨hmarks.1, hname⟩
  · exact hname

/-- The text of a criterion is read as its question. -/
theorem Question.read?_criterionText (n : Nat) (c : Criterion) :
    read? (criterionText .consistent n c).toList = some (ofCriterion .consistent n c) := by
  have hpath := readPath_targetText n c
  have htarget : ' ' ∉ (targetText n c).toList := notMem_targetText (by decide) (by decide) n c
  have hvalue : ' ' ∉ (valuePlaceholder n).toList :=
    notMem_placeholder (by decide) (by decide) n
  have hsome : (targetText n c).toList ≠ [] ∧ (valuePlaceholder n).toList ≠ [] := by
    constructor
    · rw [targetText]
      split <;> simp [namePlaceholder, String.toList_append]
    · simp [valuePlaceholder, String.toList_append]
  -- between the target and the value there is one word
  have hpair (sign : List Char) (hsign : ' ' ∉ sign) :
      Text.cut ' ' ((targetText n c).toList ++ ' ' :: (sign ++ ' ' :: (valuePlaceholder n).toList)) =
        [(targetText n c).toList, sign, (valuePlaceholder n).toList] := by
    rw [Text.cut_append htarget, Text.cut_append hsign, Text.cut_of_notMem hvalue]
  obtain ⟨property, comparison, wanted⟩ := c
  cases comparison with
  | equals =>
    have htext : (criterionText .consistent n ⟨property, .equals, wanted⟩).toList =
        (targetText n ⟨property, .equals, wanted⟩).toList ++
          ' ' :: (['='] ++ ' ' :: (valuePlaceholder n).toList) := by
      show (targetText n ⟨property, .equals, wanted⟩ ++ " = " ++ valuePlaceholder n).toList = _
      simp [String.toList_append]
    rw [read?, htext, hpair _ (by decide)]
    simp [hsome, hpath, ofCriterion]
  | notEquals =>
    have htext : (criterionText .consistent n ⟨property, .notEquals, wanted⟩).toList =
        (targetText n ⟨property, .notEquals, wanted⟩).toList ++
          ' ' :: (['<', '>'] ++ ' ' :: (valuePlaceholder n).toList) := by
      show (targetText n ⟨property, .notEquals, wanted⟩ ++ " <> " ++ valuePlaceholder n).toList = _
      simp [String.toList_append]
    rw [read?, htext, hpair _ (by decide)]
    simp [hsome, hpath, ofCriterion]
  | contains =>
    have hcall : ' ' ∉ "contains(".toList := by decide
    have hcomma : ' ' ∉ (targetText n ⟨property, .contains, wanted⟩).toList ++ [','] := by
      simp [htarget]
    have htext : (criterionText .consistent n ⟨property, .contains, wanted⟩).toList =
        "contains(".toList ++ ' ' :: ((targetText n ⟨property, .contains, wanted⟩).toList ++ [','] ++
          ' ' :: ((valuePlaceholder n).toList ++ ' ' :: [')'])) := by
      show ("contains( " ++ targetText n ⟨property, .contains, wanted⟩ ++ ", " ++
        valuePlaceholder n ++ " )").toList = _
      simp [String.toList_append]
    rw [read?, htext, Text.cut_append hcall, Text.cut_append hcomma, Text.cut_append hvalue,
      Text.cut_of_notMem (by decide)]
    simp [hsome, hpath, ofCriterion]

/-- The names on the path to what a criterion asks for. -/
def pathOf (s : Semantics) (c : Criterion) : List String :=
  (if isNested s c then [attributesName] else []) ++ [nameOf s c]

/-- What the service answers to a criterion. -/
def Service.answer (service : Service) (s : Semantics) (item : Item) (c : Criterion) : Bool :=
  service.compare c.comparison (item.at? (pathOf s c)) (valueOf c)

/-- In an expression over criteria, the placeholders of each are defined, and its question is
    answered as it was meant. -/
theorem Question.answer?_ofCriterion (service : Service) (s : Semantics) (item : Item)
    {criteria : List Criterion} {a : Criterion × Nat} (ha : a ∈ criteria.zipIdx) (text : String) :
    (ofCriterion s a.2 a.1).answer? service (.ofCriteria s criteria text) item =
      some (service.answer s item a.1) := by
  have hname := get?_namesFrom s ha
  have hvalue := get?_valuesFrom ha
  -- every placeholder of the path has a name, which leads to the place of the criterion
  have hpath : (ofCriterion s a.2 a.1).path.mapM (fun placeholder =>
      (namesFrom s 0 criteria).get? placeholder) = some (pathOf s a.1) := by
    rw [ofCriterion, pathOf]
    split
    · next hnested =>
      have hmem : a.1 ∈ criteria := List.zipIdx_map_fst 0 criteria ▸ List.mem_map_of_mem ha
      have hcustom : ∃ c ∈ criteria, isCustom s c = true :=
        ⟨a.1, hmem, isNested_eq_isCustom s a.1 ▸ hnested⟩
      simp [get?_namesFrom_attributesPlaceholder s hcustom, hname]
    · simp [hname]
  simp only [answer?, Expression.ofCriteria, hpath]
  simp [ofCriterion, hvalue, Service.answer]

/-! ## §4 Scans of filters -/

/-- Where the placeholders of some criteria are written, those that are defined are used. -/
theorem Expression.usesAll_ofCriteria {s : Semantics} {criteria : List Criterion} {text : String}
    (h : placeholders text.toList = writtenFrom s 0 criteria) :
    (ofCriteria s criteria text).usesAll = true := by
  refine List.all_eq_true.mpr fun key hkey => List.contains_iff_mem.mpr ?_
  show key ∈ placeholders text.toList
  rw [h, mem_writtenFrom]
  exact List.mem_append.mp hkey

/-- An expression that uses what it defines, and whose atoms are all answered, passes the items that
    its formula is true of. -/
theorem Expression.passes?_of_read {α : Type} {e : Expression} {service : Service} {item : Item}
    {φ : Formula α} {f : α → List Char} {answer : α → Bool} (huses : e.usesAll = true)
    (hread : Formula.read marks e.text.toList = some (φ.map f))
    (h : ∀ a ∈ φ.atoms, e.answer? service item (f a) = some (answer a)) :
    e.passes? service item = some (φ.eval answer) := by
  -- every question has an answer, so the default value is never used
  have hall : ((φ.map f).atoms.all fun atom => (e.answer? service item atom).isSome) = true := by
    rw [Formula.atoms_map, List.all_map, List.all_eq_true]
    intro a ha
    rw [Function.comp_apply, h a ha, Option.isSome_some]
  have heval : (φ.map f).eval (fun atom => (e.answer? service item atom).getD false) =
      φ.eval answer := by
    rw [Formula.eval_map]
    exact Formula.eval_congr φ fun a ha => by rw [h a ha, Option.getD_some]
  rw [passes?, hread]
  simp only [Option.bind_eq_bind, Option.bind_some, huses, hall, Bool.and_self, if_true, heval]

/-- Under the consistent semantics the service is given nothing that it refuses, and it selects an
    item exactly if the filter is true of its answers to the leaves. -/
theorem Scan.selects?_consistent (service : Service) (item : Item) (r : Filtering.Request) :
    (Scan.ofRequest .consistent r).selects? service item =
      some (r.eval (service.answer .consistent item)) := by
  have hfold := Folded.eval_ofForest (service.answer .consistent item) r
  rcases Folded.isNormal_ofForest r with ⟨b, hconstant⟩ | ⟨φ, hproper, hφ⟩
  · rw [hconstant, Folded.eval] at hfold
    rw [Scan.ofRequest_of_constant hconstant, ← hfold]
    cases b <;> rfl
  · rw [hφ, Folded.eval_ofFormula] at hfold
    rw [Scan.ofRequest_of_formula hφ, selects?, ← hfold]
    -- every atom is the text of a criterion under its number, which does not matter to the answer
    have hanswers : ∀ a ∈ (φ.number 0).atoms,
        (Expression.ofCriteria .consistent φ.atoms (foldedText 0 (Folded.ofFormula φ))).answer?
          service item (atomText a) = some (service.answer .consistent item a.1) := by
      intro a ha
      rw [Formula.atoms_number] at ha
      rw [Expression.answer?, atomText, Question.read?_criterionText, Option.bind_some,
        Question.answer?_ofCriterion service .consistent item ha]
    have huses : (Expression.ofCriteria .consistent φ.atoms
        (foldedText 0 (Folded.ofFormula φ))).usesAll = true := by
      apply Expression.usesAll_ofCriteria
      rw [placeholders_foldedText, Folded.members_ofFormula]
    rw [Expression.passes?_of_read huses (read_foldedText hproper) hanswers, ← Formula.eval_map,
      Formula.map_number]

/-- A filter of one leaf is answered as the leaf is, under either semantics. -/
theorem Scan.selects?_single (service : Service) (semantics : Semantics) (item : Item)
    (j j' : Junction) (c : Criterion) :
    (Scan.ofRequest semantics (.single j j' c)).selects? service item =
      some (service.answer semantics item c) := by
  cases semantics with
  | legacy =>
    -- the expression is the text of the criterion with a blank behind it
    let text := criterionText .legacy 0 c ++ " "
    have hscan : Scan.ofRequest .legacy (.single j j' c) = .filtered (.ofCriteria .legacy [c] text) :=
      rfl
    -- that text does not depend on the property and the value
    have htext : text = criterionText .legacy 0 ⟨"", c.comparison, ""⟩ ++ " " := by
      simp [text, criterionText, isNested]
    have hwritten : placeholders text.toList = writtenFrom .legacy 0 [c] := by
      show _ = [namePlaceholder 0, valuePlaceholder 0]
      rw [htext]
      cases c.comparison <;> decide
    have hatomic : Formula.IsAtomic marks text.toList := by
      rw [htext]
      cases c.comparison <;> decide
    have hquestion : Question.read? text.toList = some (.ofCriterion .legacy 0 c) := by
      show _ = some (Question.mk [namePlaceholder 0] c.comparison (valuePlaceholder 0))
      rw [htext]
      cases c.comparison <;> decide
    have hread : Formula.read marks text.toList = some (.map (fun _ => text.toList) (.atom c)) :=
      Formula.read_text (φ := .atom text.toList) trivial fun a ha => List.mem_singleton.mp ha ▸ hatomic
    have hfirst : (c, 0) ∈ [c].zipIdx := List.mem_cons_self
    have hanswers : ∀ a ∈ (Formula.atom c).atoms,
        (Expression.ofCriteria .legacy [c] text).answer? service item text.toList =
          some (service.answer .legacy item a) := by
      intro a ha
      rw [List.mem_singleton.mp ha, Expression.answer?, hquestion, Option.bind_some]
      exact Question.answer?_ofCriterion service .legacy item hfirst text
    rw [hscan, selects?, Expression.passes?_of_read (Expression.usesAll_ofCriteria hwritten) hread
      hanswers]
    rfl
  | consistent => rw [Scan.selects?_consistent, Filtering.Forest.eval_single]

end IncidentTracker.WideColumn
