import IncidentTracker.Proofs.Dictionary
import IncidentTracker.Proofs.Filtering.Likeness
import IncidentTracker.Proofs.Relational.ClauseText
import IncidentTracker.Proofs.WideColumn.Placeholders

/-!
# The Text of Queries

No text of a caller becomes part of a query. Filters that are alike, however their values and the
names of their free-form attributes differ, have the same clause under both semantics, character by
character, and are scanned with the same expression and the same placeholders. The difference is in
what is bound.

Both stores are treated in the same way. A query does not change when every criterion of its filter
is replaced with one like it; so filters that have the same sketch have the same query.

Main statement: `queries_eq_of_alike`.
-/

namespace IncidentTracker

open Filtering (Comparison Criterion Forest Junction Semantics)

section

variable {s : Semantics} {f : Criterion → Criterion}

namespace Relational

/-! ## §1 Clauses -/

/-- What a criterion reads is named alike for all that are alike: a column by its own name, and
    every attribute in the same words. -/
theorem Subject.text_eq_of_sameMember {p q : String} (h : SameMember p q) :
    (Subject.ofProperty p).text = (Subject.ofProperty q).text := by
  rw [Subject.ofProperty, Subject.ofProperty, h.ofProperty?_eq]
  cases Column.ofProperty? q with
  | none => rfl
  | some column => rfl

theorem Test.text_eq_of_alike {c d : Criterion} (h : c.Alike d) :
    (Test.ofCriterion s c).text = (Test.ofCriterion s d).text := by
  obtain ⟨property, comparison, value⟩ := c
  obtain ⟨property', comparison', value'⟩ := d
  obtain ⟨rfl, hproperty⟩ := h
  have hsubject := Subject.text_eq_of_sameMember hproperty
  cases s <;> cases comparison <;> exact congrArg (Operator.text · _) hsubject

/-- The text of a group is made of the texts of its parts. -/
theorem Condition.text_join_congr (j : Junction) :
    ∀ {parts parts' : List Condition}, textEach parts = textEach parts' →
      (join j parts).text = (join j parts').text
  | [], [], _ => rfl
  | [part], [part'], h => by
    simp only [textEach, List.cons.injEq, and_true] at h
    exact h
  -- two parts or more are put between parentheses, one part is not
  | part :: next :: parts, part' :: next' :: parts', h => by
    rw [join, join, text, text, h]
    all_goals simp
  | [], _ :: _, h => nomatch h
  | _ :: _, [], h => nomatch h
  | [_], _ :: _ :: _, h => by simp [textEach] at h
  | _ :: _ :: _, [_], h => by simp [textEach] at h

mutual

/-- The condition of a group reads the same when its criteria are replaced with ones like them. -/
theorem Condition.text_ofTree_map (hf : ∀ c, Criterion.Alike c (f c)) :
    ∀ t : Filtering.Tree Criterion, (ofTree (t.map f)).text = (ofTree t).text
  | .branch j children _ => by
    rw [Filtering.Tree.map, ofTree, ofTree]
    exact text_join_congr j (textEach_ofTrees_map hf children)
  | .group j members => by
    rw [Filtering.Tree.map, ofTree, ofTree]
    apply text_join_congr
    simp only [textEach_eq_map, List.map_map, List.map_inj_left, Function.comp_apply, text]
    intro c _
    exact (Test.text_eq_of_alike (hf c)).symm

theorem Condition.textEach_ofTrees_map (hf : ∀ c, Criterion.Alike c (f c)) :
    ∀ nodes : List (Filtering.Tree Criterion),
      textEach (ofTrees (Filtering.Tree.mapEach f nodes)) = textEach (ofTrees nodes)
  | [] => rfl
  | node :: nodes => by
    rw [Filtering.Tree.mapEach, ofTrees, textEach, text_ofTree_map hf node,
      textEach_ofTrees_map hf nodes, ofTrees, textEach]

end

theorem Clause.text_ofRequest_map (hf : ∀ c, Criterion.Alike c (f c)) (r : Filtering.Request) :
    (ofRequest s (r.map f)).text = (ofRequest s r).text := by
  cases s with
  | legacy =>
    rw [ofRequest, ofRequest, Forest.ownMembers_map]
    cases r.ownMembers with
    | nil => rfl
    | cons c criteria =>
      -- the text of a test does not tell alike criteria apart
      have htests : ((c :: criteria).map f).map (fun d => (Test.ofCriterion .legacy d).text) =
          (c :: criteria).map fun d => (Test.ofCriterion .legacy d).text := by
        rw [List.map_map, List.map_inj_left]
        exact fun d _ => (Test.text_eq_of_alike (hf d)).symm
      simp only [List.map_cons, text, List.map_map, Function.comp_def] at htests ⊢
      rw [htests]
  | consistent =>
    rw [ofRequest, ofRequest, Forest.map, text, text]
    rw [Condition.text_join_congr r.junction (Condition.textEach_ofTrees_map hf r.nodes)]

end Relational

namespace WideColumn

/-! ## §2 Scans -/

theorem isCustom_eq_of_alike {c d : Criterion} (h : c.Alike d) : isCustom s c = isCustom s d := by
  rw [isCustom, isCustom, h.2.isMember_eq]

theorem criterionText_eq_of_alike {c d : Criterion} (h : c.Alike d) (n : Nat) :
    criterionText s n c = criterionText s n d := by
  rw [criterionText, criterionText, isNested_eq_isCustom, isNested_eq_isCustom,
    isCustom_eq_of_alike h, h.1]

theorem criteriaText_map (hf : ∀ c, Criterion.Alike c (f c)) (criteria : List Criterion) (n : Nat) :
    criteriaText s n (criteria.map f) = criteriaText s n criteria := by
  induction criteria generalizing n with
  | nil => rfl
  | cons c criteria ih =>
    rw [List.map_cons, criteriaText, criteriaText, ih, criterionText_eq_of_alike (hf c)]

mutual

theorem foldedText_map (hf : ∀ c, Criterion.Alike c (f c)) :
    ∀ (folded : Folded Criterion) (n : Nat), foldedText n (folded.map f) = foldedText n folded
  | .constant _, _ => rfl
  | .member c, n => (criterionText_eq_of_alike (hf c) n).symm
  | .group j parts, n => by
    rw [Folded.map, foldedText, foldedTextEach_map hf parts n, foldedText]

theorem foldedTextEach_map (hf : ∀ c, Criterion.Alike c (f c)) :
    ∀ (parts : List (Folded Criterion)) (n : Nat),
      foldedTextEach n (Folded.mapEach f parts) = foldedTextEach n parts
  | [], _ => rfl
  | part :: parts, n => by
    rw [Folded.mapEach, foldedTextEach, foldedText_map hf part n, Folded.members_map,
      List.length_map, foldedTextEach_map hf parts _, foldedTextEach]

end

/-- Which names are defined depends on which criteria ask for an attribute, and on how many there
    are. -/
theorem keys_namesFrom_map (hf : ∀ c, Criterion.Alike c (f c)) (criteria : List Criterion) (n : Nat) :
    (namesFrom s n (criteria.map f)).keys = (namesFrom s n criteria).keys := by
  induction criteria generalizing n with
  | nil => rfl
  | cons c criteria ih =>
    have hnames := Dictionary.keys_insert_congr (ih (n + 1)) (namePlaceholder n) (nameOf s (f c))
      (nameOf s c)
    rw [List.map_cons, namesFrom, namesFrom, isNested_eq_isCustom, isNested_eq_isCustom,
      ← isCustom_eq_of_alike (hf c)]
    -- alike criteria are custom together, so the same placeholders are named
    split
    · exact Dictionary.keys_insert_congr hnames _ _ _
    · exact hnames

theorem keys_valuesFrom_map (criteria : List Criterion) (n : Nat) :
    (valuesFrom n (criteria.map f)).keys = (valuesFrom n criteria).keys := by
  induction criteria generalizing n with
  | nil => rfl
  | cons c criteria ih =>
    rw [List.map_cons, valuesFrom, valuesFrom]
    exact Dictionary.keys_insert_congr (ih (n + 1)) _ _ _

/-- What a scan is made of but for what is bound: its kind, and for an expression the text and the
    placeholders that are defined. -/
inductive Outline where
  | all
  | filtered (text : String) (names values : List String)
  | nothing
  deriving DecidableEq

/-- A scan without what is bound. -/
def Scan.outline : Scan → Outline
  | .all => .all
  | .filtered e => .filtered e.text e.names.keys e.values.keys
  | .nothing => .nothing

/-- Scans of the same kind, and if there are expressions, with the same text and with the same
    placeholders defined. -/
def Scan.SameQuery : Scan → Scan → Prop
  | .all, .all => True
  | .filtered e, .filtered e' =>
    e.text = e'.text ∧ e.names.keys = e'.names.keys ∧ e.values.keys = e'.values.keys
  | .nothing, .nothing => True
  | _, _ => False

theorem Scan.sameQuery_of_outline_eq {a b : Scan} (h : a.outline = b.outline) : a.SameQuery b := by
  cases a with
  | all => cases b <;> trivial
  | filtered e =>
    cases b with
    | filtered e' =>
      rw [outline, outline, Outline.filtered.injEq] at h
      exact h
    | all => cases h
    | nothing => cases h
  | nothing => cases b <;> trivial

theorem Scan.outline_ofCriteria_map (hf : ∀ c, Criterion.Alike c (f c)) (criteria : List Criterion)
    (text : String) :
    (Scan.filtered (.ofCriteria s (criteria.map f) text)).outline =
      (Scan.filtered (.ofCriteria s criteria text)).outline := by
  simp only [outline, Expression.ofCriteria, keys_namesFrom_map hf, keys_valuesFrom_map]

theorem Scan.outline_ofRequest_map (hf : ∀ c, Criterion.Alike c (f c)) (r : Filtering.Request) :
    (ofRequest s (r.map f)).outline = (ofRequest s r).outline := by
  cases s with
  | legacy =>
    simp only [ofRequest, Forest.ownMembers_map, criteriaText_map hf, List.isEmpty_map]
    split
    · rfl
    · exact outline_ofCriteria_map hf _ _
  | consistent =>
    -- folding looks at the shape of the tree, so it commutes with a change of the leaves
    have hfiltered (folded : Folded Criterion) :
        (Scan.filtered (.ofCriteria .consistent (folded.map f).members
            (foldedText 0 (folded.map f)))).outline =
          (Scan.filtered (.ofCriteria .consistent folded.members (foldedText 0 folded))).outline := by
      rw [Folded.members_map, foldedText_map hf]
      exact outline_ofCriteria_map hf _ _
    rw [ofRequest, ofRequest, Folded.ofForest_map]
    cases Folded.ofForest r with
    | constant b => cases b <;> rfl
    | member c => exact hfiltered (.member c)
    | group j parts => exact hfiltered (.group j parts)

end WideColumn

end

/-! ## §3 Alike filters -/

/-- Filters with the same groups, junctions and comparisons, whose properties stand for the same
    members and otherwise for none, have the same queries: the same clause, and a scan of the same
    kind with the same expression and the same placeholders. So no value and no name of a free-form
    attribute is ever part of a query; they are what is bound. -/
theorem queries_eq_of_alike {r r' : Filtering.Request} (h : Forest.Alike Criterion.Alike r r')
    (s : Semantics) :
    (Relational.Clause.ofRequest s r).text = (Relational.Clause.ofRequest s r').text ∧
      (WideColumn.Scan.ofRequest s r).SameQuery (WideColumn.Scan.ofRequest s r') := by
  -- both filters have the queries of their sketch
  have hsketch : r.map Criterion.sketch = r'.map Criterion.sketch :=
    Forest.Alike.map_eq (R := Criterion.Alike) (fun _ _ hlike => Criterion.sketch_eq hlike) h
  have htext := Relational.Clause.text_ofRequest_map (s := s) Criterion.alike_sketch
  have houtline := WideColumn.Scan.outline_ofRequest_map (s := s) Criterion.alike_sketch
  constructor
  · rw [← htext r, hsketch, htext r']
  · apply WideColumn.Scan.sameQuery_of_outline_eq
    rw [← houtline r, hsketch, houtline r']

/-- What is meant to end a query early, or to pass for a placeholder, leaves no trace in it. -/
theorem queries_eq_of_alike_hostile :
    let plain : Filtering.Request :=
      ⟨.or, [.branch .and [.group .or [⟨"state", .equals, "open"⟩, ⟨"severity", .contains, "1"⟩]]
        [⟨"type", .notEquals, "Bug"⟩]]⟩
    let hostile : Filtering.Request :=
      ⟨.or, [.branch .and [.group .or [⟨"STATE", .equals, "') OR 1=1 --"⟩,
          ⟨"x') = '' UNION SELECT 1 --", .contains, ":value0 or #attributes"⟩]]
        [⟨"Type", .notEquals, "?"⟩]]⟩
    Forest.Alike Criterion.Alike plain hostile ∧
      (Relational.Clause.ofRequest .consistent plain).text =
        (Relational.Clause.ofRequest .consistent hostile).text ∧
      (WideColumn.Scan.ofRequest .consistent plain).SameQuery
        (WideColumn.Scan.ofRequest .consistent hostile) := by
  intro plain hostile
  -- two names of one member; the third pair names no member at all
  have hstate : SameMember "state" "STATE" :=
    .inl ⟨("state", Incident.state), by simp [HasProperties.members], by decide, by decide⟩
  have hkind : SameMember "type" "Type" :=
    .inl ⟨("type", Incident.kind), by simp [HasProperties.members], by decide, by decide⟩
  have hcustom : SameMember "severity" "x') = '' UNION SELECT 1 --" := .inr ⟨by decide, by decide⟩
  have halike : Forest.Alike Criterion.Alike plain hostile := by
    refine ⟨rfl, ⟨rfl, ⟨⟨rfl, ?_⟩, trivial⟩, ?_⟩, trivial⟩
    · exact .cons ⟨rfl, hstate⟩ (.cons ⟨rfl, hcustom⟩ .nil)
    · exact .cons ⟨rfl, hkind⟩ .nil
  exact ⟨halike, queries_eq_of_alike halike .consistent⟩

end IncidentTracker
