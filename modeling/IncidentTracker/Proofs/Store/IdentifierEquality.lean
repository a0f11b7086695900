import IncidentTracker.Proofs.Entity.Identifiers
import IncidentTracker.Proofs.Relational.LegacyListing
import IncidentTracker.Proofs.WideColumn.ExactSelection

/-!
# Equality With an Identifier

A filter that asks for an identifier compares texts in an evaluation and in a database under the
consistent semantics: there the value must be the decimal text of the identifier. In a database under
the legacy semantics, and in a table of items, the value is read as a number first, and then `01` or
`+1` asks for the identifier 1 as well; a database even reads exponents, points and blanks.

All of them agree on values that are plain: decimal texts of identifiers in range, and whatever a
database does not read as a number.

Main statement: `selects_idEquals`.
-/

namespace IncidentTracker

open Filtering (Criterion Forest Junction Semantics)

/-! ## §1 Values -/

namespace Relational

/-- Whether a database takes a value for an identifier. -/
def takesFor (semantics : Semantics) (v : String) (n : Int) : Bool :=
  match semantics with
  | .legacy => collatedEqual (.integer n) v.toList
  | .consistent => decide (v = idText n)

/-- A value that is read as a word asks for just that identifier. -/
theorem takesFor_of_toWord? {v : String} {m : Int} (h : Text.Decimal.toWord? v.toList = some m)
    (n : Int) : takesFor .legacy v n = decide (m = n) := by
  rw [takesFor, collatedEqual, ofText?_of_toWord? h]
  rfl

end Relational

/-- A value about which all agree: the decimal text of an identifier in range, or a text that a
    database does not read as a number. -/
def IsPlainValue (v : String) : Prop :=
  ∀ number, Relational.Numeric.ofText? v.toList = some number →
    ∃ m, Text.Decimal.isWord m = true ∧ v = idText m

/-- A plain value is read as the identifier whose decimal text it is, and otherwise as none. -/
theorem IsPlainValue.agree {v : String} (hv : IsPlainValue v) {n : Int}
    (hn : Text.Decimal.isWord n = true) :
    Relational.takesFor .legacy v n = decide (v = idText n) ∧
      decide (Text.Decimal.toWord? v.toList = some n) = decide (v = idText n) := by
  cases hnumber : Relational.Numeric.ofText? v.toList with
  | some number =>
    obtain ⟨m, hm, rfl⟩ := hv number hnumber
    have hread := toWord?_idText hm
    rw [Relational.takesFor_of_toWord? hread, hread]
    -- different identifiers have different decimal texts
    simp [idText_inj]
  | none =>
    -- what is no number is neither a word nor the decimal text of one
    have hword : Text.Decimal.toWord? v.toList = none := by
      cases hword : Text.Decimal.toWord? v.toList with
      | none => rfl
      | some m => exact nomatch hnumber.symm.trans (Relational.ofText?_of_toWord? hword)
    have hne : v ≠ idText n := by
      rintro rfl
      exact nomatch hword.symm.trans (toWord?_idText hn)
    rw [Relational.takesFor, Relational.collatedEqual, hnumber, hword]
    simp [hne]

section

-- the name of the property may be written in any case
variable {p : String} (hp : Text.sameIgnoringAsciiCase "id" p = true)

include hp

/-! ## §2 In memory -/

theorem Relational.Column.ofProperty?_id : ofProperty? p = some .id := by
  simp [ofProperty?, all, hp]

theorem accepts_idEquals (j j' : Junction) (v : String) (i : Incident) :
    (Forest.single j j' ⟨p, .equals, v⟩).accepts i = decide (v = idText i.id) := by
  rw [Forest.accepts, Forest.eval_single, Relational.propertyValue_eq,
    Relational.Column.ofProperty?_id hp]
  exact eqIgnoreCase_idText i.id v

namespace Relational

/-! ## §3 In a database -/

theorem Subject.ofProperty_id : ofProperty p = .column .id := by
  rw [ofProperty, Column.ofProperty?_id hp]

theorem Test.holds_id (semantics : Semantics) (v : String) (row : Row) :
    (Test.ofCriterion semantics ⟨p, .equals, v⟩).holds row =
      .ok (takesFor semantics v row.toIncident.id) := by
  cases semantics with
  | legacy =>
    show Operator.collatedEqual.holds ((Subject.ofProperty p).cell row) v.toList = _
    rw [Subject.ofProperty_id hp]
    rfl
  | consistent =>
    show Operator.lowerEqual.holds ((Subject.ofProperty p).cell row) v.toList = _
    -- lowering leaves decimals alone, so nothing is compared but the texts
    have hlower : (lower (Text.Decimal.ofInt row.incident.id) == lower v.toList) =
        decide (v = idText row.incident.id) := by
      rw [lower, lower, Text.Decimal.asciiFold_ofInt, Bool.beq_comm, beq_eq_decide]
      exact decide_eq_decide.mpr asciiFold_eq_ofInt_iff
    rw [Subject.ofProperty_id hp]
    exact congrArg Except.ok hlower

theorem Clause.holds_idEquals (semantics : Semantics) (j j' : Junction) (v : String) (row : Row) :
    (ofRequest semantics (Forest.single j j' ⟨p, .equals, v⟩)).holds row =
      .ok (takesFor semantics v row.toIncident.id) := by
  have htest := Test.holds_id hp semantics v row
  -- under either semantics the criterion is the only one that is tested
  cases semantics with
  | legacy =>
    have hanswers : ∀ c ∈ (Forest.single j j' ⟨p, .equals, v⟩).ownMembers,
        (Test.ofCriterion .legacy c).holds row = .ok (takesFor .legacy v row.toIncident.id) := by
      simpa using htest
    rw [holds_legacy_eq_all hanswers]
    exact congrArg Except.ok (Bool.and_true _)
  | consistent =>
    have hanswers : ∀ c ∈ (Forest.single j j' ⟨p, .equals, v⟩).leaves,
        (Test.ofCriterion .consistent c).holds row =
          .ok (takesFor .consistent v row.toIncident.id) := by
      simpa using htest
    rw [holds_consistent_eq_eval hanswers, Forest.eval_single]

/-- One criterion is below all limits, so it is asked of every incident that is stored. -/
theorem Store.list_idEquals {s : Store} (hs : s.Reachable) (hopen : s.isOpen = true)
    (j j' : Junction) (v : String) :
    (s.list (some (Forest.single j j' ⟨p, .equals, v⟩))).1 =
      .ok (s.database.stored.filter fun i => takesFor s.semantics v i.id) := by
  -- one test is within the limits, whatever its value
  have hlimits (semantics : Semantics) :
      (Clause.ofRequest semantics (Forest.single j j' ⟨p, .equals, v⟩)).checkLimits = .ok () := by
    cases semantics with
    | legacy =>
      show (Clause.conjunction [⟨Subject.ofProperty p, .collatedEqual, v⟩]).checkLimits = _
      rw [Subject.ofProperty_id hp]
      rfl
    | consistent =>
      show (Clause.condition (.test ⟨Subject.ofProperty p, .lowerEqual, v⟩)).checkLimits = _
      rw [Subject.ofProperty_id hp]
      rfl
  rw [list_eq_select hs.ready hopen]
  exact Database.select_eq_filter hs.ready.wellFormed (hlimits s.semantics) fun row _ =>
    Clause.holds_idEquals hp s.semantics j j' v row

end Relational

namespace WideColumn

/-! ## §4 In a table of items -/

/-- A number is asked for exactly if the value is read as a word. -/
theorem Service.answer_id (service : Service) (semantics : Semantics) (v : String) {i : Incident}
    (hi : Text.Decimal.isWord i.id = true) :
    service.answer semantics (.ofIncident i) ⟨p, .equals, v⟩ =
      decide (Text.Decimal.toWord? v.toList = some i.id) := by
  have hlower : Text.lowercase p = "id" := Text.lowercase_eq_of_same (by decide) hp
  have hnested : isNested semantics ⟨p, .equals, v⟩ = false := by
    have hmember : isMember Incident "id" = true := by decide
    rw [isNested, hlower, hmember, Bool.not_true, Bool.and_false]
  have hpath : pathOf semantics ⟨p, .equals, v⟩ = ["id"] := by
    rw [pathOf, nameOf, hnested, hlower]
    rfl
  have hfound : (Item.ofIncident i).at? ["id"] = some (.number (idText i.id)) := by
    have hmember : ("id", fun i => idText i.id) ∈
        (HasProperties.members : List (String × (Incident → String))) := List.mem_cons_self
    rw [Item.at?_cons, Item.get?_ofIncident i hmember]
    rfl
  rw [answer, hpath, hfound, valueOf, hlower]
  -- the value is bound as a number if it is one, and otherwise as a text, which no number equals
  cases hv : Text.Decimal.toWord? v.toList with
  | none =>
    show service.equal (.number (idText i.id)) (.text v) = _
    rw [service.equal_number_text]
    rfl
  | some m =>
    show service.equal (.number (idText i.id)) (.number v) = _
    rw [service.equal_numbers _ _ _ _ (toWord?_idText hi) hv, Bool.beq_comm, beq_eq_decide]
    simp

end WideColumn

end

/-! ## §5 All of them -/

/-- A filter that asks for an identifier selects an incident exactly if the value is the decimal text
    of its identifier, in memory and in every database under the consistent semantics. In a database
    under the legacy semantics, and in a table of items under either semantics, the value may be
    written otherwise: with a sign or with zeros in front, a word asks for the same identifier
    everywhere there. About plain values all agree. -/
theorem selects_idEquals {p : String} (hp : Text.sameIgnoringAsciiCase "id" p = true)
    (j j' : Junction) (v : String) :
    let r := Forest.single j j' ⟨p, .equals, v⟩
    (∀ i : Incident, r.accepts i = decide (v = idText i.id)) ∧
      (∀ s : Relational.Store, s.Reachable → s.isOpen = true →
        (s.list (some r)).1 = .ok (s.database.stored.filter fun i =>
          Relational.takesFor s.semantics v i.id)) ∧
      (∀ (service : WideColumn.Service) (semantics : Semantics) (i : Incident),
        Text.Decimal.isWord i.id = true →
        (WideColumn.Scan.ofRequest semantics r).selects? service (.ofIncident i) =
          some (decide (Text.Decimal.toWord? v.toList = some i.id))) ∧
      (∀ m, Text.Decimal.toWord? v.toList = some m →
        ∀ n, Relational.takesFor .legacy v n = decide (m = n)) ∧
      (IsPlainValue v → ∀ n, Text.Decimal.isWord n = true →
        Relational.takesFor .legacy v n = decide (v = idText n) ∧
          decide (Text.Decimal.toWord? v.toList = some n) = decide (v = idText n)) := by
  intro r
  -- the evaluator, the two stores, then the values on which they agree
  refine ⟨?_, ?_, ?_, ?_, ?_⟩
  · exact fun i => accepts_idEquals hp j j' v i
  · exact fun s hs hopen => Relational.Store.list_idEquals hp hs hopen j j' v
  · intro service semantics i hi
    rw [WideColumn.Scan.selects?_single, WideColumn.Service.answer_id hp service semantics v hi]
  · exact fun m hm n => Relational.takesFor_of_toWord? hm n
  · exact fun hv n hn => hv.agree hn

theorem selects_idEquals_second :
    let news : List NewIncident := [{ kind := "Bug" }, { kind := "Task" }]
    let r := Forest.single .or .and ⟨"Id", .equals, "2"⟩
    let task : Incident := { kind := "Task", id := 2 }
    (((Relational.Store.fresh .legacy true 0).addEach news).2.list (some r)).1 = .ok [task] ∧
      (((Relational.Store.fresh .consistent true 0).addEach news).2.list (some r)).1 = .ok [task] ∧
      (WideColumn.Scan.ofRequest .legacy r).selects? .ofWords (.ofIncident task) = some true := by
  intro news r task
  obtain ⟨-, hlist, hscan, -, -⟩ := selects_idEquals (p := "Id") (by decide) .or .and "2"
  have hreachable (semantics : Semantics) :
      ((Relational.Store.fresh semantics true 0).addEach news).2.Reachable :=
    (Relational.Store.Reachable.begun semantics true 0).addEach news
  refine ⟨?_, ?_, ?_⟩
  · exact (hlist _ (hreachable .legacy) rfl).trans (congrArg Except.ok (by decide +kernel))
  · exact (hlist _ (hreachable .consistent) rfl).trans (congrArg Except.ok (by decide +kernel))
  · exact (hscan .ofWords .legacy task (by decide)).trans (congrArg some (by decide))

/-- A zero in front makes a difference: the incident with identifier 1 is listed by a database under
    the legacy semantics and found in a table of items, but neither accepted by the evaluation nor
    listed under the consistent semantics. -/
theorem selects_idEquals_leading_zero :
    let i : Incident := { id := 1 }
    let r := Forest.single .and .and ⟨"id", .equals, "01"⟩
    r.accepts i = false ∧
      (((Relational.Store.fresh .consistent true 0).add {}).2.list (some r)).1 = .ok [] ∧
      (((Relational.Store.fresh .legacy true 0).add {}).2.list (some r)).1 = .ok [i] ∧
      ∀ semantics, (WideColumn.Scan.ofRequest semantics r).selects? .ofWords (.ofIncident i) =
        some true := by
  intro i r
  refine ⟨by decide +kernel, by decide +kernel, by decide +kernel, ?_⟩
  intro semantics
  -- the service compares numbers, and "01" reads as 1
  rw [WideColumn.Scan.selects?_single,
    WideColumn.Service.answer_id (by decide) .ofWords semantics "01" (by decide)]
  rfl

end IncidentTracker
