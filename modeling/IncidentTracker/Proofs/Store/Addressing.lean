import IncidentTracker.Proofs.Relational.AttributeLookup
import IncidentTracker.Proofs.WideColumn.ExactSelection

/-!
# One Member in Every Store

A name of a property stands for the same thing wherever it is looked up. Either it is the name of a
well-known member, up to the case of ASCII letters: then the evaluation of a filter returns that
member, one column of the relational table stores it, and the item of an incident has it under the
name in lower case and under no other. Or it is the name of no member, and then it is looked up among
the attributes only, by the evaluation and by what either store is asked under the consistent
semantics.

Names are compared in two ways, by folding ASCII letters and by lowering all of Unicode. That both
come to the same for the names of members is `Incident.of_findMember` and
`Incident.isMember_lowercase`.

Main statement: `addressed_alike`.
-/

namespace IncidentTracker

open Filtering (Criterion Semantics)
open Relational (Column Database Subject)
open WideColumn (Item Value Service)

/-! ## §1 What it is to stand for a member -/

/-- The value of a member in the item of an incident: the identifier is a number. -/
def Relational.Column.value (i : Incident) (member : Column) : Value :=
  if member = .id then .number (member.text i) else .text (member.text i)

/-- A name stands for a member in an incident, in its row and in its item, and in what the stores are
    asked for. -/
structure Relational.Column.IsAddressedBy (member : Column) (name : String) : Prop where
  evaluated : ∀ i, propertyValue i name = member.text i
  column : Column.ofProperty? name = some member
  stored : ∀ (db : Database) (new : NewIncident), ∃ row,
    (db.insert new).2.incidents = db.incidents ++ [row] ∧
      (member.cell row).chars = (member.text (db.insert new).1).toList
  written : ∀ key, (∀ i, (Item.ofIncident i).get? key = some (member.value i)) ↔
    key = Text.lowercase name
  tested : ∀ semantics (c : Criterion), c.property = name →
    (Relational.Test.ofCriterion semantics c).subject = .column member
  scanned : ∀ (c : Criterion), c.property = name →
    WideColumn.pathOf .consistent c = [Text.lowercase name]

/-- A name is looked up among the attributes of an incident, among its attribute rows and in the map
    of attributes of its item, and nowhere else. -/
structure IsLookedUp (name : String) : Prop where
  evaluated : ∀ i : Incident, propertyValue i name = (i.attribute? name).getD ""
  tested : ∀ c : Criterion, c.property = name →
    (Relational.Test.ofCriterion .consistent c).subject = .attributeNamed name
  rows : ∀ (db : Database), ∀ row ∈ db.rows, (Subject.attributeNamed name).cell row =
    .text (Relational.lookUp (db.attributesOf row.incident.id) name).toList
  scanned : ∀ c : Criterion, c.property = name →
    WideColumn.pathOf .consistent c = [WideColumn.attributesName, name]
  answered : ∀ (service : Service) (i : Incident) (c : Criterion), c.property = name →
    service.answer .consistent (.ofIncident i) c =
      service.compare c.comparison ((i.attributes.get? name).map .text) (WideColumn.valueOf c)

/-! ## §2 Columns and members -/

namespace Relational.Column

/-- A property that reads a column is the name under which the column is listed, in other letters. -/
theorem of_ofProperty? {name : String} {member : Column} (h : ofProperty? name = some member) :
    (Text.lowercase name, member) ∈ all := by
  obtain ⟨⟨known, _⟩, hfind, rfl⟩ := Option.map_eq_some_iff.mp h
  have hmem := List.mem_of_find?_eq_some hfind
  have hsame : Text.sameIgnoringAsciiCase known name = true := by
    simpa using List.find?_some hfind
  -- the names of members are steady, so they are what is left of any name that is equal to them
  have hmember : (known, fun i => text i _) ∈
      (HasProperties.members : List (String × (Incident → String))) :=
    members_eq_map ▸ List.mem_map_of_mem hmem
  rw [Text.lowercase_eq_of_same (Incident.isSteady_of_mem_members hmember) hsame]
  exact hmem

/-- Every column stands in the list of columns under one name. -/
theorem eq_of_mem_all {name other : String} {member : Column} (h : (name, member) ∈ all)
    (h' : (other, member) ∈ all) : name = other := by
  cases member <;> simp_all [all]

/-- An incident of which no two members have the same text. -/
def sample : Incident :=
  { kind := "type", id := 0, description := "description", reporter := "reporter", state := "state" }

/-- Members with the same text in the sample are the same. -/
theorem eq_of_text_sample {member other : Column} (h : text sample member = text sample other) :
    member = other := by
  cases member <;> cases other <;> first | rfl | exact absurd h (by decide)

/-- Members with the same value in the item of the sample are the same. -/
theorem eq_of_value_sample {member other : Column} (h : member.value sample = other.value sample) :
    member = other := by
  apply eq_of_text_sample
  -- the identifier is the one number, the others are texts
  unfold value at h
  split at h <;> split at h
  · exact Value.number.inj h
  · cases h
  · cases h
  · exact Value.text.inj h

/-- An item has the members of its incident under their names, and the attributes. -/
theorem get?_ofIncident_cases {i : Incident} {key : String} {found : Value}
    (h : (Item.ofIncident i).get? key = some found) :
    (∃ member, (key, member) ∈ all ∧ found = member.value i) ∨
      found = WideColumn.attributesValue i.attributes := by
  -- what is found is one of the six entries that the item was made from
  have hmem := Dictionary.mem_of_get?_ofList h
  simp only [List.mem_cons, Prod.mk.injEq, List.not_mem_nil, or_false] at hmem
  rcases hmem with ⟨rfl, rfl⟩ | ⟨rfl, rfl⟩ | ⟨rfl, rfl⟩ | ⟨rfl, rfl⟩ | ⟨rfl, rfl⟩ | ⟨rfl, rfl⟩
  · exact .inl ⟨.kind, by simp [all], rfl⟩
  · exact .inl ⟨.id, by simp [all], rfl⟩
  · exact .inl ⟨.description, by simp [all], rfl⟩
  · exact .inl ⟨.reporter, by simp [all], rfl⟩
  · exact .inl ⟨.state, by simp [all], rfl⟩
  · exact .inr rfl

/-- A member is written in an item under its name. -/
theorem get?_ofIncident {key : String} {member : Column} (h : (key, member) ∈ all) (i : Incident) :
    (Item.ofIncident i).get? key = some (member.value i) := by
  have hmember : (key, fun i => text i member) ∈
      (HasProperties.members : List (String × (Incident → String))) :=
    members_eq_map ▸ List.mem_map_of_mem h
  -- it is a number exactly under the name of the identifier
  have hid : key = "id" ↔ member = .id := by
    simp only [all, List.mem_cons, Prod.mk.injEq, List.not_mem_nil, or_false] at h
    rcases h with ⟨rfl, rfl⟩ | ⟨rfl, rfl⟩ | ⟨rfl, rfl⟩ | ⟨rfl, rfl⟩ | ⟨rfl, rfl⟩ <;> decide
  rw [Item.get?_ofIncident i hmember, value]
  simp only [hid]

/-- A member is written in items under no other name. -/
theorem get?_ofIncident_iff {name : String} {member : Column} (h : (name, member) ∈ all)
    {key : String} :
    (∀ i, (Item.ofIncident i).get? key = some (member.value i)) ↔ key = name := by
  constructor
  · intro hfound
    -- in the item of the sample, no two names have the same value
    rcases get?_ofIncident_cases (hfound sample) with ⟨other, hother, hvalue⟩ | hvalue
    · have heq : member = other := eq_of_value_sample hvalue
      rw [← heq] at hother
      exact eq_of_mem_all hother h
    · cases member <;> cases hvalue
  · rintro rfl
    exact get?_ofIncident h

/-- The row of a new incident has each member in its column. -/
theorem stored (member : Column) (db : Database) (new : NewIncident) :
    ∃ row, (db.insert new).2.incidents = db.incidents ++ [row] ∧
      (member.cell row).chars = (member.text (db.insert new).1).toList := by
  refine ⟨_, rfl, ?_⟩
  cases member with
  | id => exact String.toList_ofList.symm
  | kind | description | reporter | state => rfl

end Relational.Column

/-! ## §3 The two cases -/

/-- The column that a property reads is the member that it stands for. -/
theorem isAddressedBy_of_ofProperty? {name : String} {member : Column}
    (h : Column.ofProperty? name = some member) : member.IsAddressedBy name where
  evaluated i := by rw [Relational.propertyValue_eq, h]
  column := h
  stored := member.stored
  written key := Column.get?_ofIncident_iff (Column.of_ofProperty? h)
  tested semantics c hc := by
    rw [Relational.Test.subject_ofCriterion, hc, Subject.ofProperty, h]
  scanned c hc := by
    have hmember : isMember Incident c.property = true := by
      rw [hc, ← isSome_ofProperty?, h, Option.isSome_some]
    -- a member is addressed at the top of the item
    have hnested : WideColumn.isNested .consistent c = false := by
      rw [WideColumn.isNested, Incident.isMember_lowercase, hmember]
      rfl
    rw [WideColumn.pathOf, WideColumn.nameOf, hnested, hc]
    rfl

/-- A name that chooses no column is looked up. -/
theorem isLookedUp_of_ofProperty? {name : String} (h : Column.ofProperty? name = none) :
    IsLookedUp name := by
  have hpath (c : Criterion) (hc : c.property = name) :
      WideColumn.pathOf .consistent c = [WideColumn.attributesName, name] := by
    have hmember : isMember Incident c.property = false := by
      rw [hc, ← isSome_ofProperty?, h, Option.isSome_none]
    -- any other name is addressed below the attributes
    have hnested : WideColumn.isNested .consistent c = true := by
      rw [WideColumn.isNested, Incident.isMember_lowercase, hmember]
      rfl
    rw [WideColumn.pathOf, WideColumn.nameOf, hnested, hc]
    rfl
  refine ⟨fun i => ?_, fun c hc => ?_, fun db row hrow => ?_, hpath, fun service i c hc => ?_⟩
  · rw [Relational.propertyValue_eq, h]
  · rw [Relational.Test.subject_ofCriterion, hc, Subject.ofProperty, h]
  · obtain ⟨incident, -, rfl⟩ := List.mem_map.mp hrow
    rfl
  · rw [Service.answer, hpath c hc, Item.at?_attribute]

/-- Whatever its letters are, a name is that of a member, or its lower-case form is, exactly if it
    chooses a column. Then it stands for one member in an incident, in its row and in its item, and
    each of the evaluation, the choice of the column and the item is enough to tell which. Else it is
    looked up among the attributes. -/
theorem addressed_alike (name : String) :
    isMember Incident (Text.lowercase name) = isMember Incident name ∧
    (Column.ofProperty? name).isSome = isMember Incident name ∧
    (isMember Incident name = true → ∃ member : Column, member.IsAddressedBy name ∧
      ∀ other : Column, ((∀ i, propertyValue i name = other.text i) ∨
        Column.ofProperty? name = some other ∨
        ∀ i, (Item.ofIncident i).get? (Text.lowercase name) = some (other.value i)) →
        other = member) ∧
    (isMember Incident name = false → IsLookedUp name) := by
  refine ⟨Incident.isMember_lowercase name, isSome_ofProperty? name, fun hmember => ?_,
    fun hmember => ?_⟩
  · -- a name that addresses a column; the sample, whose columns all differ, tells which one
    rw [← isSome_ofProperty?] at hmember
    obtain ⟨member, hcolumn⟩ := Option.isSome_iff_exists.mp hmember
    have haddressed := isAddressedBy_of_ofProperty? hcolumn
    refine ⟨member, haddressed, fun other hother => ?_⟩
    rcases hother with htext | hother | hvalue
    · apply Column.eq_of_text_sample
      rw [← htext, haddressed.evaluated]
    · exact Option.some.inj (hother.symm.trans hcolumn)
    · -- the item of the sample has both values under the one name
      have hwritten := (haddressed.written _).mpr rfl Column.sample
      exact Column.eq_of_value_sample (Option.some.inj ((hvalue Column.sample).symm.trans hwritten))
  · rw [← isSome_ofProperty?] at hmember
    exact isLookedUp_of_ofProperty? (Option.not_isSome_iff_eq_none.mp (by simp [hmember]))

/-- The type in capital letters is the member that is a column; with a long s, the state is none. -/
theorem addressed_alike_long_s :
    Column.kind.IsAddressedBy "TYPE" ∧ IsLookedUp "\u017ftate" := by
  obtain ⟨-, -, hmember, -⟩ := addressed_alike "TYPE"
  obtain ⟨-, -, -, hlookedUp⟩ := addressed_alike "\u017ftate"
  obtain ⟨member, haddressed, honly⟩ := hmember (by decide)
  have hkind : Column.kind = member := honly .kind (.inr (.inl (by decide)))
  exact ⟨hkind ▸ haddressed, hlookedUp (by decide)⟩

end IncidentTracker
