import IncidentTracker.Proofs.Entity.Members
import IncidentTracker.Proofs.Relational.Agreement
import IncidentTracker.Proofs.Relational.WholeIncidents

/-!
# Attributes Looked Up

An evaluation finds an attribute under its exact name first, and under another name only if there is
none. The lookup in a query does not know the exact name: it takes the first of all attributes whose
names are equal to it up to the case of ASCII letters. The two differ where an attribute under the
exact name stands behind another one, and nowhere else.

Main statement: `Store.cell_attribute`.
-/

namespace IncidentTracker

open Filtering (Criterion Request)

/-- A name that is found exactly is found when case is ignored, if perhaps with another value. -/
theorem Dictionary.exists_getIgnoringCase? {β : Type} {d : Dictionary β} {name : String} {value : β}
    (h : d.get? name = some value) : ∃ first, d.getIgnoringCase? name = some first := by
  obtain ⟨entry, hentry, -⟩ := Option.map_eq_some_iff.mp h
  have hname : entry.1 = name := by simpa using List.find?_some hentry
  -- a name equals itself in any case, so something is found
  have hsome : (d.entries.find? fun entry => Text.sameIgnoringAsciiCase entry.1 name).isSome := by
    refine List.find?_isSome.mpr ⟨entry, List.mem_of_find?_eq_some hentry, ?_⟩
    rw [hname]
    exact Text.sameIgnoringAsciiCase_refl name
  obtain ⟨first, hfirst⟩ := Option.isSome_iff_exists.mp hsome
  exact ⟨first.2, by rw [getIgnoringCase?, hfirst, Option.map_some]⟩

namespace Relational

/-- The value of an attribute that is looked up is that of the property exactly if the attribute
    under the exact name, where there is one, has the value of the first that is found when case is
    ignored. -/
theorem getIgnoringCase?_eq_attribute?_iff {i : Incident} {name : String} :
    (i.attributes.getIgnoringCase? name).getD "" = (i.attribute? name).getD "" ↔
      ∀ value, i.attributes.get? name = some value →
        i.attributes.getIgnoringCase? name = some value := by
  rw [Incident.attribute?]
  cases hget : i.attributes.get? name with
  -- without an exact name both take the first that is found when case is ignored
  | none => simp
  | some value =>
    obtain ⟨first, hfirst⟩ := Dictionary.exists_getIgnoringCase? hget
    simp [hfirst]

/-- The semantics and the comparison choose an operator, but not what is read. -/
theorem Test.subject_ofCriterion (semantics : Filtering.Semantics) (c : Criterion) :
    (Test.ofCriterion semantics c).subject = Subject.ofProperty c.property := by
  obtain ⟨property, comparison, value⟩ := c
  cases semantics <;> cases comparison <;> rfl

/-- What the test of a criterion on an attribute reads of an incident that is stored, under either
    semantics: the value of the first attribute, in the order of the names, whose name is equal to
    the one that is asked for up to the case of ASCII letters, and without one the empty text. That
    is what the property stands for, unless there is an attribute under exactly this name and the
    first one is another with a different value. -/
theorem Store.cell_attribute {s : Store} (hs : s.Attainable) {row : Row}
    (hrow : row ∈ s.database.rows) (semantics : Filtering.Semantics) {c : Criterion}
    (hc : isMember Incident c.property = false) :
    let i := row.toIncident
    let read := (Test.ofCriterion semantics c).subject.cell row
    read = .text ((i.attributes.getIgnoringCase? c.property).getD "").toList ∧
      (read = .text (propertyValue i c.property).toList ↔
        ∀ value, i.attributes.get? c.property = some value →
          i.attributes.getIgnoringCase? c.property = some value) := by
  intro i read
  -- what is no well-known member has no column, so it is looked up among the attributes of the row
  have hcolumn : Column.ofProperty? c.property = none := by
    simpa [hc] using isSome_ofProperty? c.property
  have hentries : i.attributes.entries = row.attributes :=
    Database.entries_toIncident hs.inOrder.wellFormed hrow
  have hsubject : (Test.ofCriterion semantics c).subject = .attributeNamed c.property := by
    rw [Test.subject_ofCriterion, Subject.ofProperty, hcolumn]
  have hread : read = .text ((i.attributes.getIgnoringCase? c.property).getD "").toList := by
    show (Test.ofCriterion semantics c).subject.cell row = _
    rw [hsubject, Subject.cell, ← hentries, lookUp_eq_getIgnoringCase?]
  refine ⟨hread, ?_⟩
  rw [hread, propertyValue_eq, hcolumn, ← getIgnoringCase?_eq_attribute?_iff, Cell.text.injEq,
    String.toList_inj]

theorem Store.cell_attribute_other_case :
    let new : NewIncident := { attributes := .ofList [("TEAM", "Größe"), ("Zone", "")] }
    let c : Criterion := ⟨"team", .contains, "ö"⟩
    let row : Row := ⟨⟨1, "", "", "", ""⟩, new.attributes.entries⟩
    ((fresh .legacy true 0).add new).2.database.rows = [row] ∧
      (Test.ofCriterion .legacy c).subject.cell row = .text "Größe".toList ∧
      propertyValue row.toIncident "team" = "Größe" := by
  intro new c row
  have hs : ((fresh .legacy true 0).add new).2.Reachable := (Reachable.begun .legacy true 0).added new
  have hrows : ((fresh .legacy true 0).add new).2.database.rows = [row] := rfl
  have hrow : row ∈ ((fresh .legacy true 0).add new).2.database.rows :=
    hrows ▸ List.mem_singleton_self row
  obtain ⟨hread, hsame⟩ := cell_attribute hs.attainable hrow .legacy (c := c) (by decide +kernel)
  -- no attribute is spelled like the criterion, so the first in another case answers
  have habsent : row.toIncident.attributes.get? "team" = none := rfl
  have hproperty := hsame.mpr fun value hvalue => absurd (habsent.symm.trans hvalue) (by simp)
  have hfound : row.toIncident.attributes.getIgnoringCase? "team" = some "Größe" := rfl
  rw [hfound] at hread
  rw [hread, Cell.text.injEq, String.toList_inj] at hproperty
  exact ⟨hrows, hread, hproperty.symm⟩

/-- With two attributes whose names differ in case only, the query for the second one reads the
    first, and the list leaves out an incident that the filter accepts. -/
theorem Store.cell_attribute_shadowed :
    let new : NewIncident := { attributes := .ofList [("Team", "a"), ("team", "b")] }
    let c : Criterion := ⟨"team", .equals, "b"⟩
    let r : Request := ⟨.and, [.group .and [c]]⟩
    let s := ((fresh .consistent true 0).add new).2
    let row : Row := ⟨⟨1, "", "", "", ""⟩, new.attributes.entries⟩
    s.Reachable ∧ s.database.rows = [row] ∧
      (Test.ofCriterion .consistent c).subject.cell row = .text "a".toList ∧
      propertyValue row.toIncident "team" = "b" ∧
      r.accepts row.toIncident = true ∧ (s.list (some r)).1 = .ok [] := by
  intro new c r s row
  have hs : s.Reachable := (Reachable.begun .consistent true 0).added new
  exact ⟨hs, rfl, by decide +kernel, rfl, by decide +kernel, by decide +kernel⟩

end Relational

end IncidentTracker
