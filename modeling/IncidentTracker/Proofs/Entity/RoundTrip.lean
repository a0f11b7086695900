import IncidentTracker.Entity.Wire
import IncidentTracker.Proofs.Dictionary
import IncidentTracker.Proofs.Json.Reading

/-!
# Written Entities Read Back

Incidents, new incidents and users are read back from their written forms, compact or indented,
whatever their texts and attributes are. Only identifiers are limited, to those that fit a signed
word.

Main statement: `read_written_entities`.
-/

namespace IncidentTracker

open Json (Decode Value isSpaced memberDocuments)

variable {ν : Type}

/-! ## §1 Written values fit -/

theorem fits_attributesToJson (attributes : Attributes) :
    (attributesToJson attributes).fits = true := by
  have hmembers : ∀ entries : List (String × String),
      Json.allMembersFit (entries.map fun entry => (entry.1, .text entry.2)) = true := by
    intro entries
    induction entries with
    | nil => rfl
    | cons entry entries ih => rw [List.map_cons, Json.allMembersFit, ih, Value.fits, Bool.and_self]
  rw [attributesToJson, Value.fits, hmembers]

theorem Incident.fits_toJson (i : Incident) : i.toJson.fits = Text.Decimal.isWord i.id := by
  simp [toJson, Value.fits, Json.allMembersFit, fits_attributesToJson]

theorem NewIncident.fits_toJson (new : NewIncident) : new.toJson.fits = true := by
  simp [toJson, Value.fits, Json.allMembersFit, fits_attributesToJson]

theorem User.fits_toJson (u : User) : u.toJson.fits = Text.Decimal.isWord u.id := by
  simp [toJson, Value.fits, Json.allMembersFit]

/-! ## §2 Documents -/

/-- The entries of an object of texts are read back in their order. -/
theorem entries_memberDocuments (depth : Nat) (entries : List (String × String)) :
    (Json.entries Json.text depth
      (memberDocuments (entries.map fun entry => (entry.1, .text entry.2))) :
        Decode ν (List (String × String))) = pure entries := by
  induction entries with
  | nil => rfl
  | cons entry entries ih =>
    rw [Json.entries] at ih ⊢
    rw [List.map_cons, memberDocuments, List.mapM_cons, ih]
    simp

/-- Attributes take one container. -/
theorem readAttributes_toJson (depth : Nat) (attributes : Attributes) :
    (readAttributes (depth + 1) (attributesToJson attributes).document : Decode ν Attributes) =
      pure attributes := by
  rw [readAttributes, attributesToJson, Value.document, Json.mapOf, entries_memberDocuments]
  simp [Json.stopAt, Dictionary.ofList_entries]

theorem readIncident_toJson (depth : Nat) {i : Incident} (hword : Text.Decimal.isWord i.id = true) :
    (readIncident (depth + 2) i.toJson.document : Decode ν Incident) = pure i := by
  rw [Incident.toJson, readIncident, Json.Record.read_object]
  simp [memberDocuments, Json.Record.readMember, incidentRecord, kindField, idField, detailFields,
    textField, attributesField, readAttributes_toJson, Json.integer_document hword,
    Json.Record.finish, Json.Record.firstMissing, IncidentDraft.payload, NewIncident.withId]

theorem readNewIncident_toJson (depth : Nat) (new : NewIncident) :
    (readNewIncident (depth + 2) new.toJson.document : Decode ν NewIncident) = pure new := by
  rw [NewIncident.toJson, readNewIncident, Json.Record.read_object]
  simp [memberDocuments, Json.Record.readMember, newIncidentRecord, kindField, detailFields,
    textField, attributesField, readAttributes_toJson, Json.Record.finish,
    Json.Record.firstMissing, IncidentDraft.payload]

theorem readUser_toJson (depth : Nat) {u : User} (hword : Text.Decimal.isWord u.id = true) :
    (readUser (depth + 1) u.toJson.document : Decode ν User) = pure u := by
  rw [User.toJson, readUser, Json.Record.read_object]
  simp [memberDocuments, Json.Record.readMember, userRecord, idField, textField,
    Json.integer_document hword, Json.Record.finish, Json.Record.firstMissing]

/-! ## §3 Texts -/

/-- An incident is read back from any text that has the tokens of its written form. -/
theorem Incident.read_of_isSpaced {i : Incident} (hword : Text.Decimal.isWord i.id = true)
    {text : List Char} (hspaced : isSpaced i.toJson.phrase.tokens text = true) :
    (Json.read readIncident text : Json.Reading ν Incident) = ⟨[], .ok i⟩ :=
  Json.read_of_isSpaced (i.fits_toJson.trans hword) hspaced readIncident
    (readIncident_toJson 125 hword)

theorem NewIncident.read_of_isSpaced {new : NewIncident} {text : List Char}
    (hspaced : isSpaced new.toJson.phrase.tokens text = true) :
    (Json.read readNewIncident text : Json.Reading ν NewIncident) = ⟨[], .ok new⟩ :=
  Json.read_of_isSpaced new.fits_toJson hspaced readNewIncident (readNewIncident_toJson 125 new)

theorem User.read_of_isSpaced {u : User} (hword : Text.Decimal.isWord u.id = true)
    {text : List Char} (hspaced : isSpaced u.toJson.phrase.tokens text = true) :
    (Json.read readUser text : Json.Reading ν User) = ⟨[], .ok u⟩ :=
  Json.read_of_isSpaced (u.fits_toJson.trans hword) hspaced readUser (readUser_toJson 126 hword)

/-- A list of incidents is read back from any text that has the tokens of its written form. -/
theorem readIncidents_of_isSpaced {incidents : List Incident}
    (hwords : ∀ i ∈ incidents, Text.Decimal.isWord i.id = true) {text : List Char}
    (hspaced : isSpaced (Value.list (incidents.map Incident.toJson)).phrase.tokens text = true) :
    (Json.read (Json.listOf readIncident) text : Json.Reading ν (List Incident)) =
      ⟨[], .ok incidents⟩ := by
  have hfits : (Value.list (incidents.map Incident.toJson)).fits = true := by
    rw [Value.fits]
    clear hspaced
    induction incidents with
    | nil => rfl
    | cons i incidents ih =>
      rw [List.map_cons, Json.allFit, i.fits_toJson, hwords i List.mem_cons_self,
        ih fun other hmem => hwords other (List.mem_cons_of_mem i hmem)]
      rfl
  -- the list is one of the containers that may be nested
  refine Json.read_of_isSpaced hfits hspaced (Json.listOf readIncident) ?_
  rw [Json.nestingLimit, Json.listOf_succ]
  exact Json.mapM_documents_eq_pure fun i hmem => readIncident_toJson 124 (hwords i hmem)

/-- Incidents, new incidents and users are read back from both of their written forms. -/
theorem read_written_entities :
    (∀ i : Incident, Text.Decimal.isWord i.id = true →
      (Json.read readIncident i.toJson.compact.toList : Json.Reading ν Incident) = ⟨[], .ok i⟩ ∧
      (Json.read readIncident i.toJson.pretty.toList : Json.Reading ν Incident) = ⟨[], .ok i⟩) ∧
    (∀ new : NewIncident,
      (Json.read readNewIncident new.toJson.compact.toList : Json.Reading ν NewIncident) =
        ⟨[], .ok new⟩ ∧
      (Json.read readNewIncident new.toJson.pretty.toList : Json.Reading ν NewIncident) =
        ⟨[], .ok new⟩) ∧
    ∀ u : User, Text.Decimal.isWord u.id = true →
      (Json.read readUser u.toJson.compact.toList : Json.Reading ν User) = ⟨[], .ok u⟩ ∧
      (Json.read readUser u.toJson.pretty.toList : Json.Reading ν User) = ⟨[], .ok u⟩ := by
  -- both written forms are spacings of the same tokens
  refine ⟨fun i hword => ?_, fun new => ?_, fun u hword => ?_⟩
  · exact ⟨Incident.read_of_isSpaced hword (Json.isSpaced_compact _),
      Incident.read_of_isSpaced hword (Json.isSpaced_pretty _)⟩
  · exact ⟨NewIncident.read_of_isSpaced (Json.isSpaced_compact _),
      NewIncident.read_of_isSpaced (Json.isSpaced_pretty _)⟩
  · exact ⟨User.read_of_isSpaced hword (Json.isSpaced_compact _),
      User.read_of_isSpaced hword (Json.isSpaced_pretty _)⟩

/-- The smallest identifier, and texts with everything that has to be escaped. -/
theorem read_written_entities_smallest :
    let i : Incident :=
      { kind := "\u0000\"\\", id := -9223372036854775808, description := "\x7f\u2028\n\t",
        attributes := .ofList [("", "😀"), ("\\u0061", ""), ("a", "\u0001/")] }
    let u : User := { userName := "\r\u0008\u000c", id := 9223372036854775807 }
    (Json.read readIncident i.toJson.pretty.toList : Json.Reading Empty Incident) = ⟨[], .ok i⟩ ∧
      (Json.read readUser u.toJson.compact.toList : Json.Reading Empty User) = ⟨[], .ok u⟩ := by
  intro i u
  obtain ⟨hincidents, -, husers⟩ := read_written_entities (ν := Empty)
  exact ⟨(hincidents i (by decide)).2, (husers u (by decide)).1⟩

end IncidentTracker
