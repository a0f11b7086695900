import IncidentTracker.Proofs.WideColumn.Traffic
import Mathlib.Data.List.Perm.Basic

/-!
# Other Spellings of an Item

The items of a table need not be spelled as they are written today. An empty text may be null or
missing, a text may be a number of the same digits, the attributes may be null or missing where there
are none, and there may be entries that no incident has. Each of these is chosen apart from the
others, at every text and every attribute. All spellings of the item of an incident are read as that
incident. An item is read if nothing is wrong with it, and else it is an error that says what is
wrong.

Main statement: `Item.toIncident_spellings`.
-/

namespace IncidentTracker.WideColumn

/-! ## §1 Spellings -/

/-- A value that was found spells the text that was written. -/
inductive Value.Respells : Value → Value → Prop
  | text (s : String) : Respells (.text s) (.text s)
  | number (s : String) : Respells (.number s) (.text s)
  | null (b : Bool) : Respells (.null b) (.text "")

/-- What was found in the place of a text spells it: a missing text is an empty one. -/
inductive RespellsText : Option Value → Value → Prop
  | found {value written : Value} (respells : value.Respells written) :
      RespellsText (some value) written
  | missing : RespellsText none (.text "")

/-- What was found in the place of a map of attributes spells it, entry by entry in any order: a
    null or missing map is an empty one. -/
inductive RespellsMap : Option Value → Value → Prop
  | found {entries reordered written : List (String × Value)}
      (respells : List.Forall₂ (fun e w => e.1 = w.1 ∧ e.2.Respells w.2) entries reordered)
      (perm : reordered.Perm written) : RespellsMap (some (.map entries)) (.map written)
  | null (b : Bool) : RespellsMap (some (.null b)) (.map [])
  | missing : RespellsMap none (.map [])

/-- The names of the texts in an item. -/
def textNames : List String :=
  ["type", "description", "reporter", "state"]

/-- An item spells another one, in what is read of it. Nothing is asked of entries under other
    names. -/
structure Item.Respells (item written : Item) : Prop where
  id : item.get? "id" = written.get? "id"
  texts : ∀ name ∈ textNames, ∃ value, written.get? name = some value ∧
    RespellsText (item.get? name) value
  attributes : ∃ value, written.get? "attributes" = some value ∧
    RespellsMap (item.get? "attributes") value

/-! ## §2 Faults -/

/-- Whether a value spells some text. -/
def Value.isTextual : Value → Bool
  | .text _ | .number _ | .null _ => true
  | _ => false

/-- What is wrong with an item. -/
inductive Item.HasFault (item : Item) : ItemError → Prop
  | idMissing (missing : item.get? "id" = none) : HasFault item .idMissing
  | idNotNumber {value : Value} (found : item.get? "id" = some value)
      (other : ∀ digits, value ≠ .number digits) : HasFault item .idNotNumber
  | idNotInteger {digits : String} (found : item.get? "id" = some (.number digits))
      (unread : Text.Decimal.toWord? digits.toList = none) : HasFault item (.idNotInteger digits)
  | notText {name : String} {value : Value} (mem : name ∈ textNames)
      (found : item.get? name = some value) (other : value.isTextual = false) :
      HasFault item (.notText name)
  | attributeNotText {entries : List (String × Value)} {name : String} {value : Value}
      (found : item.get? "attributes" = some (.map entries)) (mem : (name, value) ∈ entries)
      (other : value.isTextual = false) : HasFault item (.notText name)
  | attributesNotMap {value : Value} (found : item.get? "attributes" = some value)
      (other : ∀ entries, value ≠ .map entries) (notNull : ∀ b, value ≠ .null b) :
      HasFault item .attributesNotMap

/-! ## §3 Texts -/

theorem readText_of_respells (name : String) {found : Option Value} {s : String}
    (h : RespellsText found (.text s)) : readText name found = .ok s := by
  cases h with
  | missing => rfl
  | found respells => cases respells <;> rfl

/-- Only a value that spells no text is not read. -/
theorem readText_eq_error_iff {name : String} {found : Option Value} {e : ItemError} :
    readText name found = .error e ↔
      .notText name = e ∧ ∃ value, found = some value ∧ value.isTextual = false := by
  cases found with
  | none => simp [readText]
  | some value => cases value <;> simp [readText, Value.isTextual]

/-! ## §4 Attributes -/

/-- An attribute as it is written. -/
def textEntry (entry : String × String) : String × Value :=
  (entry.1, .text entry.2)

theorem textEntry_injective : Function.Injective textEntry := by
  rintro ⟨name, s⟩ ⟨other, t⟩ h
  simpa [textEntry] using h

/-- Entries that spell those of a map are read as the texts that these have. -/
theorem readTexts_of_respells {entries written : List (String × Value)}
    (h : List.Forall₂ (fun e w => e.1 = w.1 ∧ e.2.Respells w.2) entries written) :
    ∃ texts : List (String × String), written = texts.map textEntry ∧
      readTexts entries = .ok texts := by
  induction h with
  | nil => exact ⟨[], rfl, rfl⟩
  | @cons entry other entries written hfirst _ ih =>
    obtain ⟨name, value⟩ := entry
    obtain ⟨_, text⟩ := other
    obtain ⟨rfl, hrespells⟩ := hfirst
    obtain ⟨texts, rfl, hread⟩ := ih
    -- only texts are spelled
    obtain ⟨s, rfl⟩ : ∃ s, text = .text s := by
      cases hrespells <;> exact ⟨_, rfl⟩
    refine ⟨(name, s) :: texts, rfl, ?_⟩
    rw [readTexts, readText_of_respells name (.found hrespells), hread]
    rfl

/-- The texts of some entries are read if all entries spell one, and else the error tells the name of
    one that does not. -/
theorem readTexts_cases (entries : List (String × Value)) :
    (∃ texts, readTexts entries = .ok texts ∧ ∀ entry ∈ entries, entry.2.isTextual = true) ∨
      ∃ entry ∈ entries, entry.2.isTextual = false ∧
        readTexts entries = .error (.notText entry.1) := by
  induction entries with
  | nil => exact .inl ⟨[], rfl, nofun⟩
  | cons entry entries ih =>
    obtain ⟨name, value⟩ := entry
    -- the first entry is read or told of, and only if it is read are the others looked at
    cases hread : readText name (some value) with
    | error e =>
      obtain ⟨rfl, _, ⟨rfl⟩, hother⟩ := readText_eq_error_iff.mp hread
      refine .inr ⟨(name, value), List.mem_cons_self, hother, ?_⟩
      rw [readTexts, hread]
      rfl
    | ok s =>
      rcases ih with ⟨texts, hrest, hall⟩ | ⟨other, hmem, hother, hrest⟩
      · refine .inl ⟨(name, s) :: texts, ?_, List.forall_mem_cons.mpr ⟨?_, hall⟩⟩
        · rw [readTexts, hread, hrest]
          rfl
        · cases value <;> first | rfl | cases hread
      · refine .inr ⟨other, List.mem_cons_of_mem _ hmem, hother, ?_⟩
        rw [readTexts, hread, hrest]
        rfl

/-- Any spelling of a map of attributes is read as the attributes. -/
theorem readAttributeMap_of_respells {found : Option Value} {attributes : Attributes}
    (h : RespellsMap found (attributesValue attributes)) :
    readAttributeMap found = .ok attributes := by
  have hwritten : attributesValue attributes = .map (attributes.entries.map textEntry) := rfl
  rw [hwritten] at h
  generalize hmap : attributes.entries.map textEntry = written at h
  cases h with
  | found respells perm =>
    obtain ⟨texts, rfl, hread⟩ := readTexts_of_respells respells
    -- in another order they are the same attributes
    have hperm : texts.Perm attributes.entries :=
      (List.map_perm_map_iff textEntry_injective).mp (hmap ▸ perm)
    rw [readAttributeMap, hread]
    exact congrArg Except.ok (Dictionary.ofList_of_perm hperm)
  | null b =>
    have hempty : attributes = .empty := Dictionary.ext (List.map_eq_nil_iff.mp hmap)
    rw [hempty]
    rfl
  | missing =>
    have hempty : attributes = .empty := Dictionary.ext (List.map_eq_nil_iff.mp hmap)
    rw [hempty]
    rfl

/-- A map of attributes that is not read is no map, or has an entry that is no text. -/
theorem hasFault_of_readAttributeMap {item : Item} {e : ItemError}
    (h : readAttributeMap (item.get? "attributes") = .error e) : item.HasFault e := by
  unfold readAttributeMap at h
  split at h
  · cases h
  · cases h
  · next entries hfound =>
    -- a map fails at its first entry that is no text
    rcases readTexts_cases entries with ⟨texts, hread, -⟩ | ⟨entry, hmem, hother, hread⟩
    · rw [hread] at h
      cases h
    · rw [hread] at h
      cases h
      exact .attributeNotText hfound hmem hother
  · next value hnull hmap hfound =>
    cases h
    exact .attributesNotMap hfound hmap hnull

/-! ## §5 Items -/

namespace Item

/-- An incident is read of an item if each of its members is. -/
theorem toIncident_eq_ok_iff {item : Item} {i : Incident} :
    item.toIncident = .ok i ↔
      readAttributeMap (item.get? "attributes") = .ok i.attributes ∧ item.id = .ok i.id ∧
        item.text "type" = .ok i.kind ∧ item.text "description" = .ok i.description ∧
        item.text "reporter" = .ok i.reporter ∧ item.text "state" = .ok i.state := by
  constructor
  · intro h
    simp only [toIncident, bind, Except.bind] at h
    repeat' split at h
    -- where a member is an error, there is no incident
    all_goals cases h
    refine ⟨?_, ?_, ?_, ?_, ?_, ?_⟩ <;> assumption
  · rintro ⟨hattributes, hid, hkind, hdescription, hreporter, hstate⟩
    rw [toIncident, hattributes, hid, hkind, hdescription, hreporter, hstate]
    rfl

/-- An item that is not read has a member that is not. -/
theorem toIncident_eq_error {item : Item} {e : ItemError} (h : item.toIncident = .error e) :
    readAttributeMap (item.get? "attributes") = .error e ∨ item.id = .error e ∨
      ∃ name ∈ textNames, item.text name = .error e := by
  simp only [toIncident, bind, Except.bind] at h
  repeat' split at h
  -- the first member that is not read is the one that is told of
  all_goals cases h
  all_goals simp_all [textNames]

/-- An item that is not read has the fault that it is told to have. -/
theorem hasFault_of_toIncident {item : Item} {e : ItemError} (h : item.toIncident = .error e) :
    item.HasFault e := by
  -- the attributes, the number or one of the texts; the reading stops at the first of them
  rcases toIncident_eq_error h with hattributes | hid | ⟨name, hname, htext⟩
  · exact hasFault_of_readAttributeMap hattributes
  · unfold id at hid
    split at hid
    · next digits hfound =>
      cases hread : Text.Decimal.toWord? digits.toList with
      | some n => rw [hread] at hid; cases hid
      | none =>
        rw [hread] at hid
        cases hid
        exact .idNotInteger hfound hread
    · next value hnumber hfound =>
      cases hid
      exact .idNotNumber hfound hnumber
    · next hfound =>
      cases hid
      exact .idMissing hfound
  · obtain ⟨rfl, value, hfound, hother⟩ := readText_eq_error_iff.mp htext
    exact .notText hname hfound hother

/-- Nothing is wrong with an item that is read. -/
theorem not_hasFault_of_toIncident {item : Item} {i : Incident} (h : item.toIncident = .ok i)
    (e : ItemError) : ¬item.HasFault e := by
  obtain ⟨hattributes, hid, hkind, hdescription, hreporter, hstate⟩ := toIncident_eq_ok_iff.mp h
  intro hfault
  cases hfault with
  | idMissing missing => rw [id, missing] at hid; cases hid
  | @idNotNumber value found other =>
    rw [id, found] at hid
    cases value with
    | number digits => exact other digits rfl
    | _ => cases hid
  | idNotInteger found unread =>
    rw [id, found] at hid
    simp [unread] at hid
  | @notText name value mem found other =>
    have herror : item.text name = .error (.notText name) :=
      readText_eq_error_iff.mpr ⟨rfl, value, found, other⟩
    -- each of the texts was read
    simp only [textNames, List.mem_cons, List.not_mem_nil, or_false] at mem
    rcases mem with rfl | rfl | rfl | rfl <;> simp_all
  | @attributeNotText entries name value found mem other =>
    rw [found, readAttributeMap] at hattributes
    rcases readTexts_cases entries with ⟨texts, -, hall⟩ | ⟨entry, -, -, hread⟩
    · have htextual := hall (name, value) mem
      rw [other] at htextual
      cases htextual
    · rw [hread] at hattributes
      cases hattributes
  | @attributesNotMap value found other notNull =>
    rw [found] at hattributes
    cases value with
    | map entries => exact other entries rfl
    | null b => exact notNull b rfl
    | _ => cases hattributes

theorem ne_id_of_mem {name : String} (h : name ∈ textNames) : name ≠ "id" := by
  rintro rfl
  simp [textNames] at h

/-- A text is read from any spelling of the item of an incident. -/
theorem text_of_respells {item : Item} {i : Incident} (h : item.Respells (ofIncident i))
    {name : String} {member : Incident → String}
    (hmember : (name, member) ∈ (HasProperties.members : List (String × (Incident → String))))
    (hname : name ∈ textNames) : item.text name = .ok (member i) := by
  obtain ⟨value, hvalue, hrespells⟩ := h.texts name hname
  rw [get?_text_ofIncident i hmember (ne_id_of_mem hname)] at hvalue
  cases hvalue
  exact readText_of_respells name hrespells

/-- Any spelling of the item of an incident is read as the incident. -/
theorem toIncident_of_respells {item : Item} {i : Incident}
    (hword : Text.Decimal.isWord i.id = true) (h : item.Respells (ofIncident i)) :
    item.toIncident = .ok i := by
  obtain ⟨value, hvalue, hrespells⟩ := h.attributes
  rw [get?_attributes_ofIncident] at hvalue
  cases hvalue
  -- the number is never spelled in another way
  have hid : item.id = (ofIncident i).id := by rw [id, id, h.id]
  rw [id_ofIncident, if_pos hword] at hid
  apply toIncident_eq_ok_iff.mpr
  refine ⟨readAttributeMap_of_respells hrespells, hid, ?_, ?_, ?_, ?_⟩
  · exact text_of_respells h (.tail _ (.head _)) (by simp [textNames])
  · exact text_of_respells h (.tail _ (.tail _ (.head _))) (by simp [textNames])
  · exact text_of_respells h (.tail _ (.tail _ (.tail _ (.head _)))) (by simp [textNames])
  · exact text_of_respells h (.tail _ (.tail _ (.tail _ (.tail _ (.head _))))) (by simp [textNames])

/-- What spells the members of an incident, each for itself, spells its item. -/
theorem respells_of_members {item : Item} {i : Incident}
    (hid : item.get? "id" = some (.number (idText i.id)))
    (hkind : RespellsText (item.get? "type") (.text i.kind))
    (hdescription : RespellsText (item.get? "description") (.text i.description))
    (hreporter : RespellsText (item.get? "reporter") (.text i.reporter))
    (hstate : RespellsText (item.get? "state") (.text i.state))
    (hattributes : RespellsMap (item.get? "attributes") (attributesValue i.attributes)) :
    item.Respells (ofIncident i) where
  id := hid.trans (get?_id_ofIncident i).symm
  -- the four texts are the members but the number
  texts name hname := by
    have hid := ne_id_of_mem hname
    simp only [textNames, List.mem_cons, List.not_mem_nil, or_false] at hname
    rcases hname with rfl | rfl | rfl | rfl
    · exact ⟨_, get?_text_ofIncident i (.tail _ (.head _)) hid, hkind⟩
    · exact ⟨_, get?_text_ofIncident i (.tail _ (.tail _ (.head _))) hid, hdescription⟩
    · exact ⟨_, get?_text_ofIncident i (.tail _ (.tail _ (.tail _ (.head _)))) hid, hreporter⟩
    · exact ⟨_, get?_text_ofIncident i (.tail _ (.tail _ (.tail _ (.tail _ (.head _))))) hid, hstate⟩
  attributes := ⟨_, get?_attributes_ofIncident i, hattributes⟩

/-- The item of an incident is one of its spellings. -/
theorem respells_ofIncident (i : Incident) : (ofIncident i).Respells (ofIncident i) := by
  -- the item as written, entry by entry
  have hsame : List.Forall₂ (fun e w : String × Value => e.1 = w.1 ∧ e.2.Respells w.2)
      (i.attributes.entries.map textEntry) (i.attributes.entries.map textEntry) := by
    rw [List.forall₂_map_left_iff, List.forall₂_map_right_iff, List.forall₂_same]
    exact fun entry _ => ⟨rfl, .text entry.2⟩
  have htext {name : String} {member : Incident → String}
      (hmember : (name, member) ∈ (HasProperties.members : List (String × (Incident → String))))
      (hid : name ≠ "id") : RespellsText ((ofIncident i).get? name) (.text (member i)) := by
    rw [get?_text_ofIncident i hmember hid]
    exact .found (.text (member i))
  apply respells_of_members (get?_id_ofIncident i)
  · exact htext (.tail _ (.head _)) (by decide)
  · exact htext (.tail _ (.tail _ (.head _))) (by decide)
  · exact htext (.tail _ (.tail _ (.tail _ (.head _)))) (by decide)
  · exact htext (.tail _ (.tail _ (.tail _ (.tail _ (.head _))))) (by decide)
  · rw [get?_attributes_ofIncident]
    exact .found hsame (.refl _)

/-- Every spelling of the item of an incident is read as the incident, its own item among them. An
    item is read exactly if nothing is wrong with it; else the error tells one of its faults. -/
theorem toIncident_spellings :
    (∀ i : Incident, Text.Decimal.isWord i.id = true →
      (ofIncident i).toIncident = .ok i ∧
      ∀ item : Item, item.Respells (ofIncident i) → item.toIncident = .ok i) ∧
    ∀ item : Item,
      ((∃ i, item.toIncident = .ok i) ↔ ∀ e, ¬item.HasFault e) ∧
      ∀ e, item.HasFault e → ∃ told, item.HasFault told ∧
        item.toIncident.mapError ItemError.toStoreError = .error (.invalidItem told.message) := by
  -- sound items read, faulty ones fail, and what is reported is one of the faults
  refine ⟨fun i hword => ⟨?_, fun item h => ?_⟩, fun item => ⟨⟨?_, fun hsound => ?_⟩, fun e he => ?_⟩⟩
  · exact toIncident_of_respells hword (respells_ofIncident i)
  · exact toIncident_of_respells hword h
  · rintro ⟨i, hread⟩
    exact not_hasFault_of_toIncident hread
  · cases hread : item.toIncident with
    | ok i => exact ⟨i, rfl⟩
    | error e => exact absurd (hasFault_of_toIncident hread) (hsound e)
  · cases hread : item.toIncident with
    | ok i => exact absurd he (not_hasFault_of_toIncident hread e)
    | error told => exact ⟨told, hasFault_of_toIncident hread, rfl⟩

/-- An item with a number for a text, a null text, a missing one, attributes in another order that
    are spelled otherwise and an entry of no meaning. It is not read any more when its identifier
    gets a fraction. -/
theorem toIncident_spellings_old :
    let i : Incident :=
      { kind := "7", id := 4, state := "Open",
        attributes := .ofList [("Impact", ""), ("Severity", "3")] }
    let item : Item := .ofList [("type", .number "7"), ("id", .number "4"),
      ("description", .null true), ("state", .text "Open"),
      ("attributes", .map [("Severity", .number "3"), ("Impact", .null true)]),
      ("seen", .boolean true)]
    let broken : Item := item.insert "id" (.number "1.5")
    item.toIncident = .ok i ∧
      ∃ told, broken.HasFault told ∧
        broken.toIncident.mapError ItemError.toStoreError = .error (.invalidItem told.message) := by
  intro i item broken
  have hfound : item.get? "id" = some (.number "4") ∧ item.get? "type" = some (.number "7") ∧
      item.get? "description" = some (.null true) ∧ item.get? "reporter" = none ∧
      item.get? "state" = some (.text "Open") ∧
      item.get? "attributes" = some (.map [("Severity", .number "3"), ("Impact", .null true)]) := by
    simp [item, Dictionary.ofList, Dictionary.get?_insert]
  obtain ⟨hid, hkind, hdescription, hreporter, hstate, hattributes⟩ := hfound
  -- a number for a text and a null for an empty one
  have hsame : List.Forall₂ (fun e w : String × Value => e.1 = w.1 ∧ e.2.Respells w.2)
      [("Severity", .number "3"), ("Impact", .null true)]
      [("Severity", .text "3"), ("Impact", .text "")] :=
    .cons ⟨rfl, .number "3"⟩ (.cons ⟨rfl, .null true⟩ .nil)
  have hrespells : item.Respells (ofIncident i) := by
    refine respells_of_members hid ?_ ?_ ?_ ?_ ?_
    · rw [hkind]
      exact .found (.number "7")
    · rw [hdescription]
      exact .found (.null true)
    · rw [hreporter]
      exact .missing
    · rw [hstate]
      exact .found (.text "Open")
    · rw [hattributes]
      exact .found hsame (.swap _ _ [])
  -- the digits have a point, so no integer is read from them
  have hfault : broken.HasFault (.idNotInteger "1.5") := by
    refine .idNotInteger ?_ ?_
    · simp [broken, Dictionary.get?_insert]
    · decide
  obtain ⟨hreads, hfaults⟩ := toIncident_spellings
  exact ⟨(hreads i rfl).2 item hrespells, (hfaults broken).2 _ hfault⟩

end Item

end IncidentTracker.WideColumn
