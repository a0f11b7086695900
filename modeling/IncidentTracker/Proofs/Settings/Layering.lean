import IncidentTracker.Proofs.Filtering.Spelling
import IncidentTracker.Proofs.Json.OpenRecord
import IncidentTracker.Proofs.Json.Recognition
import IncidentTracker.Settings.Load

/-!
# Layered Settings

What a settings file says stands at certain places of its text, and null says nothing. Members that
are unknown there can be added or left out: of them only the warning says anything.

Main statement: `loadSettings_layered`.
-/

namespace IncidentTracker

open Filtering (Semantics plainly)
open Json (Decode Decoder Ensures Phrase Record Yields isSpaced textOf)

/-! ## §1 What a settings file says -/

/-- The text of a phrase that is one. -/
def textIn : Phrase → Option String
  | .text pieces => textOf pieces
  | _ => none

/-- The choice that a phrase names, alone or as the only key of an object, with null. -/
def choiceIn {α : Type} (choices : List (String × α)) : Phrase → Option α
  | .text pieces => (textOf pieces).bind fun name =>
    (choices.find? fun choice => choice.1 == name).map (·.2)
  | .object [(pieces, .null)] => (textOf pieces).bind fun name =>
    (choices.find? fun choice => choice.1 == name).map (·.2)
  | _ => none

/-- What a settings file says, with the members that it has at its top: the choices and texts that
    stand at their places, and nothing where there is no such place, or null. -/
def layerSaid (find : String → Option Phrase) : Layer :=
  let storage (name : String) : Option Phrase :=
    (find "storage").bind fun φ => φ.member? ["backend", "sqlite", "dynamodb"] name
  let database (name : String) : Option Phrase :=
    (storage "sqlite").bind fun φ => φ.member? ["path"] name
  let service (name : String) : Option Phrase :=
    (storage "dynamodb").bind fun φ => φ.member? ["region", "incident_table", "endpoint"] name
  let filters (name : String) : Option Phrase :=
    (find "filters").bind fun φ => φ.member? ["semantics"] name
  { backend := (storage "backend").bind (choiceIn Backend.choices)
    databasePath := (database "path").bind textIn
    region := (service "region").bind textIn
    table := (service "incident_table").bind textIn
    endpoint := (service "endpoint").bind textIn
    semantics := (filters "semantics").bind (choiceIn Semantics.choices) }

/-! ## §2 Drafts -/

section

variable {σ α : Type}

/-- A record that may be null. -/
def recordIn (make : (String → Option Phrase) → σ) (names : List String) : Phrase → Option σ
  | .null => none
  | φ => some (make (φ.member? names))

def databaseOf (find : String → Option Phrase) : DatabaseDraft :=
  ⟨(find "path").map textIn⟩

def serviceOf (find : String → Option Phrase) : ServiceDraft :=
  ⟨(find "region").map textIn, (find "incident_table").map textIn, (find "endpoint").map textIn⟩

def storageOf (find : String → Option Phrase) : StorageDraft :=
  ⟨(find "backend").map (choiceIn Backend.choices),
    (find "sqlite").map (recordIn databaseOf ["path"]),
    (find "dynamodb").map (recordIn serviceOf ["region", "incident_table", "endpoint"])⟩

def filtersOf (find : String → Option Phrase) : FiltersDraft :=
  ⟨(find "semantics").map (choiceIn Semantics.choices)⟩

def fileOf (find : String → Option Phrase) : FileDraft :=
  ⟨(find "storage").map (recordIn storageOf ["backend", "sqlite", "dynamodb"]),
    (find "filters").map (recordIn filtersOf ["semantics"])⟩

/-- A field that may be null is set to the value of its phrase, where null has none. -/
theorem yields_set_optional {item : Decoder Empty α} {set : Option α → σ → σ}
    {value : Phrase → Option α} {depth : Nat} {φ : Phrase} {draft draft' : σ}
    (hnull : value .null = none)
    (hitem : Yields (item depth φ.document) fun a => value φ = some a)
    (hset : set (value φ) draft = draft') :
    Yields (set <$> Json.optional item depth φ.document) fun f => f draft = draft' := by
  apply Yields.map
  intro notices a notices' ha
  rw [← hset]
  congr 1
  -- null sets no value; every other value is read as the item
  cases φ with
  | null =>
    rw [Phrase.document] at ha
    cases ha
    exact hnull.symm
  | _ =>
    rw [Phrase.document] at ha hitem
    obtain ⟨b, hb, rfl⟩ := Json.map_eq_ok_iff.mp ha
    exact (hitem notices b notices' hb).symm

theorem yields_text (expected : String) (depth : Nat) (φ : Phrase) :
    Yields (Json.textAs expected depth φ.document : Decode Empty String) fun s =>
      textIn φ = some s := by
  intro notices s notices' hread
  have htext : Ensures (Json.textAs expected depth φ.document : Decode Empty String) fun s _ =>
      textIn φ = some s := by
    apply Ensures.textAs
    rintro pieces s rfl hs
    exact hs
  obtain ⟨_, -, hs⟩ := htext notices s notices' hread
  exact hs

theorem yields_choose (choices : List (String × α)) (name : String) :
    Yields (Json.choose choices name : Decode Empty α) fun a =>
      (choices.find? fun choice => choice.1 == name).map (·.2) = some a := by
  intro notices a notices' hchoose
  rw [Json.choose] at hchoose
  -- a word that is none of the choices is refused
  cases hfind : choices.find? fun choice => choice.1 == name with
  | none =>
    rw [hfind] at hchoose
    cases hchoose
  | some choice =>
    rw [hfind] at hchoose
    cases hchoose
    rfl

/-- Of the values of an object only null is read as nothing. -/
theorem eq_null_of_unit {depth : Nat} {φ : Phrase} {notices notices' : List Empty}
    (h : Json.unit depth φ.document notices = .ok () notices') : φ = .null := by
  cases φ with
  | null => rfl
  | _ =>
    rw [Phrase.document] at h
    cases h

theorem yields_choice (choices : List (String × α)) (depth : Nat) (φ : Phrase) :
    Yields (Json.choice choices depth φ.document : Decode Empty α) fun a =>
      choiceIn choices φ = some a := by
  intro notices a notices' hread
  -- a choice is spelled as its name or as an object whose one member is null
  cases φ with
  | text pieces =>
    rw [Phrase.document, Json.Document.ofPieces, Json.textContent] at hread
    rw [choiceIn]
    cases htext : textOf pieces with
    | none =>
      rw [htext] at hread
      cases hread
    | some name =>
      rw [htext] at hread
      exact yields_choose choices name notices a notices' hread
  | object members =>
    cases members with
    | nil =>
      rw [Phrase.document, Json.phraseMembers] at hread
      cases depth <;> cases hread
    | cons member more =>
      obtain ⟨pieces, value⟩ := member
      rw [Phrase.document, Json.phraseMembers] at hread
      cases depth with
      | zero => cases hread
      | succ depth =>
        rw [Json.choice] at hread
        -- the key, the choice it names, the null behind it and the end of the object, in turn
        obtain ⟨name, _, hkey, hnamed⟩ := Json.bind_eq_ok_iff.mp hread
        obtain ⟨hname, rfl⟩ := Json.key_eq_ok_iff.mp hkey
        obtain ⟨chosen, _, hchosen, hvalue⟩ := Json.bind_eq_ok_iff.mp hnamed
        obtain ⟨_, _, hunit, hend⟩ := Json.bind_eq_ok_iff.mp hvalue
        obtain rfl := eq_null_of_unit hunit
        -- a second member is refused
        cases more with
        | cons next more => cases hend
        | nil =>
          cases hend
          rw [choiceIn, hname]
          exact yields_choose choices name _ _ _ hchosen
  | _ =>
    rw [Phrase.document] at hread
    cases hread

theorem madeOf_databaseRecord : databaseRecord.MadeOf databaseOf := by
  refine ⟨⟨by decide, by simp [databaseRecord, openField], ?_⟩, rfl, ?_, ?_⟩
  · simp only [databaseRecord, openField, List.forall_mem_singleton]
    exact fun _ _ => Yields.map (by simp [Yields])
  · intro find find' h
    rw [databaseOf, databaseOf, h "path" (by decide)]
  · simp only [databaseRecord, openField, List.forall_mem_singleton]
    intro find _ depth φ
    exact yields_set_optional rfl (yields_text _ depth φ) (by simp [databaseOf])

theorem madeOf_serviceRecord : serviceRecord.MadeOf serviceOf := by
  refine ⟨⟨by decide, by simp [serviceRecord, openField], ?_⟩, rfl, ?_, ?_⟩
  · simp only [serviceRecord, openField, List.forall_mem_cons]
    refine ⟨fun _ _ => ?_, fun _ _ => ?_, fun _ _ => ?_, List.forall_mem_nil _⟩
    all_goals exact Yields.map (by simp [Yields])
  · intro find find' h
    rw [serviceOf, serviceOf, h "region" (by decide), h "incident_table" (by decide),
      h "endpoint" (by decide)]
  · simp only [serviceRecord, openField, List.forall_mem_cons]
    refine ⟨fun find _ depth φ => ?_, fun find _ depth φ => ?_, fun find _ depth φ => ?_,
      List.forall_mem_nil _⟩
    -- all three fields are texts that may be absent or null
    all_goals exact yields_set_optional rfl (yields_text _ depth φ) (by simp [serviceOf])

/-- A record in the place of a value says what its draft is made of. -/
theorem yields_record {r : Record Empty σ} {make : (String → Option Phrase) → σ} (h : r.MadeOf make)
    (depth : Nat) (φ : Phrase) :
    Yields (r.read depth φ.document) fun draft => recordIn make r.names φ = some draft := by
  intro notices draft notices' hread
  rw [h.yields_read depth φ notices draft notices' hread]
  -- null is no record
  cases φ with
  | null =>
    rw [Phrase.document] at hread
    cases depth <;> cases hread
  | _ => rfl

theorem madeOf_storageRecord : storageRecord.MadeOf storageOf := by
  refine ⟨⟨by decide, by simp [storageRecord, openField], ?_⟩, rfl, ?_, ?_⟩
  · simp only [storageRecord, openField, List.forall_mem_cons]
    refine ⟨fun _ _ => ?_, fun _ _ => ?_, fun _ _ => ?_, List.forall_mem_nil _⟩
    all_goals exact Yields.map (by simp [Yields])
  · -- the three members are looked up by name, so nothing else counts
    intro find find' h
    rw [storageOf, storageOf, h "backend" (by decide), h "sqlite" (by decide),
      h "dynamodb" (by decide)]
  · simp only [storageRecord, openField, List.forall_mem_cons]
    refine ⟨fun find _ depth φ => ?_, fun find _ depth φ => ?_, fun find _ depth φ => ?_,
      List.forall_mem_nil _⟩
    · exact yields_set_optional rfl (yields_choice _ depth φ) (by simp [storageOf])
    · -- the parts of the backends are records in turn
      have hdatabase : Yields (databaseRecord.read depth φ.document) fun database =>
          recordIn databaseOf ["path"] φ = some database :=
        yields_record madeOf_databaseRecord depth φ
      exact yields_set_optional rfl hdatabase (by simp [storageOf])
    · have hservice : Yields (serviceRecord.read depth φ.document) fun service =>
          recordIn serviceOf ["region", "incident_table", "endpoint"] φ = some service :=
        yields_record madeOf_serviceRecord depth φ
      exact yields_set_optional rfl hservice (by simp [storageOf])

theorem madeOf_filtersRecord : filtersRecord.MadeOf filtersOf := by
  refine ⟨⟨by decide, by simp [filtersRecord, openField], ?_⟩, rfl, ?_, ?_⟩
  · simp only [filtersRecord, openField, List.forall_mem_singleton]
    exact fun _ _ => Yields.map (by simp [Yields])
  · intro find find' h
    rw [filtersOf, filtersOf, h "semantics" (by decide)]
  · simp only [filtersRecord, openField, List.forall_mem_singleton]
    intro find _ depth φ
    exact yields_set_optional rfl (yields_choice _ depth φ) (by simp [filtersOf])

theorem madeOf_fileRecord : fileRecord.MadeOf fileOf := by
  refine ⟨⟨by decide, by simp [fileRecord, openField], ?_⟩, rfl, ?_, ?_⟩
  · simp only [fileRecord, openField, List.forall_mem_cons]
    refine ⟨fun _ _ => ?_, fun _ _ => ?_, List.forall_mem_nil _⟩
    all_goals exact Yields.map (by simp [Yields])
  · -- storage and filters are all that is looked up
    intro find find' h
    rw [fileOf, fileOf, h "storage" (by decide), h "filters" (by decide)]
  · simp only [fileRecord, openField, List.forall_mem_cons]
    refine ⟨fun find _ depth φ => ?_, fun find _ depth φ => ?_, List.forall_mem_nil _⟩
    · -- storage and filters are records in turn
      have hstorage : Yields (storageRecord.read depth φ.document) fun storage =>
          recordIn storageOf ["backend", "sqlite", "dynamodb"] φ = some storage :=
        yields_record madeOf_storageRecord depth φ
      exact yields_set_optional rfl hstorage (by simp [fileOf])
    · have hfilters : Yields (filtersRecord.read depth φ.document) fun filters =>
          recordIn filtersOf ["semantics"] φ = some filters :=
        yields_record madeOf_filtersRecord depth φ
      exact yields_set_optional rfl hfilters (by simp [fileOf])

theorem join_map_eq_bind {value : Phrase → Option α} (place : Option Phrase) :
    (place.map value).join = place.bind value := by
  cases place <;> rfl

/-- A record that is left out or null says nothing. -/
theorem getD_recordIn {make : (String → Option Phrase) → σ} {empty : σ}
    (hempty : make (fun _ => none) = empty) (names : List String) (place : Option Phrase) :
    (place.bind (recordIn make names)).getD empty =
      make fun name => place.bind fun φ => φ.member? names name := by
  cases place with
  | none => exact hempty.symm
  | some φ =>
    cases φ with
    | null => exact hempty.symm
    | _ => rfl

/-- The layer of a file has the choices and texts that stand at their places. -/
theorem layer_fileOf (find : String → Option Phrase) : (fileOf find).layer = layerSaid find := by
  have hstorage : storageOf (fun _ => none) = {} := rfl
  have hdatabase : databaseOf (fun _ => none) = {} := rfl
  have hservice : serviceOf (fun _ => none) = {} := rfl
  have hfilters : filtersOf (fun _ => none) = {} := rfl
  -- a part that is missing or null says as little as an empty one
  simp only [FileDraft.layer, fileOf, join_map_eq_bind, getD_recordIn hstorage,
    getD_recordIn hfilters]
  simp only [storageOf, filtersOf, join_map_eq_bind, getD_recordIn hdatabase,
    getD_recordIn hservice]
  simp only [databaseOf, serviceOf, join_map_eq_bind]
  rfl

end

/-! ## §3 Files -/

/-- The members at the top of a settings file that are known there. -/
def knownAtTop (given : List (String × Phrase)) : List (String × Phrase) :=
  given.filter fun member => ["storage", "filters"].contains member.1

/-- The members at the top of a settings file that are not known there. -/
def unknownAtTop (given : List (String × Phrase)) : List (String × Phrase) :=
  given.filter fun member => !(["storage", "filters"].contains member.1)

/-- The unknown fields of a settings file, each once, in the order of the file. -/
def unknownNames (given : List (String × Phrase)) : List String :=
  ((unknownAtTop given).map (·.1)).eraseDups

/-- Reads the members of a settings file that are known. -/
def readKnown (depth : Nat) (known : List (String × Phrase)) : Decode Empty FileDraft :=
  known.foldlM (fileRecord.readNamed depth) {} >>= fileRecord.finish

/-- A settings file is read as what its known members say; the others have to be readable. -/
theorem readSettingsFile_eq_ok_iff {φ : Phrase} {depth : Nat} {file : SettingsFile}
    {notices notices' : List Empty} :
    readSettingsFile (depth + 1) φ.document notices = .ok file notices' ↔
      ∃ given, φ.entries? = some given ∧
        (∀ member ∈ unknownAtTop given, member.2.isReadable depth = true) ∧
        ∃ draft, readKnown depth (knownAtTop given) notices = .ok draft notices' ∧
          file = ⟨draft.layer, unknownNames given⟩ := by
  rw [readSettingsFile, Json.bind_eq_ok_iff]
  -- the file is what is made of the draft, with the names that were passed over
  constructor
  · rintro ⟨⟨draft, names⟩, _, hopen, ⟨⟩⟩
    obtain ⟨given, hgiven, hreadable, hknown, rfl⟩ := Record.readOpen_eq_ok_iff.mp hopen
    exact ⟨given, hgiven, hreadable, draft, hknown, rfl⟩
  · rintro ⟨given, hgiven, hreadable, draft, hknown, rfl⟩
    exact ⟨_, _, Record.readOpen_eq_ok_iff.mpr ⟨given, hgiven, hreadable, hknown, rfl⟩, rfl⟩

theorem layer_of_readKnown {depth : Nat} {given : List (String × Phrase)} {draft : FileDraft}
    {notices notices' : List Empty}
    (h : readKnown depth (knownAtTop given) notices = .ok draft notices') :
    draft.layer = layerSaid fun name => given.lookup name := by
  rw [madeOf_fileRecord.eq_of_known h, layer_fileOf]

/-! ## §4 Loading -/

/-- The warning about a settings file, with its subject. -/
def SettingsReading.warning? (reading : SettingsReading) : Option (String × String) :=
  if reading.unknown.isEmpty then none
  else some (unknownFieldsRemark, ", ".intercalate reading.unknown)

theorem loadSettings_of_read {d : Directory} {command : CommandSettings} {content : String}
    {file : SettingsFile} (hfound : d.read (command.file.getD usualSettingsFile) = .text content)
    (hread : (Json.read readSettingsFile content.toList : Json.Reading Empty SettingsFile).result =
      .ok file) : loadSettings d command = file.under command.layer := by
  -- the same text is read under the path that is given and under the usual one
  have hfile : settingsFile d command.file = .ok file := by
    unfold settingsFile
    cases hpath : command.file with
    | none =>
      rw [hpath, Option.getD_none] at hfound
      simp only [hfound, readSettingsAt, hread]
      rfl
    | some path =>
      rw [hpath, Option.getD_some] at hfound
      simp only [hfound, readSettingsAt, hread]
      rfl
  rw [loadSettings, hfile]

namespace Layer

theorem service?_eq (layer : Layer) :
    layer.service? = if layer.region.getD "" = "" then none
      else some ⟨layer.region.getD "", layer.table.getD "Incidents", layer.endpoint⟩ := by
  rw [service?]
  -- no region counts as an empty one
  cases layer.region with
  | none => rfl
  | some region =>
    by_cases hempty : region = ""
    · subst hempty
      rfl
    · have hnonempty : region.isEmpty = false := by
        rw [Bool.eq_false_iff, ne_eq, String.isEmpty_iff]
        exact hempty
      simp [hnonempty, hempty, defaultTable]

/-- The settings of a layer: each is given or takes its default. Only the service of a table cannot
    do without a region. -/
theorem settings?_eq (layer : Layer) :
    layer.settings? =
      if layer.backend.getD .memory = .wideColumn ∧ layer.region.getD "" = "" then none
      else some
        { storage :=
            { backend := layer.backend.getD .memory
              databasePath := layer.databasePath.getD "incidents.db"
              service :=
                if layer.backend.getD .memory = .wideColumn then
                  some ⟨layer.region.getD "", layer.table.getD "Incidents", layer.endpoint⟩
                else none }
          semantics := layer.semantics.getD .legacy } := by
  rw [settings?, service?_eq, chosenBackend, defaultDatabasePath]
  -- only the wide-column store asks for a service, which asks for a region
  cases layer.backend.getD .memory with
  | wideColumn => by_cases hregion : layer.region.getD "" = "" <;> simp [hregion]
  | _ => rfl

end Layer

namespace SettingsFile

theorem under_result (file : SettingsFile) (layer : Layer) :
    (file.under layer).result =
      (layer.above file.layer).settings?.elim (.error .regionMissing) .ok := by
  rw [under]
  cases (layer.above file.layer).settings? <;> rfl

theorem under_unknown (file : SettingsFile) (layer : Layer) :
    (file.under layer).unknown = file.unknown := by
  rw [under]
  cases (layer.above file.layer).settings? <;> rfl

end SettingsFile

/-- The warning about the unknown fields of a settings file, if it has any. -/
def warningAbout (given : List (String × Phrase)) : Option (String × String) :=
  if unknownNames given = [] then none
  else some (unknownFieldsRemark, ", ".intercalate (unknownNames given))

theorem warning?_under {file : SettingsFile} {given : List (String × Phrase)}
    (h : file.unknown = unknownNames given) (layer : Layer) :
    (file.under layer).warning? = warningAbout given := by
  rw [SettingsReading.warning?, SettingsFile.under_unknown, h, warningAbout]
  simp only [List.isEmpty_iff]

/-- A settings file that can be read is laid under what the command says: each of the settings is
    what the command says, else what stands at its place in the file, else the default. There is a
    service exactly for the store in a table of one, and only its region has to be given. What is
    unknown at the top of the file shows in the warning alone. -/
theorem loadSettings_layered {d : Directory} {command : CommandSettings} {content : String}
    {file : SettingsFile}
    (hfound : d.read (command.file.getD usualSettingsFile) = .text content)
    (hread : (Json.read readSettingsFile content.toList : Json.Reading Empty SettingsFile).result =
      .ok file) :
    (∃ φ : Phrase, isSpaced φ.tokens content.toList = true) ∧
      ∀ φ : Phrase, isSpaced φ.tokens content.toList = true → ∃ given, φ.entries? = some given ∧
        (let said := layerSaid fun name => given.lookup name
          let told := command.layer
          let backend := (told.backend <|> said.backend).getD .memory
          let region := (told.region <|> said.region).getD ""
          (loadSettings d command).result =
            if backend = .wideColumn ∧ region = "" then .error .regionMissing
            else .ok
              { storage :=
                  { backend := backend
                    databasePath := (told.databasePath <|> said.databasePath).getD "incidents.db"
                    service :=
                      if backend = .wideColumn then
                        some
                          { region := region
                            table := (told.table <|> said.table).getD "Incidents"
                            endpoint := told.endpoint <|> said.endpoint }
                      else none }
                semantics := (told.semantics <|> said.semantics).getD .legacy }) ∧
        (loadSettings d command).warning? = warningAbout given ∧
        (∀ member ∈ unknownAtTop given, member.2.isReadable 126 = true) ∧
        ∀ (d' : Directory) (content' : String) (φ' : Phrase) (given' : List (String × Phrase)),
          d'.read (command.file.getD usualSettingsFile) = .text content' →
          isSpaced φ'.tokens content'.toList = true → φ'.entries? = some given' →
          knownAtTop given' = knownAtTop given →
          (∀ member ∈ unknownAtTop given', member.2.isReadable 126 = true) →
          (loadSettings d' command).result = (loadSettings d command).result ∧
            (loadSettings d' command).warning? = warningAbout given' := by
  refine ⟨Json.exists_phrase_of_read hread, fun φ hspaced => ?_⟩
  -- the text reads, so it spells members of which the unknown ones are readable values
  obtain ⟨notices, hφ⟩ := (Json.read_eq_ok_iff hspaced).mp hread
  obtain ⟨given, hgiven, hreadable, draft, hknown, rfl⟩ := readSettingsFile_eq_ok_iff.mp hφ
  have hload := loadSettings_of_read hfound hread
  -- and the known ones make up the layer of the file
  have hlayer := layer_of_readKnown hknown
  refine ⟨given, hgiven, ?_, ?_, hreadable, ?_⟩
  · -- the settings are those of the two layers, the one that was told above
    intro said told backend region
    rw [hload, SettingsFile.under_result, Layer.settings?_eq, hlayer]
    exact apply_ite (fun settings : Option Settings =>
      settings.elim (Except.error SettingsError.regionMissing) Except.ok) _ _ _
  · rw [hload]
    exact warning?_under rfl _
  · -- another file with the same known members reads as the same draft
    intro d' content' φ' given' hfound' hspaced' hgiven' hsame hreadable'
    have hφ' := readSettingsFile_eq_ok_iff.mpr
      ⟨given', hgiven', hreadable', draft, hsame ▸ hknown, rfl⟩
    have hread' := (Json.read_eq_ok_iff hspaced').mpr ⟨notices, hφ'⟩
    rw [hload, loadSettings_of_read hfound' hread', SettingsFile.under_result,
      SettingsFile.under_result]
    exact ⟨rfl, warning?_under rfl _⟩

/-- The known members of a settings file, in which records are lists and null leaves things open. -/
def settingsMembers : List (String × Phrase) :=
  let service : Phrase := .object [
    (plainly "region", .text (plainly "eu")), (plainly "endpoint", .null),
    (plainly "more", .list [])]
  [("storage", .list [.null, .list [.text (plainly "data.db")], service]),
    ("filters", .object [(plainly "semantics", .text (plainly "consistent"))])]

/-- Unknown members, of which two have one name, that is almost a known one. -/
def unknownMembers : List (String × Phrase) :=
  [("filters ", .object [(plainly "semantics", .boolean true)]), ("x", .null),
    ("filters ", .list [])]

def spelled (members : List (String × Phrase)) : Phrase :=
  .object (members.map fun member => (plainly member.1, member.2))

def settingsText (unknown : String) : List Char :=
  "\x7b\"storage\":[null,[\"data.db\"],".toList ++
    "\x7b\"region\":\"eu\",\"endpoint\":null,\"more\":[]\x7d],\n".toList ++
    "\"filters\":\x7b\"semantics\":\"consistent\"\x7d".toList ++ unknown.toList ++ "\x7d".toList

/-- Misspelt members are named in the warning, and leave no other trace. -/
theorem loadSettings_layered_misspelt :
    let path := "settings.json"
    let text := String.ofList <| settingsText
      ", \"filters \":\x7b\"semantics\":true\x7d, \"x\":null, \"filters \":[]"
    let text' := String.ofList (settingsText "")
    let d := Directory.empty.putText path text
    let d' := Directory.empty.putText path text'
    let command : CommandSettings :=
      { file := some path, layer := { backend := some .wideColumn, table := some "Archive" } }
    d.read path = .text text ∧
      (∃ file, (Json.read readSettingsFile text.toList : Json.Reading Empty _).result = .ok file) ∧
      (loadSettings d command).result = .ok
        { storage := ⟨.wideColumn, "data.db", some ⟨"eu", "Archive", none⟩⟩
          semantics := .consistent } ∧
      (loadSettings d command).warning? = some (unknownFieldsRemark, "filters , x") ∧
      (loadSettings d' command).result = (loadSettings d command).result ∧
      (loadSettings d' command).warning? = none := by
  intro path text text' d d' command
  have hfound : d.read path = .text text := by
    decide +kernel
  have hfound' : d'.read path = .text text' := by
    decide +kernel
  -- two names are unknown, one of them twice
  have hread : (Json.read readSettingsFile text.toList : Json.Reading Empty _).result =
      .ok ⟨⟨none, "data.db", "eu", none, none, some .consistent⟩, ["filters ", "x"]⟩ := by
    rw [String.toList_ofList]
    decide +kernel
  have hspaced : isSpaced (spelled (settingsMembers ++ unknownMembers)).tokens text.toList =
      true := by
    rw [String.toList_ofList]
    decide +kernel
  have hspaced' : isSpaced (spelled settingsMembers).tokens text'.toList = true := by
    rw [String.toList_ofList]
    decide +kernel
  -- the theorem at the file with the unknown members, then at the one without them
  obtain ⟨-, hsays⟩ := @loadSettings_layered d command _ _ hfound hread
  obtain ⟨given, hgiven, hresult, hwarning, -, hindifferent⟩ := hsays _ hspaced
  obtain rfl : settingsMembers ++ unknownMembers = given := Option.some.inj hgiven
  obtain ⟨hresult', hwarning'⟩ := hindifferent d' text' _ _ hfound' hspaced' rfl rfl nofun
  refine ⟨hfound, ⟨_, hread⟩, ?_, ?_, hresult', ?_⟩
  · rw [hresult]
    rfl
  · rw [hwarning]
    rfl
  · rw [hwarning']
    rfl

end IncidentTracker
