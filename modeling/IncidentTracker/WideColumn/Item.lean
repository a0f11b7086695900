import IncidentTracker.Entity.Basic
import IncidentTracker.WideColumn.Expression

/-!
# Items

An incident as an item of a wide-column table, and back. What is written is read back unchanged.
Reading is more generous than writing: a text may be missing or null, which stands for the empty
text, or it may be a number, which stands for its digits; so may the map of attributes be missing
or null. Entries that no incident has are passed over.
-/

namespace IncidentTracker.WideColumn

/-- A value in an item. -/
inductive Value where
  | text (s : String)
  | number (digits : String)
  | boolean (b : Bool)
  | null (b : Bool)
  | texts (elements : List String)
  | numbers (elements : List String)
  /-- Bytes, or a set of byte strings, in a written form that nothing here looks into. -/
  | binary (encoded : String)
  | list (elements : List Value)
  | map (entries : List (String × Value))
  deriving Inhabited

/-- An item: values under names. -/
abbrev Item := Dictionary Value

/-- A bound value as a value. -/
def Bound.toValue : Bound → Value
  | .text s => .text s
  | .number digits => .number digits

/-- Why an item and an incident do not fit together. -/
inductive ItemError where
  | attributesNotMap
  | notText (name : String)
  | idMissing
  | idNotNumber
  | idNotInteger (digits : String)
  | kindEmpty
  deriving DecidableEq, Repr

/-- The wording of a misfit. -/
def ItemError.message : ItemError → String
  | .attributesNotMap => "attributes is not a map"
  | .notText name => name ++ " is not a string"
  | .idMissing => "missing id"
  | .idNotNumber => "id is not a number"
  | .idNotInteger digits => "id is not an integer: " ++ digits
  | .kindEmpty => "incident type must not be empty for the dynamodb backend"

/-! ## §1 Writing -/

/-- The value of a map of attributes. -/
def attributesValue (attributes : Attributes) : Value :=
  .map (attributes.entries.map fun entry => (entry.1, .text entry.2))

/-- The item of an incident: `incident_to_item`. -/
def Item.ofIncident (i : Incident) : Item :=
  .ofList [("type", .text i.kind), ("id", .number (idText i.id)),
    ("description", .text i.description), ("reporter", .text i.reporter),
    ("state", .text i.state), ("attributes", attributesValue i.attributes)]

/-- Refuses an incident that cannot be stored: the kind is half of the key of the table, and no
    key may be empty. -/
def checkKind (new : NewIncident) : Except ItemError Unit :=
  if new.kind.isEmpty then .error .kindEmpty else .ok ()

/-! ## §2 Reading -/

/-- The text that the value under a name stands for. -/
def readText (name : String) : Option Value → Except ItemError String
  | none => .ok ""
  | some (.null _) => .ok ""
  | some (.text s) => .ok s
  | some (.number digits) => .ok digits
  | some _ => .error (.notText name)

/-- The texts that the entries of a map stand for. -/
def readTexts : List (String × Value) → Except ItemError (List (String × String))
  | [] => .ok []
  | (name, value) :: entries => do
    let s ← readText name (some value)
    let others ← readTexts entries
    return (name, s) :: others

/-- The attributes that a value stands for. -/
def readAttributeMap : Option Value → Except ItemError Attributes
  | none => .ok .empty
  | some (.null _) => .ok .empty
  | some (.map entries) => Dictionary.ofList <$> readTexts entries
  | some _ => .error .attributesNotMap

/-- The identifier of an item: `id_value`. -/
def Item.id (item : Item) : Except ItemError Int :=
  match item.get? "id" with
  | some (.number digits) =>
    match Text.Decimal.toWord? digits.toList with
    | some id => .ok id
    | none => .error (.idNotInteger digits)
  | some _ => .error .idNotNumber
  | none => .error .idMissing

/-- The text under a name in an item, `string_value`; a missing one is empty. -/
def Item.text (item : Item) (name : String) : Except ItemError String :=
  readText name (item.get? name)

/-- The incident of an item: `item_to_incident`. -/
def Item.toIncident (item : Item) : Except ItemError Incident := do
  let attributes ← readAttributeMap (item.get? "attributes")
  let kind ← item.text "type"
  let id ← item.id
  let description ← item.text "description"
  let reporter ← item.text "reporter"
  let state ← item.text "state"
  return ⟨kind, id, description, reporter, state, attributes⟩

/-- The incidents of some items. -/
def readIncidents : List Item → Except ItemError (List Incident)
  | [] => .ok []
  | item :: items => do
    let incident ← item.toIncident
    let others ← readIncidents items
    return incident :: others

end IncidentTracker.WideColumn
