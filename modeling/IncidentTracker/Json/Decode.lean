import IncidentTracker.Json.Layout

/-!
# Reading Documents

A decoder turns a document into a value of the domain. It walks the document from left to right,
may leave notices on its way, and stops at the first problem; notices left before a problem are
kept. It is told how many containers may still be opened below it, and so it is the decoder, not
the layout, that limits the nesting of what is read: what is merely passed over may nest freely.

A record may be written as an object, with its fields in any order among others that are passed
over, or as a list of its fields in declared order.
-/

namespace IncidentTracker.Json

/-- A reading in progress: it may leave notices of type `ν` and may fail. -/
abbrev Decode (ν : Type) := EStateM Problem (List ν)

/-- Reads a document below which the given number of containers may still be opened. -/
abbrev Decoder (ν α : Type) := Nat → Document → Decode ν α

/-- How many containers may be nested in what is read. -/
def nestingLimit : Nat := 127

variable {ν α σ : Type}

/-! ## §1 Problems -/

/-- Stops at a fault, if there is one. -/
def stopAt : Option Fault → Decode ν Unit
  | some fault => throw (.fault fault)
  | none => pure ()

/-- Leaves a notice. -/
def note (notice : ν) : Decode ν Unit :=
  modify fun notices => notices ++ [notice]

/-- The problem of a document that is not what was expected. -/
def Document.unexpected (expected : String) : Document → Problem
  | .scalar _ (.error fault) _ => .fault fault
  | .scalar _ (.ok value) _ => .mismatch (.wrongType value.found expected)
  | .list _ _ => .mismatch (.wrongType .sequence expected)
  | .object _ _ => .mismatch (.wrongType .map expected)

/-- Passes over a document. -/
def skip (d : Document) : Decode ν Unit :=
  stopAt d.skipped

/-! ## §2 Scalars -/

/-- Reads a text where the given description is expected. -/
def textAs (expected : String) : Decoder ν String
  | _, .scalar _ (.ok (.text s)) _ => pure s
  | _, d => throw (d.unexpected expected)

/-- Reads a text. -/
def text : Decoder ν String := textAs "a string"

/-- Reads an integer that fits a signed 64-bit word. -/
def integer : Decoder ν Int
  | _, .scalar _ (.ok (.number (.integer n))) _ =>
    if Text.Decimal.isWord n then pure n
    else throw (.mismatch (.wrongValue (.integer n) "i64"))
  | _, d => throw (d.unexpected "i64")

/-- Reads the null value. -/
def unit : Decoder ν Unit
  | _, .scalar .null (.ok _) _ => pure ()
  | _, d => throw (d.unexpected "unit")

/-- Reads a value that may be null. -/
def optional (item : Decoder ν α) : Decoder ν (Option α)
  | _, .scalar .null (.ok _) _ => pure none
  | _, .scalar .null (.error fault) _ => throw (.fault fault)
  | depth, d => some <$> item depth d

/-! ## §3 Containers -/

/-- Reads a list. -/
def listOf (item : Decoder ν α) : Decoder ν (List α)
  | 0, .list _ _ => throw (.fault .grammar)
  | depth + 1, .list items fault => do
    let values ← items.mapM (item depth)
    stopAt fault
    return values
  | _, d => throw (d.unexpected "a sequence")

/-- Reads what stands in the place of a key. -/
def key : Document → Decode ν String
  | .scalar .text (.ok (.text s)) _ => pure s
  | .scalar .text (.error fault) _ => throw (.fault fault)
  | .scalar .nothing (.error fault) _ => throw (.fault fault)
  | _ => throw (.fault .grammar)

/-- Reads the members of an object, each with any key. -/
def entries (item : Decoder ν α) (depth : Nat) :
    List (Document × Document) → Decode ν (List (String × α)) :=
  List.mapM fun (name, value) => do
    let name ← key name
    let value ← item depth value
    return (name, value)

/-- Reads an object with any keys as the list of its entries. -/
def mapOf (item : Decoder ν α) : Decoder ν (List (String × α))
  | 0, .object _ _ => throw (.fault .grammar)
  | depth + 1, .object members fault => do
    let values ← entries item depth members
    stopAt fault
    return values
  | _, d => throw (d.unexpected "a map")

/-- Reads any value through without keeping it. -/
def check : Decoder ν Unit
  | _, .scalar _ (.ok _) _ => pure ()
  | _, .scalar _ (.error fault) _ => throw (.fault fault)
  | 0, _ => throw (.fault .grammar)
  | depth + 1, .list items fault => do
    items.forM (check depth)
    stopAt fault
  | depth + 1, .object members fault => do
    members.forM fun (name, value) => do
      -- keys have to be texts that can be read, even if nobody asks for them
      let _ ← key name
      check depth value
    stopAt fault

/-! ## §4 Choices -/

/-- The value with a given name. -/
def choose (choices : List (String × α)) (name : String) : Decode ν α :=
  match choices.find? fun choice => choice.1 == name with
  | some choice => pure choice.2
  | none => throw (.mismatch (.unknownVariant name (choices.map (·.1))))

/-- Reads one of several names, alone or as the key of an object whose only value is null. -/
def choice (choices : List (String × α)) : Decoder ν α
  | _, .scalar .text (.ok (.text name)) _ => choose choices name
  | _, .scalar .text (.error fault) _ => throw (.fault fault)
  | _, .scalar .nothing (.error fault) _ => throw (.fault fault)
  | depth + 1, .object ((name, value) :: more) fault => do
    -- the name is judged before its value is looked at
    let name ← key name
    let chosen ← choose choices name
    unit depth value
    if more.isEmpty then stopAt fault else throw (.fault .grammar)
    return chosen
  | _ + 1, .object [] (some fault) => throw (.fault fault)
  | _, _ => throw (.fault .grammar)

/-! ## §5 Records -/

/-- When a field may be left out. -/
inductive Presence where
  /-- Never. -/
  | required
  /-- From an object only. -/
  | listed
  /-- Always. -/
  | defaulted
  deriving DecidableEq, Repr

/-- A field of a record: how it is read into a draft of the record, and whether a draft has it. -/
structure Field (ν σ : Type) where
  name : String
  presence : Presence
  isSet : σ → Bool
  read : Decoder ν (σ → σ)

/-- A record: what messages call it, its fields in declared order, and the draft that has none. -/
structure Record (ν σ : Type) where
  expected : String
  fields : List (Field ν σ)
  empty : σ

namespace Record

/-- What messages call a record written as a list. -/
def expectedLength (r : Record ν σ) : String :=
  r.expected ++ " with " ++ toString r.fields.length ++
    (if r.fields.length = 1 then " element" else " elements")

/-- Reads one member of an object into a draft; an unknown one is passed over. -/
def readMember (r : Record ν σ) (depth : Nat) (draft : σ) (member : Document × Document) :
    Decode ν σ := do
  let name ← key member.1
  match r.fields.find? fun field => field.name == name with
  | none =>
    skip member.2
    return draft
  | some field =>
    if field.isSet draft then throw (.mismatch (.duplicateField name))
    else
      let set ← field.read depth member.2
      return set draft

/-- The first field that must not be left out of an object and is. -/
def firstMissing (r : Record ν σ) (draft : σ) : Option (Field ν σ) :=
  r.fields.find? fun field => field.presence == .required && !field.isSet draft

/-- Accepts a draft read from an object if no required field is missing. -/
def finish (r : Record ν σ) (draft : σ) : Decode ν σ :=
  match r.firstMissing draft with
  | some field => throw (.mismatch (.missingField field.name))
  | none => pure draft

/-- Reads the items of a list into the fields in declared order, from the given position on. -/
def readItems (r : Record ν σ) (depth : Nat) (fault : Option Fault) :
    Nat → List (Field ν σ) → List Document → σ → Decode ν σ
  | _, [], [], draft => do
    stopAt fault
    return draft
  -- a list goes on after its last field
  | _, [], _ :: _, _ => throw (.fault .grammar)
  | position, field :: fields, [], draft => do
    stopAt fault
    if field.presence == .defaulted then readItems r depth fault (position + 1) fields [] draft
    else throw (.mismatch (.wrongLength position r.expectedLength))
  | position, field :: fields, item :: items, draft => do
    let set ← field.read depth item
    readItems r depth fault (position + 1) fields items (set draft)

/-- Reads a record into a draft. -/
def read (r : Record ν σ) : Decoder ν σ
  | depth + 1, .object members fault => do
    let draft ← members.foldlM (r.readMember depth) r.empty
    stopAt fault
    r.finish draft
  | depth + 1, .list items fault => r.readItems depth fault 0 r.fields items r.empty
  | 0, .object _ _ => throw (.fault .grammar)
  | 0, .list _ _ => throw (.fault .grammar)
  | _, d => throw (d.unexpected r.expected)

/-- Reads one member of an object that collects what it does not know: such a member is read
    through and its key kept. -/
def readOpenMember (r : Record ν σ) (depth : Nat) (state : σ × List String)
    (member : Document × Document) : Decode ν (σ × List String) := do
  let name ← key member.1
  match r.fields.find? fun field => field.name == name with
  | none =>
    check depth member.2
    return (state.1, state.2 ++ [name])
  | some field =>
    if field.isSet state.1 then throw (.mismatch (.duplicateField name))
    else
      let set ← field.read depth member.2
      return (set state.1, state.2)

/-- Reads a record written as an object into a draft and the keys it does not know. -/
def readOpen (r : Record ν σ) : Decoder ν (σ × List String)
  | depth + 1, .object members fault => do
    let (draft, unknown) ← members.foldlM (r.readOpenMember depth) (r.empty, [])
    stopAt fault
    let draft ← r.finish draft
    return (draft, unknown)
  | 0, .object _ _ => throw (.fault .grammar)
  | _, d => throw (d.unexpected r.expected)

end Record

/-! ## §6 Whole texts -/

/-- The outcome of reading a text: the notices left on the way, and the value or the problem. -/
structure Reading (ν α : Type) where
  notices : List ν
  result : Except Problem α

/-- Only blanks may follow a document. -/
def atEnd (d : Document) : Option (List Char) → Decode ν Unit
  | some rest => if (rest.dropWhile isSpace).isEmpty then pure () else throw (.fault .grammar)
  | none => throw (.fault (d.skipped.getD .grammar))

/-- Reads a whole text. -/
def read (item : Decoder ν α) (text : List Char) : Reading ν α :=
  let (document, rest) := layout text
  let reading : Decode ν α := do
    let value ← item nestingLimit document
    atEnd document rest
    return value
  match reading [] with
  | .ok value notices => ⟨notices, .ok value⟩
  | .error problem notices => ⟨notices, .error problem⟩

end IncidentTracker.Json
