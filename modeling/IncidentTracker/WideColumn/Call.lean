import IncidentTracker.Store.Repository
import IncidentTracker.WideColumn.Item

/-!
# Calls

An operation on a wide-column table is a conversation with the service that keeps the table:
requests, and a reply to each. Between a request and its reply a call waits in a state of its own,
and everything it will do is determined by that state and the replies to come. A call therefore
stands beside the calls of other clients without further notice: only the table lies between them.

A scan comes in pages. A page tells the key to continue after; there is no further page if it
tells none, an empty one, or the one that the page itself was asked for with.
-/

namespace IncidentTracker.WideColumn

open Filtering (Semantics)

/-! ## §1 Requests and replies -/

/-- A key to continue after. -/
abbrev Key := Dictionary Bound

/-- What a scan asks for. -/
inductive Selection where
  /-- All items. -/
  | everything
  /-- The items that pass an expression. -/
  | passing (expression : Expression)
  /-- The items with an identifier. -/
  | withId (id : Int)
  /-- The identifiers of all items. -/
  | identifiers
  deriving DecidableEq

/-- A request to the service that keeps a table. -/
inductive Request where
  | describeTable
  | createTable
  /-- A page of a scan, from the beginning or after a key. -/
  | scan (selection : Selection) (start : Option Key)
  /-- Stores an item, provided that no item of the same kind and identifier is stored. -/
  | putNew (item : Item)

/-- A reply of the service. -/
inductive Reply where
  /-- The request was carried out. -/
  | done
  /-- A page of a scan. -/
  | page (items : List Item) (next : Option Key)
  /-- The service refused, and named its reason. -/
  | refused (reason : String)

/-- The items of a reply to a scan. -/
def Reply.items : Reply → List Item
  | .page items _ => items
  | _ => []

/-- The key after which a scan continues, when the page was asked for after `start`. -/
def Reply.nextKey (start : Option Key) : Reply → Option Key
  | .page _ (some key) => if key.entries.isEmpty || some key = start then none else some key
  | _ => none

/-! ## §2 Calls -/

/-- What becomes of a call with a reply. -/
inductive Step (σ α : Type) where
  | waiting (state : σ)
  | finished (result : Except StoreError α)

/-- A call with states in `σ` and results in `α`. -/
structure Call (σ α : Type) where
  /-- The request whose reply a state waits for. -/
  request : σ → Request
  /-- What a reply leads to. -/
  receive : σ → Reply → Step σ α
  /-- Why the call fails if a request cannot be delivered. -/
  undelivered : StoreError

/-- What a call comes to when it is given some replies. -/
structure Exchange (α : Type) where
  result : Except StoreError α
  /-- The requests that were sent, in order. -/
  sent : List Request
  /-- The replies that are left. -/
  unused : List Reply

/-- Carries a call through with the replies there are. -/
def Call.run {σ α : Type} (call : Call σ α) : σ → List Reply → Exchange α
  | _, [] => ⟨.error call.undelivered, [], []⟩
  | state, reply :: replies =>
    match call.receive state reply with
    | .finished result => ⟨result, [call.request state], replies⟩
    | .waiting next =>
      let rest := call.run next replies
      { rest with sent := call.request state :: rest.sent }

/-- A misfit as an error of the store. -/
def ItemError.toStoreError (e : ItemError) : StoreError :=
  .invalidItem e.message

/-- The failure of a request that reached the service. -/
def serviceError : StoreError := .wideColumn "service error"

/-- The failure of a request that did not reach the service. -/
def dispatchFailure : StoreError := .wideColumn "dispatch failure"

/-! ## §3 Making sure that the table exists -/

/-- Where the call that prepares a table stands. -/
inductive Preparation where
  | describing
  | creating
  deriving DecidableEq, Repr

/-- Makes sure that the table exists: `ensure_table`, and `create_table` if it does not. -/
def prepare : Call Preparation Unit where
  request
    | .describing => .describeTable
    | .creating => .createTable
  receive
    | .describing, .refused reason =>
      if reason == "ResourceNotFoundException" then .waiting .creating
      else .finished (.error (.wideColumn ("unhandled error (" ++ reason ++ ")")))
    | .creating, .refused _ => .finished (.error serviceError)
    | _, _ => .finished (.ok ())
  undelivered := .wideColumn "unhandled error"

/-! ## §4 Adding -/

/-- Where the call that adds an incident stands. -/
inductive Addition where
  /-- Looking for the largest identifier; so far it is `largest`. -/
  | numbering (new : NewIncident) (largest : Option Int) (start : Option Key)
  /-- Storing the incident. -/
  | storing (incident : Incident)
  deriving DecidableEq

/-- The larger of an identifier and what was the largest before. -/
def larger (largest : Option Int) (id : Int) : Int :=
  match largest with
  | some n => max n id
  | none => id

/-- The largest identifier after some more items. -/
def largestId : Option Int → List Item → Except ItemError (Option Int)
  | largest, [] => .ok largest
  | largest, item :: items => do
    let id ← item.id
    largestId (some (larger largest id)) items

/-- The identifier that follows the largest one; without one it is zero. -/
def nextId (largest : Option Int) : Int :=
  match largest with
  | some n => n + 1
  | none => 0

/-- Adds an incident under the identifier that follows the largest one: `next_id`, then
    `put_incident`. -/
def addition : Call Addition Incident where
  request
    | .numbering _ _ start => .scan .identifiers start
    | .storing incident => .putNew (.ofIncident incident)
  receive
    | _, .refused _ => .finished (.error serviceError)
    | .numbering new largest start, reply =>
      match largestId largest reply.items with
      | .error e => .finished (.error e.toStoreError)
      | .ok largest =>
        match reply.nextKey start with
        | some key => .waiting (.numbering new largest (some key))
        -- all pages have been seen, so the largest identifier is known
        | none => .waiting (.storing (new.withId (nextId largest)))
    | .storing incident, _ => .finished (.ok incident)
  undelivered := dispatchFailure

/-! ## §5 Finding -/

/-- Where the call that finds an incident stands. -/
structure Search where
  id : Int
  start : Option Key
  deriving DecidableEq

/-- Finds the first item with an identifier: `find_by_id`. -/
def search : Call Search (Option Incident) where
  request state := .scan (.withId state.id) state.start
  receive
    | _, .refused _ => .finished (.error serviceError)
    | state, reply =>
      match reply.items with
      -- the first item that comes is the answer, and no further page is asked for
      | item :: _ => .finished ((item.toIncident.mapError ItemError.toStoreError).map some)
      | [] =>
        match reply.nextKey state.start with
        | some key => .waiting { state with start := some key }
        | none => .finished (.ok none)
  undelivered := dispatchFailure

/-! ## §6 Listing -/

/-- Where the call that lists incidents stands. -/
structure Listing where
  selection : Selection
  /-- The items of the pages so far. -/
  found : List Item
  start : Option Key

/-- Lists the incidents of all items that a selection yields, in ascending order: `scan_incidents`.
    -/
def listing : Call Listing (List Incident) where
  request state := .scan state.selection state.start
  receive
    | _, .refused _ => .finished (.error serviceError)
    | state, reply =>
      -- items are read only when all of them have come
      let found := state.found ++ reply.items
      match reply.nextKey state.start with
      | some key => .waiting { state with found := found, start := some key }
      | none =>
        .finished (((readIncidents found).mapError ItemError.toStoreError).map sortById)
  undelivered := dispatchFailure

end IncidentTracker.WideColumn
