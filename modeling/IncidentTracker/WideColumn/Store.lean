import IncidentTracker.WideColumn.Call

/-!
# The Wide-Column Store

A client of the service that keeps a table of incidents. The filter of a list becomes the
expression of a scan in the semantics of the client; a filter that nothing can pass is answered
without asking the service.
-/

namespace IncidentTracker.WideColumn

open Filtering (Semantics)

/-- A client: its semantics, and its conversation with the service. -/
structure Store where
  semantics : Semantics
  /-- The replies to come. -/
  replies : List Reply
  /-- The requests that were sent, in order. -/
  sent : List Request := []

namespace Store

/-- Carries a call through as part of the conversation. -/
def carry {σ α : Type} (s : Store) (call : Call σ α) (state : σ) : Except StoreError α × Store :=
  let exchange := call.run state s.replies
  (exchange.result, { s with replies := exchange.unused, sent := s.sent ++ exchange.sent })

/-- Makes sure that the table exists. -/
def prepare (s : Store) : Except StoreError Unit × Store :=
  s.carry WideColumn.prepare .describing

/-- Stores an incident. -/
def add (s : Store) (new : NewIncident) : Except StoreError Incident × Store :=
  match checkKind new with
  | .error e => (.error e.toStoreError, s)
  | .ok () => s.carry addition (.numbering new none none)

/-- The incident with an identifier. -/
def get (s : Store) (id : Int) : Except StoreError (Option Incident) × Store :=
  s.carry search ⟨id, none⟩

/-- The incidents that pass a filter. -/
def list (s : Store) (filter : Option Filtering.Request) : Except StoreError (List Incident) × Store :=
  match Scan.ofFilter s.semantics filter with
  | .all => s.carry listing ⟨.everything, [], none⟩
  | .filtered expression => s.carry listing ⟨.passing expression, [], none⟩
  | .nothing => (.ok [], s)

/-- The store as a repository. -/
def repository : Repository (StateM Store) where
  name := "dynamodb"
  add := fun new s => s.add new
  get := fun id s => s.get id
  list := fun filter s => s.list filter

end Store

end IncidentTracker.WideColumn
