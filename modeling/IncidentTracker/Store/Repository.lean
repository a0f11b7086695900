import IncidentTracker.Filtering.Basic
import IncidentTracker.Filtering.Tree
import IncidentTracker.Entity.Basic
import IncidentTracker.Store.Error

/-!
# Repositories

What every store of incidents offers, in whatever monad its operations run, and the service that
callers use. The service adds one promise of its own: lists are in ascending order of the
identifiers, whatever the order in which a repository gives them.
-/

namespace IncidentTracker

/-- What a store of incidents offers: `add_incident`, `get_incident`, `list_incidents` and its name.
    -/
structure Repository (m : Type → Type) where
  /-- The name of the store. -/
  name : String
  /-- Stores an incident; the answer carries the identifier it was given. -/
  add : NewIncident → m (Except StoreError Incident)
  /-- The incident with an identifier. -/
  get : Int → m (Except StoreError (Option Incident))
  /-- The incidents that pass a filter; without a filter all of them. -/
  list : Option Filtering.Request → m (Except StoreError (List Incident))

/-- Incidents in ascending order of their identifiers; those of one identifier keep their
    order. -/
def sortById (incidents : List Incident) : List Incident :=
  incidents.mergeSort fun a b => decide (a.id ≤ b.id)

/-- The repository as callers see it. -/
def Repository.service {m : Type → Type} [Functor m] (r : Repository m) : Repository m :=
  { r with list := fun filter => Except.map sortById <$> r.list filter }

theorem sortById_perm (incidents : List Incident) : (sortById incidents).Perm incidents :=
  List.mergeSort_perm _ _

theorem sortById_ascending (incidents : List Incident) :
    (sortById incidents).Pairwise fun a b => a.id ≤ b.id := by
  have trans (a b c : Incident) (hab : decide (a.id ≤ b.id) = true)
      (hbc : decide (b.id ≤ c.id) = true) : decide (a.id ≤ c.id) = true :=
    decide_eq_true (Int.le_trans (of_decide_eq_true hab) (of_decide_eq_true hbc))
  have total (a b : Incident) : (decide (a.id ≤ b.id) || decide (b.id ≤ a.id)) = true := by
    rcases Int.le_total a.id b.id with h | h <;> simp [h]
  exact (List.pairwise_mergeSort trans total incidents).imp of_decide_eq_true

/-- Incidents that are in ascending order stay as they are. -/
theorem sortById_of_ascending {incidents : List Incident}
    (h : incidents.Pairwise fun a b => a.id ≤ b.id) : sortById incidents = incidents :=
  List.mergeSort_of_pairwise (h.imp fun hle => decide_eq_true hle)

end IncidentTracker
