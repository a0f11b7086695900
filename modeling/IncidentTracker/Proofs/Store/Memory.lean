import IncidentTracker.Proofs.Filtering.Evaluation
import IncidentTracker.Proofs.Relational.Stored

/-!
# The Store in Memory over Time

Incidents are added to a store in memory, sought and listed, in any order and any number of times.
The identifier of a new incident is the number of those that are stored, and a map would let it take
the place of another. It never does: the identifiers are always the numbers below the number of the
incidents, none left out. So all answers are those of an account that has nothing but a list of what
was added, and what was returned once is found ever after.

Main statement: `MemoryStore.performEach_eq_account`.
-/

namespace IncidentTracker

open Relational (numbered)

/-! ## §1 Operations -/

/-- What is asked of a store. -/
inductive Operation where
  | add (new : NewIncident)
  | get (id : Int)
  | list (filter : Option Filtering.Request)

/-- What a store answers. -/
inductive Outcome where
  | added (result : Except StoreError Incident)
  | found (result : Except StoreError (Option Incident))
  | listed (result : Except StoreError (List Incident))

namespace Repository

variable {σ : Type}

/-- Carries out an operation on a store: what is answered, and the store that is left. -/
def perform (r : Repository (StateM σ)) (s : σ) : Operation → Outcome × σ
  | .add new => let (result, s) := r.add new s; (.added result, s)
  | .get id => let (result, s) := r.get id s; (.found result, s)
  | .list filter => let (result, s) := r.list filter s; (.listed result, s)

/-- Carries out operations one after the other. -/
def performEach (r : Repository (StateM σ)) (s : σ) : List Operation → List Outcome × σ
  | [] => ([], s)
  | op :: ops =>
    let (outcome, s) := r.perform s op
    let (outcomes, s) := r.performEach s ops
    (outcome :: outcomes, s)

end Repository

/-! ## §2 Accounts -/

namespace Operation

/-- What has been added after an operation. -/
def addTo (added : List NewIncident) : Operation → List NewIncident
  | .add new => added ++ [new]
  | .get _ | .list _ => added

/-- What should be answered when some incidents have been added: their identifiers are the places
    from zero on. -/
def outcome (added : List NewIncident) : Operation → Outcome
  | .add new => .added (.ok (new.withId added.length))
  | .get id =>
    .found (.ok (if 0 ≤ id then (added[id.toNat]?).map (·.withId id) else none))
  | .list filter => .listed (.ok ((numbered 0 added).filter fun i => passes filter i))

/-- What should be answered to some operations, one after the other. -/
def outcomes (added : List NewIncident) : List Operation → List Outcome
  | [] => []
  | op :: ops => op.outcome added :: outcomes (op.addTo added) ops

/-- What is added by some operations, in order. -/
def news (ops : List Operation) : List NewIncident :=
  ops.foldl addTo []

/-- What has been added stays in its place. -/
theorem isPrefix_addTo (added : List NewIncident) (ops : List Operation) :
    added <+: ops.foldl addTo added := by
  induction ops generalizing added with
  | nil => exact List.prefix_rfl
  | cons op ops ih =>
    apply List.IsPrefix.trans _ (ih (op.addTo added))
    -- only an addition adds, and it adds at the end
    cases op with
    | add new => exact List.prefix_append added [new]
    | get id => exact List.prefix_rfl
    | list filter => exact List.prefix_rfl

end Operation

/-! ## §3 Steps -/

namespace MemoryStore

/-- An incident whose identifier is larger than all others is put behind them. -/
theorem put_eq_append {incident : Incident} {incidents : List Incident}
    (h : ∀ other ∈ incidents, other.id < incident.id) :
    put incident incidents = incidents ++ [incident] := by
  induction incidents with
  | nil => rfl
  | cons other rest ih =>
    have hlt : other.id < incident.id := h other List.mem_cons_self
    rw [put, if_neg (by omega), if_neg (by omega),
      ih fun other hmem => h other (List.mem_cons_of_mem _ hmem), List.cons_append]

/-- A store that has some incidents under their places from zero on. -/
def holding (added : List NewIncident) : MemoryStore :=
  ⟨numbered 0 added⟩

/-- The next identifier is not in use, so nothing is replaced. -/
theorem add_holding (added : List NewIncident) (new : NewIncident) :
    (holding added).add new = (new.withId added.length, holding (added ++ [new])) := by
  have hsize : (holding added).size = added.length := Relational.length_numbered 0 added
  -- the next identifier is the number of incidents, larger than all that were given
  have hfresh : ∀ other ∈ numbered 0 added, other.id < (new.withId added.length).id := by
    intro other hmem
    obtain ⟨-, hlt⟩ := Relational.mem_numbered hmem
    rw [NewIncident.id_withId]
    omega
  have hput : put (new.withId added.length) (numbered 0 added) = numbered 0 (added ++ [new]) := by
    rw [put_eq_append hfresh, Relational.numbered_concat, Int.zero_add]
  simp only [add, hsize]
  rw [holding, hput, holding]

/-- Who is stored is found by its place. -/
theorem get?_holding (added : List NewIncident) (id : Int) :
    (holding added).get? id =
      if 0 ≤ id then (added[id.toNat]?).map (·.withId id) else none := by
  rw [get?, holding, Relational.find?_numbered, Int.sub_zero]

/-- An operation is answered from what was added, and leaves a store that has what is added then. -/
theorem perform_holding (added : List NewIncident) (op : Operation) :
    repository.perform (holding added) op = (op.outcome added, holding (op.addTo added)) := by
  -- only an addition changes what the store holds
  cases op with
  | add new =>
    simp only [Repository.perform, repository, add_holding]
    rfl
  | get id =>
    simp only [Repository.perform, repository, get?_holding]
    rfl
  | list filter =>
    simp only [Repository.perform, repository, list_eq_filter]
    rfl

/-- The service answers as the store does: there is nothing to sort. -/
theorem perform_service_holding (added : List NewIncident) (op : Operation) :
    repository.service.perform (holding added) op =
      (op.outcome added, holding (op.addTo added)) := by
  cases op with
  | add new => exact perform_holding added (.add new)
  | get id => exact perform_holding added (.get id)
  | list filter =>
    -- the identifiers ascend as they were given, so sorting by them moves nothing
    have hsorted : sortById ((holding added).list filter) = (holding added).list filter := by
      rw [list_eq_filter]
      apply sortById_of_ascending
      exact ((Relational.numbered_ascending 0 added).filter _).imp Int.le_of_lt
    show (Outcome.listed (.ok (sortById ((holding added).list filter))), _) = _
    rw [hsorted, list_eq_filter]
    rfl

/-! ## §4 Runs -/

/-- Where each operation is answered from what was added, so is each of a run. -/
theorem performEach_holding {r : Repository (StateM MemoryStore)}
    (hr : ∀ added op, r.perform (holding added) op = (op.outcome added, holding (op.addTo added)))
    (added : List NewIncident) (ops : List Operation) :
    r.performEach (holding added) ops =
      (Operation.outcomes added ops, holding (ops.foldl Operation.addTo added)) := by
  induction ops generalizing added with
  | nil => rfl
  | cons op ops ih =>
    simp only [Repository.performEach, hr, ih]
    rfl

/-- The identifiers are the places, none left out. -/
theorem map_id_numbered (news : List NewIncident) :
    (numbered 0 news).map Incident.id = (List.range news.length).map Int.ofNat := by
  -- place by place: the identifiers count from zero
  apply List.ext_getElem?
  intro n
  rw [List.getElem?_map, Relational.getElem?_numbered, List.getElem?_map]
  cases Nat.lt_or_ge n news.length with
  | inl hlt =>
    rw [List.getElem?_eq_getElem hlt, List.getElem?_range hlt]
    simp
  | inr hge =>
    rw [List.getElem?_eq_none hge, List.getElem?_eq_none (by simpa using hge)]
    rfl

/-- Whatever is asked of a store in memory that was empty, and of the service on top of it, is answered
    as an account of what was added answers it, and what the store has then is what was added, each
    under its place from zero on. So the identifiers are the numbers below the number of incidents
    and ascend, and nothing that is stored is ever altered. -/
theorem performEach_eq_account (ops : List Operation) :
    let added := Operation.news ops
    let stored := numbered 0 added
    repository.performEach .empty ops = (Operation.outcomes [] ops, ⟨stored⟩) ∧
    repository.service.performEach .empty ops = (Operation.outcomes [] ops, ⟨stored⟩) ∧
    stored.map Incident.id = (List.range added.length).map Int.ofNat ∧
    stored.Pairwise (fun a b => a.id < b.id) ∧
    ∀ more, stored <+: (repository.performEach .empty (ops ++ more)).2.incidents := by
  intro added stored
  refine ⟨performEach_holding perform_holding [] ops,
    performEach_holding perform_service_holding [] ops, map_id_numbered added,
    Relational.numbered_ascending 0 added, fun more => ?_⟩
  -- what is added later comes behind what was added before
  have hafter := performEach_holding perform_holding [] (ops ++ more)
  obtain ⟨others, hothers⟩ := Operation.isPrefix_addTo added more
  rw [List.foldl_append] at hafter
  show numbered 0 added <+: (repository.performEach (holding []) (ops ++ more)).2.incidents
  rw [hafter]
  show numbered 0 added <+: numbered 0 (more.foldl Operation.addTo added)
  rw [← hothers, Relational.numbered_append]
  exact List.prefix_append _ _

end MemoryStore

end IncidentTracker
