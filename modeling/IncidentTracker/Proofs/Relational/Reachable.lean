import IncidentTracker.Proofs.Relational.Stored
import IncidentTracker.Proofs.Relational.Truth

/-!
# Reachable Stores

The stores that using the program can lead to: a database is begun, worked with, closed, and opened
again, maybe in another semantics or from a location that only allows reading. Whatever was done,
the tables exist and are in order.

Databases of which every connection has one of its own are left out; they are not kept, and one of
the two has no tables.

Main statements: `Store.Reachable.ready` and `Database.select_eq_filter`.
-/

namespace IncidentTracker.Relational

/-! ## §1 Stores in order -/

namespace Database

/-- Turning to the log of changes changes nothing else. -/
theorem joinLog_eq {db db' : Database} {l : Location} (h : db.joinLog l = .ok db') :
    db' = { db with hasLog := db'.hasLog } := by
  unfold joinLog at h
  split at h
  · cases h
    rfl
  · split at h <;> split at h
    all_goals try split at h
    all_goals cases h
    all_goals rfl

/-- Turning to the log of changes touches no row. -/
theorem sameRows_joinLog {db db' : Database} {l : Location} (h : db.joinLog l = .ok db') :
    SameRows db db' := by
  rw [joinLog_eq h]
  exact ⟨rfl, rfl, rfl⟩

theorem hasTables_joinLog {db db' : Database} {l : Location} (h : db.joinLog l = .ok db') :
    db'.hasTables = db.hasTables := by
  rw [joinLog_eq h]
  rfl

/-- A version that fits is not refused. -/
theorem checkVersion_eq_ok {db : Database}
    (h : ∀ version ∈ db.version, -2147483648 ≤ version ∧ version ≤ 2147483647) :
    db.checkVersion = .ok () := by
  unfold checkVersion
  split
  · rfl
  · next version hversion =>
    obtain ⟨hlow, hhigh⟩ := h version hversion
    rw [if_neg (by omega), if_neg (by omega)]

end Database

namespace Store

/-- What holds of every store: it has one database, whose tables exist and are in order. -/
structure Ready (s : Store) : Prop where
  isShared : s.spare = none
  hasTables : s.database.hasTables = true
  wellFormed : s.database.WellFormed

variable {s s' : Store}

@[simp] theorem Ready.next (h : s.Ready) : s.next = s := by
  simp [Store.next, h.isShared]

theorem ready_startAt {semantics : Filtering.Semantics} {l : Location} {db : Database} {now : Int}
    (hshared : l.isPrivate = false) (hdb : db.WellFormed) (htables : db.hasTables = true)
    (h : startAt semantics l db now = .ok s) : s.Ready := by
  unfold startAt at h
  cases hversion : db.checkVersion with
  | error e => simp [hversion, Bind.bind, Except.bind] at h
  | ok _ =>
    rw [hversion] at h
    simp only [Bind.bind, Except.bind, hshared] at h
    -- where nothing can be changed the database is used as it is, and else it is migrated
    split at h
    · unfold startReading at h
      split at h
      · cases h
        exact ⟨rfl, htables, hdb⟩
      · cases h
    · cases h
      exact ⟨rfl, Database.hasTables_migrate (fun _ => htables) now,
        Database.wellFormed_migrate hdb now⟩

/-- An addition to a store that is closed, or that may only be read, fails and changes nothing. -/
theorem usable_or_add_eq_error (h : s.Ready) (new : NewIncident) :
    s.Usable ∨ ∃ e, s.add new = (.error e, s) := by
  cases hopen : s.isOpen with
  | false => exact .inr ⟨.closed, by simp [add, act, hopen]⟩
  | true =>
    cases hreading : s.isReadOnly with
    | true => exact .inr ⟨.readOnly, by simp [add, hopen, hreading]⟩
    | false => exact .inl ⟨hopen, hreading, h.isShared, h.hasTables⟩

theorem ready_add (h : s.Ready) (new : NewIncident) : (s.add new).2.Ready := by
  obtain husable | ⟨e, hfailed⟩ := usable_or_add_eq_error h new
  · rw [add_eq husable]
    exact ⟨h.isShared, h.hasTables, Database.wellFormed_insert h.wellFormed new⟩
  · rw [hfailed]
    exact h

theorem ask_snd (h : s.Ready) {α : Type} (question : Database → Except Error α) :
    (s.ask question).2 = s := by
  unfold ask
  split
  · rfl
  · split <;> exact h.next

/-! ## §2 Reachable stores -/

/-- The stores that the program can lead to. -/
inductive Reachable : Store → Prop
  /-- A database has just been begun. -/
  | begun (semantics : Filtering.Semantics) (hasLog : Bool) (now : Int) :
    Reachable (fresh semantics hasLog now)
  | added {s : Store} (new : NewIncident) : Reachable s → Reachable (s.add new).2
  | sought {s : Store} (id : Int) : Reachable s → Reachable (s.get id).2
  | listed {s : Store} (filter : Option Filtering.Request) : Reachable s →
    Reachable (s.list filter).2
  | closed {s : Store} : Reachable s → Reachable s.close
  /-- The database that was left is opened again at some location and time. -/
  | reopened {s s' : Store} {db : Database} (semantics : Filtering.Semantics) (l : Location)
      (now : Int) (hshared : l.isPrivate = false) (hlog : s.database.joinLog l = .ok db)
      (hstart : startAt semantics l db now = .ok s') : Reachable s → Reachable s'

/-- Every store that can be reached is in order. -/
theorem Reachable.ready (h : s.Reachable) : s.Ready := by
  -- one case for each way in which a store is reached
  induction h with
  | begun semantics hasLog now =>
    have husable := usable_fresh semantics hasLog now
    exact ⟨husable.isShared, husable.hasTables, wellFormed_fresh semantics hasLog now⟩
  | added new _ ih => exact ready_add ih new
  | sought id _ ih => exact (ask_snd ih _).symm ▸ ih
  | listed filter _ ih => exact (ask_snd ih _).symm ▸ ih
  | closed _ ih => exact ⟨ih.isShared, ih.hasTables, ih.wellFormed⟩
  | reopened semantics l now hshared hlog hstart _ ih =>
    exact ready_startAt hshared (ih.wellFormed.of_sameRows (Database.sameRows_joinLog hlog))
      ((Database.hasTables_joinLog hlog).trans ih.hasTables) hstart

/-- Additions lead from a reachable store to reachable stores. -/
theorem Reachable.addEach (h : s.Reachable) (news : List NewIncident) :
    (s.addEach news).2.Reachable := by
  induction news generalizing s with
  | nil => exact h
  | cons new news ih => exact ih (h.added new)

/-! ## §3 Queries -/

/-- What an open store in order lists is what its database selects. -/
theorem list_eq_select (h : s.Ready) (hopen : s.isOpen = true)
    (filter : Option Filtering.Request) :
    (s.list filter).1 = s.database.select (Clause.ofFilter s.semantics filter) := by
  simp [list, ask, hopen, h.hasTables]

end Store

/-- If the database accepts a clause and every row has an answer, it selects the incidents of the
    rows with the answer yes. -/
theorem Database.select_eq_filter {db : Database} (h : db.WellFormed) {clause : Clause}
    {wanted : Incident → Bool} (hlimits : clause.checkLimits = .ok ())
    (hrows : ∀ row ∈ db.rows, clause.holds row = .ok (wanted row.toIncident)) :
    db.select clause = .ok (db.stored.filter wanted) := by
  have hpairwise := (rows_pairwise h).filter fun row => wanted row.toIncident
  rw [select, hlimits, Clause.keep_eq_filter hrows]
  simp only [Bind.bind, Except.bind, incidentsOf_eq_map hpairwise, stored, List.filter_map]
  rfl

/-- Without a clause it selects all incidents. -/
theorem Database.select_unfiltered {db : Database} (h : db.WellFormed) :
    db.select .unfiltered = .ok db.stored := by
  have hselect : db.select .unfiltered = .ok (db.stored.filter fun _ => true) :=
    select_eq_filter h rfl fun _ _ => rfl
  rw [hselect, List.filter_eq_self.mpr fun _ _ => rfl]

end IncidentTracker.Relational
