import IncidentTracker.Proofs.Relational.Listing
import IncidentTracker.Proofs.Relational.Reachable

/-!
# Whole Incidents

A query joins the rows of incidents with those of their attributes, but its clause is asked of an
incident with all its attributes at once. So a list with a filter consists of some of the incidents
that are there, each as it is stored: in the order of the list without a filter, with all that it
has, and as it is found by its identifier.

Nothing is asked here of texts, of the semantics or of connections; a store of which every
connection has a database of its own is no exception.

Main statement: `Store.list_sublist`.
-/

namespace IncidentTracker.Relational

/-! ## §1 Selections -/

/-- Whatever clause is tested, the rows that are kept are kept in their order. -/
theorem Clause.keep_sublist {clause : Clause} {rows kept : List Row}
    (h : clause.keep rows = .ok kept) : kept.Sublist rows := by
  induction rows generalizing kept with
  | nil =>
    cases h
    exact List.Sublist.slnil
  | cons row rows ih =>
    -- the row has an answer, and so have those behind it
    obtain ⟨wanted, -, h⟩ := bind_eq_ok_iff.mp h
    obtain ⟨others, hothers, h⟩ := bind_eq_ok_iff.mp h
    have hsublist := ih hothers
    cases h
    cases wanted with
    | true => exact hsublist.cons_cons row
    | false => exact hsublist.cons row

namespace Database

variable {db : Database}

/-- What is selected are some of the incidents that are stored, in their order. -/
theorem select_sublist (hdb : db.WellFormed) {clause : Clause} {selected : List Incident}
    (h : db.select clause = .ok selected) : selected.Sublist db.stored := by
  obtain ⟨_, -, h⟩ := bind_eq_ok_iff.mp h
  obtain ⟨kept, hkept, h⟩ := bind_eq_ok_iff.mp h
  have hrows := Clause.keep_sublist hkept
  cases h
  rw [incidentsOf_eq_map ((rows_pairwise hdb).sublist hrows)]
  exact hrows.map Row.toIncident

/-- An incident that is stored has the attributes that are stored under its identifier. -/
theorem entries_of_mem_stored (hdb : db.WellFormed) {i : Incident} (hi : i ∈ db.stored) :
    i.attributes.entries = db.attributesOf i.id := by
  obtain ⟨row, hrow, rfl⟩ := List.mem_map.mp hi
  rw [entries_toIncident hdb hrow]
  obtain ⟨incident, -, rfl⟩ := List.mem_map.mp hrow
  rfl

/-- An incident that is stored is found by its identifier. -/
theorem find?_of_mem_stored (hdb : db.WellFormed) {i : Incident} (hi : i ∈ db.stored) :
    db.find? i.id = some i := by
  rw [find?_eq hdb]
  exact (mem_iff_find? (nodup_map_id (stored_pairwise hdb))).mp hi

end Database

namespace Store

/-! ## §2 All stores -/

variable {s : Store}

/-- The stores that the program can lead to, private databases included: there the connections take
    turns, and what is done on one of them is not seen on the other. -/
inductive Attainable : Store → Prop
  /-- A database is begun at some location and time. -/
  | begun {s : Store} {db : Database} (semantics : Filtering.Semantics) (l : Location) (now : Int)
      (hlog : Database.blank.joinLog l = .ok db) (hstart : startAt semantics l db now = .ok s) :
      Attainable s
  | added {s : Store} (new : NewIncident) : Attainable s → Attainable (s.add new).2
  | sought {s : Store} (id : Int) : Attainable s → Attainable (s.get id).2
  | listed {s : Store} (filter : Option Filtering.Request) : Attainable s →
    Attainable (s.list filter).2
  | closed {s : Store} : Attainable s → Attainable s.close
  /-- The database that was left is opened again at some location and time. -/
  | reopened {s s' : Store} {db : Database} (semantics : Filtering.Semantics) (l : Location)
      (now : Int) (hlog : s.database.joinLog l = .ok db)
      (hstart : startAt semantics l db now = .ok s') : Attainable s → Attainable s'

/-- All databases of a store are in order, whether they have tables or not. -/
structure InOrder (s : Store) : Prop where
  wellFormed : s.database.WellFormed
  spare : ∀ db, s.spare = some db → db.WellFormed

/-- Taking turns changes no database. -/
theorem InOrder.next (h : s.InOrder) : s.next.InOrder := by
  unfold Store.next
  split
  · exact h
  · next db hspare =>
    refine ⟨h.spare db hspare, ?_⟩
    rintro _ ⟨⟩
    exact h.wellFormed

theorem InOrder.ask (h : s.InOrder) {α : Type} (question : Database → Except Error α) :
    (s.ask question).2.InOrder := by
  unfold Store.ask
  split
  · exact h
  · split <;> exact h.next

theorem InOrder.add (h : s.InOrder) (new : NewIncident) : (s.add new).2.InOrder := by
  unfold Store.add act
  split
  · exact h
  · split
    · exact h
    · split
      · exact h.next
      · -- the connection whose turn it is takes in the incident, and then it is that of the other
        have hadded : InOrder { s with database := (s.database.insert new).2 } :=
          ⟨Database.wellFormed_insert h.wellFormed new, h.spare⟩
        exact hadded.next

theorem InOrder.startAt {semantics : Filtering.Semantics} {l : Location} {db : Database}
    {now : Int} (hdb : db.WellFormed) (h : startAt semantics l db now = .ok s) : s.InOrder := by
  have hmigrated := Database.wellFormed_migrate hdb now
  obtain ⟨_, -, h⟩ := bind_eq_ok_iff.mp h
  split at h
  · -- what may only be read is used as it is
    unfold startReading at h
    split at h
    · cases h
      exact ⟨hdb, nofun⟩
    · cases h
  · cases h
    -- a private database is looked at as it is found, and its spare is the one that is migrated
    split
    · refine ⟨hdb, ?_⟩
      rintro _ ⟨⟩
      exact hmigrated
    · exact ⟨hmigrated, nofun⟩

theorem Attainable.inOrder (h : s.Attainable) : s.InOrder := by
  -- joining the log leaves all rows alone
  have hjoined {db db' : Database} {l : Location} (hdb : db.WellFormed)
      (hlog : db.joinLog l = .ok db') : db'.WellFormed :=
    hdb.of_sameRows (Database.sameRows_joinLog hlog)
  induction h with
  | begun semantics l now hlog hstart =>
    exact .startAt (hjoined Database.wellFormed_blank hlog) hstart
  | added new _ ih => exact ih.add new
  | sought id _ ih => exact ih.ask _
  | listed filter _ ih => exact ih.ask _
  | closed _ ih => exact ⟨ih.wellFormed, ih.spare⟩
  | reopened semantics l now hlog hstart _ ih => exact .startAt (hjoined ih.wellFormed hlog) hstart

/-- Leaving out private databases leaves out stores only. -/
theorem Reachable.attainable (h : s.Reachable) : s.Attainable := by
  induction h with
  | begun semantics hasLog now =>
    -- a database in memory stands for the fresh store; only its log matters
    let l : Location := { file := none, sharesLog := hasLog }
    cases hasLog with
    | true => exact .begun semantics l now rfl rfl
    | false => exact .begun semantics l now rfl rfl
  | added new _ ih => exact ih.added new
  | sought id _ ih => exact ih.sought id
  | listed filter _ ih => exact ih.listed filter
  | closed _ ih => exact ih.closed
  | reopened semantics l now _ hlog hstart _ ih => exact ih.reopened semantics l now hlog hstart

/-! ## §3 Lists -/

/-- A question is answered by an open store whose tables exist, as its database answers it. -/
theorem ask_eq_ok_iff {α : Type} {question : Database → Except Error α} {answer : α} :
    (s.ask question).1 = .ok answer ↔
      s.isOpen = true ∧ s.database.hasTables = true ∧ question s.database = .ok answer := by
  unfold ask
  cases s.isOpen with
  | false => simp
  | true =>
    cases s.database.hasTables with
    | false => simp
    | true => simp

/-- A filter leaves out incidents, but nothing of an incident. If a list with a filter succeeds, so
    does the list without one, and what is listed is a part of that in the same order: no incident is
    listed twice, and each has all attributes that are stored for it and is what is found by its
    identifier. -/
theorem list_sublist (hs : s.Attainable) {filter : Option Filtering.Request}
    {listed : List Incident} (h : (s.list filter).1 = .ok listed) :
    ∃ all, (s.list none).1 = .ok all ∧ listed.Sublist all ∧
      (listed.Pairwise fun a b => a.id < b.id) ∧
      ∀ i ∈ listed, i.attributes.entries = s.database.attributesOf i.id ∧
        (s.get i.id).1 = .ok (some i) := by
  have hdb := hs.inOrder.wellFormed
  -- a list that succeeds shows that the store is open and has its tables, so the others do too
  obtain ⟨hopen, htables, hselect⟩ := ask_eq_ok_iff.mp h
  have hsublist := Database.select_sublist hdb hselect
  refine ⟨s.database.stored, ?_, hsublist, ?_, ?_⟩
  · exact ask_eq_ok_iff.mpr ⟨hopen, htables, Database.select_unfiltered hdb⟩
  · exact (Database.stored_pairwise hdb).sublist hsublist
  · intro i hi
    have hstored := hsublist.subset hi
    refine ⟨Database.entries_of_mem_stored hdb hstored, ask_eq_ok_iff.mpr ⟨hopen, htables, ?_⟩⟩
    rw [Database.find?_of_mem_stored hdb hstored]

theorem list_sublist_attribute :
    let bug : NewIncident :=
      ⟨"Bug", "Crash", "ann", "Open",
        .ofList [("Area", "UI"), ("Team", "Größe"), ("team", "a\x00b"), ("Ärger", "")]⟩
    let r : Filtering.Request := ⟨.and, [.group .or [⟨"AREA", .equals, "ui"⟩]]⟩
    let s := ((fresh .consistent true 0).addEach [bug, { kind := "Task" }, bug]).2
    (s.list (some r)).1 = .ok [bug.withId 1, bug.withId 3] ∧
      bug.attributes.entries = s.database.attributesOf 3 ∧
      (s.get 3).1 = .ok (some (bug.withId 3)) := by
  intro bug r s
  have hs : s.Reachable := (Reachable.begun .consistent true 0).addEach _
  have hlist : (s.list (some r)).1 = .ok [bug.withId 1, bug.withId 3] := by decide +kernel
  obtain ⟨_, -, -, -, hwhole⟩ := list_sublist hs.attainable hlist
  exact ⟨hlist, hwhole (bug.withId 3) (by simp)⟩

end Store

end IncidentTracker.Relational
