import IncidentTracker.Proofs.Dictionary
import IncidentTracker.Proofs.Relational.Script
import IncidentTracker.Relational.Store

/-!
# What a Database Stores

The incidents of a database, read off its two tables without joining them, and the invariant
under which joining and folding the joined rows comes to the same. Additions keep the invariant,
so after any run of additions to a fresh store the database stores exactly what was added, under
the identifiers from one on.

Main statements: `incidentsOf_eq_map`, `Database.stored_insert`, `Store.database_addEach`.
-/

namespace IncidentTracker.Relational

/-! ## §1 Folding joined rows -/

/-- The incident of a row and its attribute rows. -/
def Row.toIncident (row : Row) : Incident :=
  row.incident.toIncident (.ofList row.attributes)

/-- A row of an incident with a larger identifier passes all incidents with smaller ones. -/
theorem foldRow_append {row : JoinRow} {done : List Incident}
    (h : ∀ i ∈ done, i.id < row.incident.id) (rest : List Incident) :
    foldRow row (done ++ rest) = done ++ foldRow row rest := by
  induction done with
  | nil => rfl
  | cons i done ih =>
    -- the identifier of the row is neither that of the head nor smaller
    have hlt : i.id < row.incident.id := h i List.mem_cons_self
    rw [List.cons_append, foldRow, if_neg (by omega), if_neg (by omega),
      ih fun other hmem => h other (List.mem_cons_of_mem i hmem)]
    rfl

/-- Further rows of the last incident bring it their attributes. -/
theorem foldl_foldRow_last {row : IncidentRow} {done : List Incident} {attributes : Attributes}
    {entries : List (String × String)} (h : ∀ i ∈ done, i.id < row.id) :
    (entries.map fun entry => (⟨row, some entry⟩ : JoinRow)).foldl
        (fun incidents row => foldRow row incidents) (done ++ [row.toIncident attributes]) =
      done ++ [row.toIncident
        (entries.foldl (fun d entry => d.insert entry.1 entry.2) attributes)] := by
  induction entries generalizing attributes with
  | nil => rfl
  | cons entry entries ih =>
    -- the rows of one incident all go to the last one, as its identifier is the largest
    have hstep : foldRow ⟨row, some entry⟩ (done ++ [row.toIncident attributes]) =
        done ++ [row.toIncident (attributes.insert entry.1 entry.2)] := by
      rw [foldRow_append h]
      simp [foldRow, IncidentRow.toIncident, JoinRow.addTo]
    rw [List.map_cons, List.foldl_cons, hstep, ih, List.foldl_cons]

/-- The joined rows of an incident behind all others make that incident. -/
theorem foldl_foldRow_joined {row : Row} {done : List Incident}
    (h : ∀ i ∈ done, i.id < row.incident.id) :
    row.joined.foldl (fun incidents row => foldRow row incidents) done =
      done ++ [row.toIncident] := by
  obtain ⟨incident, attributes⟩ := row
  cases attributes with
  | nil =>
    -- an incident without attributes has a joined row all the same, which brings it none
    have hstep : foldRow ⟨incident, none⟩ (done ++ []) = _ := foldRow_append h []
    rw [List.append_nil] at hstep
    exact hstep
  | cons entry entries =>
    have hfirst : foldRow ⟨incident, some entry⟩ done =
        done ++ [incident.toIncident (Dictionary.empty.insert entry.1 entry.2)] := by
      have hstep : foldRow ⟨incident, some entry⟩ (done ++ []) = _ := foldRow_append h []
      rw [List.append_nil] at hstep
      exact hstep
    simp only [Row.joined, List.map_cons, List.foldl_cons]
    rw [hfirst]
    exact foldl_foldRow_last h

/-- Rows in ascending order of the identifiers are put together to their incidents. -/
theorem incidentsOf_eq_map {rows : List Row}
    (h : rows.Pairwise fun a b => a.incident.id < b.incident.id) :
    incidentsOf rows = rows.map Row.toIncident := by
  -- the incidents made so far are a prefix, all of them before the rows that are left
  have hprefix : ∀ done : List Incident,
      (∀ i ∈ done, ∀ row ∈ rows, i.id < row.incident.id) →
      (rows.flatMap Row.joined).foldl (fun incidents row => foldRow row incidents) done =
        done ++ rows.map Row.toIncident := by
    induction rows with
    | nil => simp
    | cons row rows ih =>
      intro done hdone
      obtain ⟨hrow, hrows⟩ := List.pairwise_cons.mp h
      have hnext : ∀ i ∈ done ++ [row.toIncident], ∀ other ∈ rows, i.id < other.incident.id := by
        intro i hi other hother
        rcases List.mem_append.mp hi with hi | hi
        · exact hdone i hi other (List.mem_cons_of_mem row hother)
        · rw [List.mem_singleton.mp hi]
          exact hrow other hother
      rw [List.flatMap_cons, List.foldl_append,
        foldl_foldRow_joined fun i hi => hdone i hi row List.mem_cons_self, ih hrows _ hnext]
      simp
  exact hprefix [] (by simp)

/-- Identifiers in ascending order are distinct. -/
theorem nodup_map_id {incidents : List Incident} (h : incidents.Pairwise fun a b => a.id < b.id) :
    (incidents.map Incident.id).Nodup :=
  List.pairwise_map.mpr (h.imp Int.ne_of_lt)

/-- Where identifiers are distinct, an incident is among some incidents exactly if it is the one that is
    found under its identifier. -/
theorem mem_iff_find? {incidents : List Incident} (h : (incidents.map Incident.id).Nodup)
    {i : Incident} : i ∈ incidents ↔ incidents.find? (fun j => j.id == i.id) = some i := by
  refine ⟨fun hi => ?_, List.mem_of_find?_eq_some⟩
  induction incidents with
  | nil => cases hi
  | cons first rest ih =>
    rw [List.map_cons, List.nodup_cons] at h
    rcases List.mem_cons.mp hi with rfl | hi
    · exact List.find?_cons_of_pos (by simp)
    · -- those before it have other identifiers
      have hne : first.id ≠ i.id := fun heq => h.1 (heq ▸ List.mem_map_of_mem hi)
      rw [List.find?_cons_of_neg (by simpa using hne)]
      exact ih h.2 hi

/-! ## §2 Databases in order -/

/-- What holds of every database: rows of incidents ascend, no identifier lies beyond the largest
    one given, and the attributes of an incident ascend by name. -/
structure Database.WellFormed (db : Database) : Prop where
  ascending : db.incidents.Pairwise fun a b => a.id < b.id
  given : ∀ row ∈ db.incidents, row.id ≤ db.lastId
  owned : ∀ row ∈ db.attributes, row.incidentId ≤ db.lastId
  named : ∀ id, (db.attributesOf id).Pairwise fun a b => a.1 < b.1

namespace Database

/-- Whether a database is in order depends on its rows only. -/
theorem WellFormed.of_sameRows {db db' : Database} (h : db.WellFormed) (hrows : SameRows db db') :
    db'.WellFormed where
  ascending := hrows.incidents ▸ h.ascending
  given := hrows.incidents ▸ hrows.lastId ▸ h.given
  owned := hrows.attributes ▸ hrows.lastId ▸ h.owned
  named id := by
    rw [attributesOf, hrows.attributes]
    exact h.named id

theorem wellFormed_blank : blank.WellFormed where
  ascending := .nil
  given := nofun
  owned := nofun
  named _ := .nil

theorem wellFormed_migrate {db : Database} (h : db.WellFormed) (now : Int) :
    (db.migrate now).WellFormed :=
  h.of_sameRows (db.sameRows_migrate now)

/-- The incidents that a database stores. -/
def stored (db : Database) : List Incident :=
  db.rows.map Row.toIncident

theorem rows_pairwise {db : Database} (h : db.WellFormed) :
    db.rows.Pairwise fun a b => a.incident.id < b.incident.id :=
  List.pairwise_map.mpr h.ascending

/-- Incidents are stored in ascending order of their identifiers, so each is stored once. -/
theorem stored_pairwise {db : Database} (h : db.WellFormed) :
    db.stored.Pairwise fun a b => a.id < b.id :=
  List.pairwise_map.mpr (rows_pairwise h)

/-- A row's attributes are those of its incident. -/
theorem entries_toIncident {db : Database} (h : db.WellFormed) {row : Row} (hrow : row ∈ db.rows) :
    row.toIncident.attributes.entries = row.attributes := by
  obtain ⟨incident, -, rfl⟩ := List.mem_map.mp hrow
  exact Dictionary.entries_foldl_insert (d := .empty) (h.named incident.id)

/-! ## §3 Additions -/

/-- A new incident brings its attributes, and those of the others stay as they are. -/
theorem attributesOf_insert {db : Database} (h : db.WellFormed) (new : NewIncident) (id : Int) :
    (db.insert new).2.attributesOf id =
      if id = db.lastId + 1 then new.attributes.entries else db.attributesOf id := by
  have hattributes : (db.insert new).2.attributes =
      db.attributes ++ new.attributes.entries.map fun entry =>
        ⟨db.lastId + 1, entry.1, entry.2⟩ := rfl
  rw [attributesOf, hattributes, List.filter_append, List.map_append]
  by_cases hid : id = db.lastId + 1
  · -- no attribute has been stored under an identifier that was not given yet
    have hold : db.attributes.filter (fun row => row.incidentId == id) = [] := by
      refine List.filter_eq_nil_iff.mpr fun row hrow => ?_
      have hle := h.owned row hrow
      simp only [beq_iff_eq]
      omega
    rw [hold, if_pos hid]
    simp [List.filter_map, Function.comp_def, hid]
  · -- under another identifier nothing is added
    rw [if_neg hid]
    simp [List.filter_map, Function.comp_def, attributesOf, Ne.symm hid]

/-- The rows after an addition are those before it and one more. -/
theorem rows_insert {db : Database} (h : db.WellFormed) (new : NewIncident) :
    (db.insert new).2.rows = db.rows ++
      [⟨⟨db.lastId + 1, new.kind, new.description, new.reporter, new.state⟩,
        new.attributes.entries⟩] := by
  have hincidents : (db.insert new).2.incidents = db.incidents ++
      [⟨db.lastId + 1, new.kind, new.description, new.reporter, new.state⟩] := rfl
  -- the rows that were there keep their attributes, for they have smaller identifiers
  have hold : (db.incidents.map fun row => (⟨row, (db.insert new).2.attributesOf row.id⟩ : Row)) =
      db.rows := by
    refine List.map_congr_left fun row hrow => ?_
    have hle := h.given row hrow
    rw [attributesOf_insert h, if_neg (by omega)]
  rw [rows, hincidents, List.map_append, hold, List.map_singleton, attributesOf_insert h,
    if_pos rfl]

/-- An addition stores the new incident behind all others, under the next identifier. -/
theorem stored_insert {db : Database} (h : db.WellFormed) (new : NewIncident) :
    (db.insert new).2.stored = db.stored ++ [new.withId (db.lastId + 1)] := by
  rw [stored, rows_insert h, List.map_append, List.map_singleton, stored, Row.toIncident,
    Dictionary.ofList_entries]
  rfl

theorem wellFormed_insert {db : Database} (h : db.WellFormed) (new : NewIncident) :
    (db.insert new).2.WellFormed where
  ascending := by
    -- the new row is the last one, and its identifier is above the counter
    refine List.pairwise_append.mpr ⟨h.ascending, List.pairwise_singleton _ _, ?_⟩
    intro row hrow last hlast
    have hle := h.given row hrow
    rw [List.mem_singleton.mp hlast]
    show row.id < (db.lastId : Int) + 1
    omega
  given := by
    intro row hrow
    show row.id ≤ ((db.lastId + 1 : Nat) : Int)
    rcases List.mem_append.mp hrow with hrow | hrow
    · -- the counter has moved on by one, which is the identifier of the new row
      have hle := h.given row hrow
      omega
    · rw [List.mem_singleton.mp hrow]
      exact Int.le_of_eq (by simp)
  owned := by
    intro row hrow
    show row.incidentId ≤ ((db.lastId + 1 : Nat) : Int)
    rcases List.mem_append.mp hrow with hrow | hrow
    · have hle := h.owned row hrow
      omega
    · obtain ⟨entry, -, rfl⟩ := List.mem_map.mp hrow
      exact Int.le_of_eq (by simp)
  named := by
    intro id
    rw [attributesOf_insert h]
    split
    · exact new.attributes.ascending
    · exact h.named id

end Database

/-! ## §4 Runs of additions -/

/-- New incidents as they are stored one after the other, the first under the given identifier. -/
def numbered (first : Int) : List NewIncident → List Incident
  | [] => []
  | new :: news => new.withId first :: numbered (first + 1) news

theorem numbered_append (first : Int) (news others : List NewIncident) :
    numbered first (news ++ others) =
      numbered first news ++ numbered (first + news.length) others := by
  induction news generalizing first with
  | nil => simp [numbered]
  | cons new news ih =>
    have hnext : first + 1 + (news.length : Int) = first + ((new :: news).length : Int) := by
      rw [List.length_cons]
      omega
    rw [List.cons_append, numbered, ih, numbered, List.cons_append, hnext]

theorem numbered_concat (first : Int) (news : List NewIncident) (new : NewIncident) :
    numbered first (news ++ [new]) =
      numbered first news ++ [new.withId (first + news.length)] :=
  numbered_append first news [new]

/-- Who is numbered in order is found by counting. -/
theorem find?_numbered (first id : Int) (news : List NewIncident) :
    (numbered first news).find? (fun i => i.id == id) =
      if first ≤ id then (news[(id - first).toNat]?).map (·.withId id) else none := by
  -- the first of them has the identifier, or it is one place less to count from there
  induction news generalizing first with
  | nil => simp [numbered]
  | cons new news ih =>
    rw [numbered, List.find?_cons, NewIncident.id_withId, ih]
    by_cases heq : first = id
    · simp [heq]
    · rw [beq_eq_false_iff_ne.mpr heq]
      by_cases hle : first ≤ id
      · have hplace : (id - first).toNat = (id - (first + 1)).toNat + 1 := by omega
        rw [if_pos hle, if_pos (by omega), hplace, List.getElem?_cons_succ]
      · rw [if_neg hle, if_neg (by omega)]

theorem getElem?_numbered (first : Int) (news : List NewIncident) (n : Nat) :
    (numbered first news)[n]? = (news[n]?).map (·.withId (first + n)) := by
  induction news generalizing first n with
  | nil => rfl
  | cons new news ih =>
    cases n with
    | zero => simp [numbered]
    | succ n =>
      rw [numbered, List.getElem?_cons_succ, List.getElem?_cons_succ, ih, Int.natCast_succ,
        Int.add_assoc, Int.add_comm 1 (n : Int)]

theorem length_numbered (first : Int) (news : List NewIncident) :
    (numbered first news).length = news.length := by
  induction news generalizing first with
  | nil => rfl
  | cons new news ih => rw [numbered, List.length_cons, List.length_cons, ih]

theorem mem_numbered {first : Int} {news : List NewIncident} {i : Incident}
    (h : i ∈ numbered first news) : first ≤ i.id ∧ i.id < first + news.length := by
  obtain ⟨n, hn⟩ := List.mem_iff_getElem?.mp h
  rw [getElem?_numbered, Option.map_eq_some_iff] at hn
  obtain ⟨new, hnew, rfl⟩ := hn
  have hlt := (List.getElem?_eq_some_iff.mp hnew).1
  rw [NewIncident.id_withId]
  omega

theorem numbered_ascending (first : Int) (news : List NewIncident) :
    (numbered first news).Pairwise fun a b => a.id < b.id := by
  induction news generalizing first with
  | nil => exact .nil
  | cons new news ih =>
    refine List.pairwise_cons.mpr ⟨fun i hi => ?_, ih (first + 1)⟩
    have hle := (mem_numbered hi).1
    rw [NewIncident.id_withId]
    omega

namespace Store

/-- Adds incidents one after the other: the answers, and the store that is left. -/
def addEach (s : Store) : List NewIncident → List (Except Error Incident) × Store
  | [] => ([], s)
  | new :: news =>
    let (answer, s) := s.add new
    let (answers, s) := s.addEach news
    (answer :: answers, s)

/-- What additions, and everything else but closing, find in a store in use: one connection that
    may write to a database with tables. -/
structure Usable (s : Store) : Prop where
  isOpen : s.isOpen = true
  isWritable : s.isReadOnly = false
  isShared : s.spare = none
  hasTables : s.database.hasTables = true

/-- An addition to a usable store succeeds. -/
theorem add_eq {s : Store} (h : s.Usable) (new : NewIncident) :
    s.add new =
      (.ok (s.database.insert new).1, { s with database := (s.database.insert new).2 }) := by
  simp [add, act, next, h.isOpen, h.isWritable, h.hasTables, h.isShared]

theorem usable_add {s : Store} (h : s.Usable) (new : NewIncident) : (s.add new).2.Usable := by
  rw [add_eq h]
  exact ⟨h.isOpen, h.isWritable, h.isShared, h.hasTables⟩

theorem semantics_add {s : Store} (h : s.Usable) (new : NewIncident) :
    (s.add new).2.semantics = s.semantics := by
  rw [add_eq h]

/-- What a run of additions to a usable store leaves behind. -/
structure Extended (s : Store) (news : List NewIncident) (result : Store) : Prop where
  usable : result.Usable
  wellFormed : result.database.WellFormed
  semantics : result.semantics = s.semantics
  stored : result.database.stored =
    s.database.stored ++ numbered (s.database.lastId + 1) news

/-- Every addition of a run succeeds and stores the next incident. -/
theorem addEach_spec {s : Store} (h : s.Usable) (hdb : s.database.WellFormed)
    (news : List NewIncident) :
    (s.addEach news).1 = (numbered (s.database.lastId + 1) news).map .ok ∧
      Extended s news (s.addEach news).2 := by
  induction news generalizing s with
  | nil => exact ⟨rfl, h, hdb, rfl, by simp [addEach, numbered]⟩
  | cons new news ih =>
    -- one addition leaves a usable store on a database in order, where the rest of the run begins
    have hadd := add_eq h new
    have hafter : (s.add new).2.database = (s.database.insert new).2 := by rw [hadd]
    have hlast : (s.add new).2.database.lastId = s.database.lastId + 1 := by
      rw [hafter]
      rfl
    obtain ⟨hanswers, hrest⟩ := ih (usable_add h new)
      (by rw [hafter]; exact Database.wellFormed_insert hdb new)
    rw [hlast, Int.natCast_add, Int.natCast_one] at hanswers
    refine ⟨?_, hrest.usable, hrest.wellFormed, ?_, ?_⟩
    · show (s.add new).1 :: ((s.add new).2.addEach news).1 = _
      rw [hanswers, hadd]
      rfl
    · rw [addEach, hrest.semantics, semantics_add h]
    · rw [addEach, hrest.stored, hafter, Database.stored_insert hdb, numbered, List.append_assoc]
      rfl

/-! ## §5 Fresh stores -/

/-- The store of a given semantics on a database that has just been created at some time, with or
    without a log of changes. -/
def fresh (semantics : Filtering.Semantics) (hasLog : Bool) (now : Int) : Store :=
  start semantics { Database.blank with hasLog := hasLog } now

variable (semantics : Filtering.Semantics) (hasLog : Bool) (now : Int)

theorem usable_fresh : (fresh semantics hasLog now).Usable :=
  ⟨rfl, rfl, rfl, rfl⟩

theorem wellFormed_fresh : (fresh semantics hasLog now).database.WellFormed := by
  have hcreated : ({ Database.blank with hasLog := hasLog } : Database).WellFormed :=
    Database.wellFormed_blank.of_sameRows ⟨rfl, rfl, rfl⟩
  exact Database.wellFormed_migrate hcreated now

end Store

end IncidentTracker.Relational
