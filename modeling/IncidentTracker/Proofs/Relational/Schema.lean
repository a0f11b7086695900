import IncidentTracker.Proofs.Relational.WholeIncidents

/-!
# The Schema Applied Again

A database is brought up to date by a script that creates each part of the schema unless it exists,
and then puts the current version and the time into the only row that the table `schema_version` may
have, replacing what is there. A database that notes the current version, or a later one, is left as
it is.

Whatever was done with a database before, whether it has tables or not, and whatever version it notes
or whether it notes none, migrating it loses no row and no identifier, leaves the larger one of the
two versions, and changes nothing when it is done once more, not even the time that was noted.

Main statement: `Store.migrate_takeEach`.
-/

namespace IncidentTracker.Relational

/-! ## §1 Orderly databases -/

/-- The whole schema, in the order in which the script creates it. -/
def SchemaPart.all : List SchemaPart :=
  [.versions, .incidents, .attributes, .attributeNames]

namespace Database

/-- What holds of every database that is used as it should be: the whole schema has been created or
    nothing of it, one version is noted at most, and it fits a signed 32-bit word. -/
structure Orderly (db : Database) : Prop where
  created : db.created = SchemaPart.all ∨ db.created = [] ∧ db.versionRows = []
  single : db.versionRows = [] ∨ ∃ version time, db.versionRows = [⟨1, version, time⟩]
  fits : ∀ version ∈ db.version, -2147483648 ≤ version ∧ version ≤ 2147483647

/-- A database with the whole schema and one version, noted at a time. -/
def complete (db : Database) (version time : Int) : Database :=
  { db with versionRows := [⟨1, version, time⟩], created := SchemaPart.all }

variable {db db' : Database} {now : Int}

theorem orderly_blank : blank.Orderly :=
  ⟨.inr ⟨rfl, rfl⟩, .inl rfl, nofun⟩

theorem orderly_complete (db : Database) {version : Int} (time : Int)
    (h : -2147483648 ≤ version ∧ version ≤ 2147483647) : (db.complete version time).Orderly where
  created := .inl rfl
  single := .inr ⟨version, time, rfl⟩
  fits := by
    rintro _ ⟨⟩
    exact h

theorem Orderly.joinLog {l : Location} (h : db.Orderly) (hlog : db.joinLog l = .ok db') :
    db'.Orderly := by
  rw [joinLog_eq hlog]
  exact ⟨h.created, h.single, h.fits⟩

/-- Where there are tables, there is the whole schema. -/
theorem Orderly.created_eq (h : db.Orderly) (htables : db.hasTables = true) :
    db.created = SchemaPart.all := by
  refine h.created.resolve_right fun ⟨hnothing, _⟩ => ?_
  have hversions := hasTables_iff.mp htables .versions (by decide)
  rw [hnothing] at hversions
  cases hversions

/-- A row of an incident can be stored where there are tables. -/
theorem Orderly.insert (h : db.Orderly) (htables : db.hasTables = true) (new : NewIncident) :
    (db.insert new).2.Orderly :=
  ⟨.inl (h.created_eq htables), h.single, h.fits⟩

/-- Nothing is noted beside the row that is replaced. -/
theorem Orderly.noOtherVersion (h : db.Orderly) :
    db.versionRows.filter (fun row => row.id != 1) = [] := by
  obtain hrows | ⟨version, time, hrows⟩ := h.single <;> rw [hrows] <;> rfl

/-- The one row of the table of versions can be overwritten and removed where there are tables. -/
theorem Orderly.setVersion (h : db.Orderly) (htables : db.hasTables = true)
    (version : Option Int32) (time : Int) :
    (db.setVersion (version.map Int32.toInt) time).Orderly where
  created := .inl (h.created_eq htables)
  single := by
    -- what was noted is replaced, by nothing or by one row
    rw [Database.setVersion, h.noOtherVersion, List.nil_append]
    cases version with
    | none => exact .inl rfl
    | some word => exact .inr ⟨word.toInt, time, rfl⟩
  fits := by
    rw [version_setVersion]
    intro noted hnoted
    obtain ⟨word, -, rfl⟩ := Option.map_eq_some_iff.mp hnoted
    exact ⟨Int32.le_toInt word, Int32.toInt_le word⟩

/-! ## §2 Migrating -/

/-- The script completes an orderly database. -/
theorem applySchema_eq (h : db.Orderly) (now : Int) :
    db.applySchema now = db.complete currentVersion now := by
  have hreplaced := h.noOtherVersion
  obtain ⟨incidents, attributes, lastId, versionRows, created, hasLog⟩ := db
  -- nothing is created twice: all of the schema is there, or nothing of it
  obtain rfl | ⟨rfl, rfl⟩ := h.created
  · simpa [applySchema, script, SchemaPart.all, execute, Database.setVersion, complete]
      using hreplaced
  · rfl

/-- A current database is complete, with the version that it notes. -/
theorem exists_complete_of_isCurrent (h : db.Orderly) (hcurrent : db.isCurrent = true) :
    ∃ time, db = db.complete (max currentVersion (db.version.getD 0)) time := by
  obtain ⟨hversions, hlater⟩ := Bool.and_eq_true_iff.mp hcurrent
  have hlater : currentVersion ≤ db.version.getD 0 := of_decide_eq_true hlater
  rw [Int.max_eq_right hlater]
  obtain ⟨incidents, attributes, lastId, versionRows, created, hasLog⟩ := db
  obtain rfl | ⟨rfl, -⟩ := h.created
  · obtain rfl | ⟨version, time, rfl⟩ := h.single
    -- without a row the version counts as zero, which is not current
    · exact absurd (show (1 : Int) ≤ 0 from hlater) (by decide)
    · exact ⟨time, rfl⟩
  · cases hversions

/-- Behind the current version, the larger one of the two is the current one. -/
theorem max_of_not_isCurrent (h : db.Orderly) (hbehind : db.isCurrent = false) :
    max currentVersion (db.version.getD 0) = currentVersion := by
  apply Int.max_eq_left
  -- all tables are there and the version is behind, or none is and no version is noted
  obtain hall | ⟨-, hrowless⟩ := h.created
  · have hcreated : db.created.contains .versions = true := by
      rw [hall]
      decide
    rw [isCurrent, hcreated, Bool.true_and, decide_eq_false_iff_not] at hbehind
    exact Int.le_of_lt (Int.not_le.mp hbehind)
  · rw [version, hrowless]
    decide

/-- Migrating completes a database with the larger one of the two versions. The time is that of the
    migration, unless there was nothing to do. -/
theorem exists_migrate_eq (h : db.Orderly) (now : Int) :
    ∃ time, db.migrate now = db.complete (max currentVersion (db.version.getD 0)) time ∧
      (time = now ∨ db.migrate now = db) := by
  unfold migrate
  -- a current database stays as it is, with the time that was noted in it
  split
  · next hcurrent =>
    obtain ⟨time, hcomplete⟩ := exists_complete_of_isCurrent h hcurrent
    exact ⟨time, hcomplete, .inr rfl⟩
  · next hbehind =>
    refine ⟨now, ?_, .inl rfl⟩
    rw [max_of_not_isCurrent h (by simpa using hbehind), applySchema_eq h]

theorem Orderly.migrate (h : db.Orderly) (now : Int) : (db.migrate now).Orderly := by
  obtain ⟨time, hcomplete, -⟩ := exists_migrate_eq h now
  rw [hcomplete]
  refine orderly_complete db time ?_
  cases hversion : db.version with
  | none => decide
  | some version =>
    have hfits := h.fits version hversion
    simp only [Option.getD_some, currentVersion]
    omega

/-- Whether a database has a log of changes makes no difference to migrating it. -/
theorem migrate_of_joinLog (h : db.Orderly) {l : Location} (hlog : db.joinLog l = .ok db')
    (now : Int) : db'.migrate now = { db.migrate now with hasLog := db'.hasLog } := by
  have horderly' := h.joinLog hlog
  -- joining the log changes neither the tables nor the version
  have hsame : db'.isCurrent = db.isCurrent := by
    rw [joinLog_eq hlog]
    rfl
  unfold migrate
  rw [hsame]
  split
  · exact joinLog_eq hlog
  · rw [applySchema_eq h, applySchema_eq horderly', joinLog_eq hlog]
    rfl

end Database

/-! ## §3 Steps -/

/-- What is done with a database. -/
inductive Step where
  /-- It is opened at a location and a time, for the first time or again. -/
  | init (semantics : Filtering.Semantics) (l : Location) (now : Int)
  | add (new : NewIncident)
  /-- The version that is noted is overwritten, with whatever time, or the row that has it is
      removed. -/
  | note (version : Option Int32) (time : Int)

namespace Store

/-- A database that has just been created and not been opened. -/
def unopened : Store :=
  { semantics := .consistent, database := .blank, isOpen := false }

/-- Opens the database of a store at a location and a time. Where it cannot be opened, it stays
    closed. -/
def reopen (s : Store) (semantics : Filtering.Semantics) (l : Location) (now : Int) : Store :=
  match s.database.joinLog l with
  | .error _ => s.close
  | .ok db =>
    match startAt semantics l db now with
    | .ok opened => opened
    | .error _ => { s.close with database := db }

/-- What a step leaves behind. -/
def take (s : Store) : Step → Store
  | .init semantics l now => s.reopen semantics l now
  | .add new => (s.add new).2
  | .note version time =>
    (s.act fun db => ((), db.setVersion (version.map Int32.toInt) time)).2

/-- What steps leave behind, one after the other. -/
def takeEach (s : Store) (steps : List Step) : Store :=
  steps.foldl take s

/-- The databases of the connections of a store. -/
def databases (s : Store) : List Database :=
  s.database :: s.spare.toList

variable {s : Store} {semantics : Filtering.Semantics} {l : Location} {now : Int}

theorem mem_databases_next {db : Database} : db ∈ s.next.databases ↔ db ∈ s.databases := by
  unfold next
  split
  · rfl
  · next other hspare =>
    simp [databases, hspare, or_comm]

/-- An operation that keeps a database orderly keeps those of a store so. -/
theorem orderly_act (h : ∀ db ∈ s.databases, db.Orderly) {α : Type}
    {operation : Database → α × Database}
    (hoperation : ∀ db, db.Orderly → db.hasTables = true → (operation db).2.Orderly) :
    ∀ db ∈ (s.act operation).2.databases, db.Orderly := by
  unfold act
  split
  · exact h
  · split
    · exact fun db hdb => h db (mem_databases_next.mp hdb)
    · next htables =>
      -- one database is changed, and then it is the turn of the other, if there is one
      have hfirst := h s.database List.mem_cons_self
      intro db hdb
      rcases List.mem_cons.mp (mem_databases_next.mp hdb) with rfl | hspare
      · exact hoperation s.database hfirst (by simpa using htables)
      · exact h db (List.mem_cons_of_mem _ hspare)

theorem orderly_startAt {db : Database} (hdb : db.Orderly)
    (h : startAt semantics l db now = .ok s) : ∀ db ∈ s.databases, db.Orderly := by
  obtain ⟨_, -, h⟩ := bind_eq_ok_iff.mp h
  -- of a private database there are two copies, one of them as it was found
  split at h
  · unfold startReading at h
    split at h
    · cases h
      simpa [databases] using hdb
    · cases h
  · cases h
    split
    · simpa [databases, startPrivate] using ⟨hdb, hdb.migrate now⟩
    · simpa [databases, start] using hdb.migrate now

theorem orderly_reopen (h : ∀ db ∈ s.databases, db.Orderly) :
    ∀ db ∈ (s.reopen semantics l now).databases, db.Orderly := by
  have hfirst := h s.database List.mem_cons_self
  unfold reopen
  split
  · exact h
  · next joined hlog =>
    have hjoined : joined.Orderly := hfirst.joinLog hlog
    split
    · next opened hstart => exact orderly_startAt hjoined hstart
    · -- what is left closed is the database with the log that it was given
      intro db hdb
      rcases List.mem_cons.mp hdb with rfl | hspare
      · exact hjoined
      · exact h db (List.mem_cons_of_mem _ hspare)

theorem orderly_add (h : ∀ db ∈ s.databases, db.Orderly) (new : NewIncident) :
    ∀ db ∈ (s.add new).2.databases, db.Orderly := by
  unfold add
  split
  · exact h
  · exact orderly_act h fun db hdb htables => hdb.insert htables new

/-- A step keeps the databases orderly. -/
theorem orderly_take (h : ∀ db ∈ s.databases, db.Orderly) (step : Step) :
    ∀ db ∈ (s.take step).databases, db.Orderly := by
  cases step with
  | init semantics l now => exact orderly_reopen h
  | add new => exact orderly_add h new
  | note version time =>
    exact orderly_act h fun db hdb htables => hdb.setVersion htables version time

/-- So does any number of steps. -/
theorem orderly_takeEach (h : ∀ db ∈ s.databases, db.Orderly) (steps : List Step) :
    ∀ db ∈ (s.takeEach steps).databases, db.Orderly := by
  induction steps generalizing s with
  | nil => exact h
  | cons step steps ih => exact ih (orderly_take h step)

/-! ## §4 Opening -/

/-- Opening a database migrates it, or finds that it is current. The tables are created over one
    connection, which is the spare one where every connection has a database of its own. -/
theorem database_of_startAt {db : Database} {opened : Store}
    (h : startAt semantics l db now = .ok opened) :
    opened.spare.getD opened.database = db.migrate now := by
  obtain ⟨_, -, h⟩ := bind_eq_ok_iff.mp h
  split at h
  · unfold startReading at h
    split at h
    · next hcurrent =>
      -- what is current is not touched, and migrating it would not touch it either
      cases h
      exact (if_pos hcurrent).symm
    · cases h
  · cases h
    split <;> rfl

/-- Opening an orderly database succeeds wherever it may be written. -/
theorem exists_startAt_eq_ok {db : Database} (hdb : db.Orderly) (hwritable : l.isReadOnly = false) :
    ∃ opened, startAt semantics l db now = .ok opened := by
  have hchecked : db.checkVersion = .ok () := Database.checkVersion_eq_ok hdb.fits
  refine ⟨if l.isPrivate then startPrivate semantics db now else start semantics db now, ?_⟩
  rw [startAt, hchecked, hwritable]
  rfl

/-- Whatever was done with a database, with whatever versions noted or none, migrating it succeeds. It
    loses and changes no row of an incident or of an attribute, and no identifier; all three tables are
    there then, that of the versions with one row, which has the larger one of the current version and
    the one that was noted, and the time of the migration unless there was nothing to do. Migrating
    again, at whatever time, changes nothing at all. That is what the program does when it opens the
    database, wherever it may write, and a log of changes makes no difference to it. -/
theorem migrate_takeEach (steps : List Step) (now : Int) :
    ∀ db ∈ (unopened.takeEach steps).databases,
      let after := db.migrate now
      db.checkVersion = .ok () ∧
      after.incidents = db.incidents ∧ after.attributes = db.attributes ∧
      after.lastId = db.lastId ∧ after.hasLog = db.hasLog ∧
      after.tables = ["IncidentAttributes", "Incidents", "schema_version"] ∧
      (∃ time, after.versionRows = [⟨1, max currentVersion (db.version.getD 0), time⟩] ∧
        (time = now ∨ after = db)) ∧
      (∀ later, after.checkVersion = .ok () ∧ after.migrate later = after) ∧
      ∀ (semantics : Filtering.Semantics) (l : Location) (joined : Database),
        db.joinLog l = .ok joined →
        joined.migrate now = { after with hasLog := joined.hasLog } ∧
        (∀ opened, startAt semantics l joined now = .ok opened →
          opened.spare.getD opened.database = joined.migrate now) ∧
        (l.isReadOnly = false → ∃ opened, startAt semantics l joined now = .ok opened) := by
  intro db hmem after
  -- the run begins at a blank database, and every step keeps the databases orderly
  have hblank : ∀ db ∈ unopened.databases, db.Orderly := by
    intro db hmem
    rw [List.mem_singleton.mp hmem]
    exact Database.orderly_blank
  have hdb := orderly_takeEach hblank steps db hmem
  have hrows : db.SameRows after := db.sameRows_migrate now
  obtain ⟨time, hcomplete, htime⟩ := Database.exists_migrate_eq hdb now
  -- the rows stay, the tables are there, and the version is noted at `now` or was current
  refine ⟨Database.checkVersion_eq_ok hdb.fits, hrows.incidents, hrows.attributes, hrows.lastId,
    db.hasLog_migrate now, ?_, ⟨time, ?_, htime⟩, fun later => ⟨?_, db.migrate_migrate now later⟩,
    fun semantics l joined hlog => ⟨Database.migrate_of_joinLog hdb hlog now,
      fun opened => database_of_startAt, exists_startAt_eq_ok (hdb.joinLog hlog)⟩⟩
  · rw [show after = _ from hcomplete]
    rfl
  · rw [show after = _ from hcomplete]
    rfl
  · exact Database.checkVersion_eq_ok (hdb.migrate now).fits

/-- Without a row for the version the current one is noted with the time, and a later one is left with
    the time that it was noted with. The incident that was added before is still there. -/
theorem migrate_takeEach_later :
    let l : Location := { file := some "incidents.db" }
    let new : NewIncident := { kind := "Bug", attributes := .ofList [("Team", "Core")] }
    let rowless := (unopened.takeEach [.init .legacy l 10, .add new, .note none 20]).database
    let later := (unopened.takeEach [.init .legacy l 10, .add new, .note (some 7) 20]).database
    (rowless.migrate 30).versionRows = [⟨1, 1, 30⟩] ∧
      (rowless.migrate 30).incidents = [⟨1, "Bug", "", "", ""⟩] ∧
      (rowless.migrate 30).attributes = [⟨1, "Team", "Core"⟩] ∧
      (rowless.migrate 30).migrate 40 = rowless.migrate 30 ∧
      (later.migrate 30).versionRows = [⟨1, 7, 20⟩] ∧
      ∃ opened, startAt .consistent l rowless 30 = .ok opened ∧
        opened.spare.getD opened.database = rowless.migrate 30 := by
  intro l new rowless later
  obtain ⟨-, hincidents, hattributes, -, -, -, ⟨_, hrowless, hnoted⟩, hagain, hopens⟩ :=
    migrate_takeEach [.init .legacy l 10, .add new, .note none 20] 30 rowless List.mem_cons_self
  obtain ⟨-, hopened, hwritable⟩ := hopens .consistent l rowless (by decide +kernel)
  obtain ⟨opened, hstart⟩ := hwritable rfl
  refine ⟨?_, hincidents.trans (by decide +kernel), hattributes.trans (by decide +kernel),
    (hagain 40).2, by decide +kernel, opened, hstart, hopened opened hstart⟩
  -- there was something to do, so the time is that of the migration
  rw [hrowless, hnoted.resolve_right (by decide +kernel)]
  decide +kernel

end Store

end IncidentTracker.Relational
