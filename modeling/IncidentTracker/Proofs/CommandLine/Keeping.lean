import IncidentTracker.CommandLine.Run
import IncidentTracker.Proofs.Directory.Texts
import IncidentTracker.Proofs.Store.Session

/-!
# Databases Kept Between Runs

Every run opens the database at its path and writes it back. Where the path leads to a file, and no
file lay there to begin with, there are two possibilities: the database can be used by every run, and
each finds what the one before it left; or it can be used by none.

When the tables were created is noted in the database, but no run looks at that. So what is kept is
told up to that time.

Main statements: `kept_or_refused`, `runList_of_kept` and `runAdd_of_kept`.
-/

namespace IncidentTracker

/-! ## §1 Times -/

/-- A database as if its versions had been noted at a given time. -/
def Relational.Database.notedAt (db : Relational.Database) (time : Int) : Relational.Database :=
  { db with versionRows := db.versionRows.map fun row => { row with appliedAt := time } }

theorem Relational.Database.version_notedAt (db : Relational.Database) (time : Int) :
    (db.notedAt time).version = db.version := by
  simp [version, notedAt, List.find?_map, Function.comp_def]

namespace CommandLine

open Directory (OnlyAt place pathTo)
open Filtering (Semantics)
open IncidentStore (initRelational)
open Relational (Database Location Store currentVersion)

variable {file : String} {l : Location} {db : Database} {d d' : Directory}

/-! ## §2 Databases in use -/

/-- A database that has been in use at a location. -/
structure InUse (l : Location) (db : Database) : Prop where
  hasTables : db.hasTables = true
  version : db.version = some currentVersion
  hasLog : db.hasLog = l.sharesLog

theorem InUse.insert (h : InUse l db) (new : NewIncident) : InUse l (db.insert new).2 :=
  ⟨h.hasTables, h.version, h.hasLog⟩

theorem InUse.notedAt (h : InUse l db) (time : Int) : InUse l (db.notedAt time) :=
  ⟨h.hasTables, (db.version_notedAt time).trans h.version, h.hasLog⟩

/-- A run finds a database at a location that leads to a file, and whatever is put there next, the
    directory will differ only in that place. -/
structure Finds (l : Location) (file : String) (db : Database) (semantics : Semantics) (now : Int)
    (d d' : Directory) : Prop where
  opens : initRelational l semantics d now =
    (.ok (.relational l { semantics := semantics, database := db }), d')
  reopens : d'.Reopens l
  onlyAt : ∀ db', OnlyAt (place file) d (d'.putDatabase l db')

/-- Every run can use the database at a location, and finds there what was left, noted at some
    time. -/
structure Kept (l : Location) (file : String) (db : Database) (d : Directory) : Prop where
  leads : l.file = some file
  isWritable : l.isReadOnly = false
  isShared : l.isPrivate = false
  inUse : InUse l db
  found : ∀ semantics now, ∃ time d', Finds l file (db.notedAt time) semantics now d d'

/-- No run can use a database at a location. -/
def Refused (l : Location) (file : String) (d : Directory) : Prop :=
  ∀ semantics now, ∃ e d', initRelational l semantics d now = (.error e, d') ∧
    OnlyAt (place file) d d' ∧
    ∀ again later, ∃ e, initRelational l again d' later = (.error e, d')

/-- What a run leaves is found by the next one. -/
theorem Kept.saved (h : Kept l file db d) {found : Database} {semantics : Semantics} {now : Int}
    (hfinds : Finds l file found semantics now d d') {db' : Database} (hinUse : InUse l db')
    (time : Int) :
    Kept l file db' (d'.putDatabase l (db'.notedAt time)) ∧
      OnlyAt (place file) d (d'.putDatabase l (db'.notedAt time)) := by
  have hinUse' := hinUse.notedAt time
  refine ⟨⟨h.leads, h.isWritable, h.isShared, hinUse, fun again later =>
    ⟨time, d'.putDatabase l (db'.notedAt time), ?_, hfinds.reopens.putDatabase _,
      fun next => ?_⟩⟩, hfinds.onlyAt _⟩
  · -- opened again, it has its tables and its log already, so nothing is noted
    have hfrozen : l.isFrozen = false := (Bool.or_eq_false_iff.mp h.isWritable).2
    have hopen := hfinds.reopens _ (Database.joinLog_eq_self hfrozen hinUse'.hasLog)
    rw [initRelational, hopen]
    simp only [Store.startAt_of_current hinUse'.hasTables hinUse'.version again h.isWritable
      h.isShared later]
    rfl
  · rw [Directory.putDatabase_putDatabase]
    exact (hfinds.onlyAt _).symm.trans (hfinds.onlyAt next)

/-! ## §3 The first run -/

/-- A blank database cannot be used where nothing may be written. -/
theorem exists_error_of_isReadOnly (hreading : l.isReadOnly = true) (hshared : l.isPrivate = false)
    (hjoined : Database.blank.joinLog l = .ok db) (hconnect : d.connect l = (.ok db, d'))
    (semantics : Semantics) (now : Int) :
    ∃ e, initRelational l semantics d now = (.error e, d') := by
  simp only [initRelational, hconnect]
  -- a store that starts on a blank database has to write its tables
  cases hstart : Store.startAt semantics l db now with
  | error e => exact ⟨e, rfl⟩
  | ok s =>
    rw [(Database.joinLog_blank hjoined).1] at hstart
    rw [(Store.startAt_blank hshared hstart).1] at hreading
    cases hreading

/-- The database that the first run begins. -/
def begun (l : Location) : Database :=
  ({ Database.blank with hasLog := l.sharesLog } : Database).migrate 0

/-- Where no file lies at the end of a path, either every run can use the database there, or none
    can. -/
theorem kept_or_refused (hfile : l.file = some file) (hshared : l.isPrivate = false)
    (hfree : d.isFile (place file) = false) : Kept l file (begun l) d ∨ Refused l file d := by
  have honly := Directory.onlyAt_connect hfile d
  rcases hconnect : d.connect l with ⟨e | db, d'⟩
  · -- what could not be opened will not be opened later
    rw [hconnect] at honly
    have hagain : d'.connect l = (.error e, d') := Directory.connect_connect hconnect
    refine .inr fun semantics now => ⟨e, d', ?_, honly, fun again later => ⟨e, ?_⟩⟩
    · simp only [initRelational, hconnect]
    · simp only [initRelational, hagain]
  · rw [hconnect] at honly
    have hnone : d.databases.get? (pathTo (place file)) = none :=
      (show _ ∧ _ by simpa [Directory.isFile] using hfree).2
    have hjoined : Database.blank.joinLog l = .ok db :=
      Session.joinLog_of_connect hfile hnone hconnect
    obtain ⟨hblank, hlog⟩ := Database.joinLog_blank hjoined
    cases hreading : l.isReadOnly with
    | true =>
      -- the empty file that was begun cannot be given tables, now or later
      right
      intro semantics now
      obtain ⟨e, hinit⟩ := exists_error_of_isReadOnly hreading hshared hjoined hconnect semantics now
      exact ⟨e, d', hinit, honly, exists_error_of_isReadOnly hreading hshared hjoined
        (Directory.connect_connect hconnect)⟩
    | false =>
      left
      refine ⟨hfile, hreading, hshared, ⟨rfl, rfl, rfl⟩, fun semantics now => ⟨now, d', ?_,
        Directory.reopens_of_connect hfile hconnect, Directory.onlyAt_putDatabase hfile hconnect⟩⟩
      rw [hlog hreading] at hblank
      simp only [initRelational, hconnect, Store.startAt, hreading, hshared, hblank]
      rfl

/-! ## §4 Runs -/

/-- The settings of a run can be loaded and choose a location. -/
structure Chosen (d : Directory) (command : CommandSettings) (l : Location) (settings : Settings) :
    Prop where
  loaded : settingsFor d command = .ok settings
  backend : settings.storage.backend = .relational
  location : Location.ofText settings.storage.databasePath = .ok l

variable {command : CommandSettings} {settings : Settings} {now : Int}

theorem openStore_eq (h : Chosen d command l settings) :
    openStore d settings now =
      (((initRelational l settings.semantics d now).1.mapError .relational).mapError
        (.store .relational), (initRelational l settings.semantics d now).2) := by
  simp only [openStore, IncidentStore.init, h.backend, h.location]

/-- A run uses the database that is kept. -/
theorem withStore_of_finds (hchosen : Chosen d command l settings)
    (hfinds : Finds l file db settings.semantics now d d') {α : Type}
    (use : Repository (StateM IncidentStore) → StateM IncidentStore (Except RunError α)) :
    withStore d command now use =
      let (answer, store) := use (IncidentStore.repository .relational).service
        (.relational l { semantics := settings.semantics, database := db })
      (answer, store.save d') := by
  simp only [withStore, hchosen.loaded, openStore_eq hchosen, hfinds.opens]
  rfl

/-- What a list of a database answers. -/
def listAnswer (semantics : Semantics) (db : Database) (filter : Option Filtering.Request) :
    Except RunError Json.Value :=
  let listed := (Store.list { semantics := semantics, database := db } filter).1
  (((listed.mapError StoreError.relational).map sortById).mapError .listing).map
    fun incidents => .list (incidents.map Incident.toJson)

/-- A list of what is kept leaves it as it is. -/
theorem runList_of_kept (h : Kept l file db d) (hchosen : Chosen d command l settings) (now : Int)
    {param : Option String} {filter : Option Filtering.Request}
    (hfilter : (Filtering.parseParam param).result = .ok filter) :
    ∃ d', runList d command now param = (listAnswer settings.semantics db filter, d') ∧
      Kept l file db d' ∧ OnlyAt (place file) d d' := by
  obtain ⟨time, d', hfinds⟩ := h.found settings.semantics now
  -- a list looks at no time
  have hlist : Store.list { semantics := settings.semantics, database := db.notedAt time } filter =
      ((Store.list { semantics := settings.semantics, database := db } filter).1,
        { semantics := settings.semantics, database := db.notedAt time }) := by
    have htables : (db.notedAt time).hasTables = true := h.inUse.hasTables
    simp only [Store.list, Store.ask, Store.next, h.inUse.hasTables, htables]
    rfl
  refine ⟨_, ?_, h.saved hfinds h.inUse time⟩
  simp only [runList, hfilter]
  rw [withStore_of_finds hchosen hfinds]
  simp only [Repository.service, IncidentStore.repository, IncidentStore.dispatch,
    Store.repository, bind, StateT.bind, Functor.map, StateT.map]
  rw [hlist]
  rfl

/-- What is added to what is kept is kept. -/
theorem runAdd_of_kept (h : Kept l file db d) (hchosen : Chosen d command l settings) (now : Int)
    (new : NewIncident) :
    ∃ d', runAdd d command now new = (.ok (db.insert new).1.toJson, d') ∧
      Kept l file (db.insert new).2 d' ∧ OnlyAt (place file) d d' := by
  obtain ⟨time, d', hfinds⟩ := h.found settings.semantics now
  -- what is found is the database that is kept, its version noted at some time
  have hadd := Store.add_eq (s := { semantics := settings.semantics, database := db.notedAt time })
    ⟨rfl, rfl, rfl, h.inUse.hasTables⟩ new
  refine ⟨_, ?_, h.saved hfinds (h.inUse.insert new) time⟩
  rw [runAdd, withStore_of_finds hchosen hfinds]
  simp only [Repository.service, IncidentStore.repository, IncidentStore.dispatch,
    Store.repository, bind, StateT.bind, hadd]
  rfl

/-! ## §5 Sequences of runs -/

/-- A start of the program. -/
structure Launch where
  env : Environment
  words : List String
  /-- The time of the clock. -/
  now : Int

/-- How some runs in one directory end, one after the other. -/
def endings (d : Directory) : List Launch → List Ending
  | [] => []
  | x :: launches =>
    let (ending, d) := run d x.env x.words x.now
    ending :: endings d launches

/-- The variables of a run do not depend on what lies elsewhere. -/
theorem environmentIn_eq {here : List String} (h : OnlyAt here d d')
    (hne : place variableFile ≠ here) (env : Environment) :
    environmentIn d' env = environmentIn d env := by
  rw [environmentIn, environmentIn, h.read_eq hne]

/-- Neither do its settings. -/
theorem settingsFor_eq {here : List String} (h : OnlyAt here d d')
    (husual : place usualSettingsFile ≠ here)
    (hnamed : ∀ config, command.file = some config → place config ≠ here) :
    settingsFor d' command = settingsFor d command := by
  -- the settings file lies elsewhere, so it reads the same
  have hfile : settingsFile d' command.file = settingsFile d command.file := by
    cases hconfig : command.file with
    | none => simp only [settingsFile, h.read_eq husual]
    | some config => simp only [settingsFile, h.read_eq (hnamed config hconfig)]
  rw [settingsFor, settingsFor, loadSettings, loadSettings, hfile]

end CommandLine

end IncidentTracker
