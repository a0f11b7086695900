import IncidentTracker.Proofs.Directory
import IncidentTracker.Proofs.Relational.Listing
import IncidentTracker.Proofs.Relational.Reachable
import IncidentTracker.Store.Backend

/-!
# Sessions

A relational store over all the time that it is in use: incidents are added, sought and listed, the
store is closed, and opened again from the directory in which it was left. Whatever the order of all
that, the answers are those of an account that has nothing but a list of what was added, in which
every incident has its place for an identifier. In a file this list outlives the store; in memory it
begins anew each time the store is opened.

Main statement: `Session.answers_eq_account`.
-/

namespace IncidentTracker

open Filtering (Semantics)
open Relational (Database Location numbered)

/-! ## §1 Sessions and accounts -/

/-- What is done with a store. -/
inductive Action where
  | add (new : NewIncident)
  | get (id : Int)
  | list
  | close
  | reopen (semantics : Semantics) (now : Int)
  deriving DecidableEq

/-- What is answered. -/
inductive Answer where
  | added (result : Except StoreError Incident)
  | found (result : Except StoreError (Option Incident))
  | listed (result : Except StoreError (List Incident))
  | closed
  | reopened (result : Except StoreError Unit)

/-- A store in use, with the settings and the directory from which it was opened. -/
structure Session where
  settings : StorageSettings
  directory : Directory
  store : IncidentStore

namespace Session

/-- Opens the store that some settings choose, at some time. -/
def start (settings : StorageSettings) (semantics : Semantics) (d : Directory) (now : Int) :
    Except StoreError Session :=
  match IncidentStore.init settings semantics d [] now with
  | (.ok store, d) => .ok ⟨settings, d, store⟩
  | (.error e, _) => .error e

/-- What is answered to an action, and what it leaves behind. A store that cannot be opened again
    stays closed. -/
def act (x : Session) : Action → Answer × Session
  | .add new =>
    let (result, store) := (IncidentStore.repository x.settings.backend).add new x.store
    (.added result, { x with store := store })
  | .get id =>
    let (result, store) := (IncidentStore.repository x.settings.backend).get id x.store
    (.found result, { x with store := store })
  | .list =>
    let (result, store) := (IncidentStore.repository x.settings.backend).list none x.store
    (.listed result, { x with store := store })
  | .close => (.closed, { x with store := x.store.close })
  | .reopen semantics now =>
    match IncidentStore.init x.settings semantics (x.store.save x.directory) [] now with
    | (.ok store, d) => (.reopened (.ok ()), { x with directory := d, store := store })
    | (.error e, d) =>
      (.reopened (.error e), { x with directory := d, store := x.store.close })

/-- What is answered to some actions, one after the other. -/
def answers (x : Session) : List Action → List Answer
  | [] => []
  | action :: actions =>
    let (answer, x) := x.act action
    answer :: x.answers actions

end Session

/-- What a store should know: whether it is open, and what was added, in order. -/
structure Account where
  isOpen : Bool := true
  added : List NewIncident := []

namespace Account

/-- The identifiers are the places from one on. -/
def find? (a : Account) (id : Int) : Option Incident :=
  if 1 ≤ id then (a.added[(id - 1).toNat]?).map (·.withId id) else none

/-- What is answered while the account is open. -/
def whenOpen {α : Type} (a : Account) (result : α) : Except StoreError α :=
  if a.isOpen then .ok result else .error (.relational .closed)

/-- What should be answered to an action, and what should be known afterwards. What was added may
    be kept, or it may be forgotten when the store is opened again. -/
def act (isKept : Bool) (a : Account) : Action → Answer × Account
  | .add new =>
    (.added (a.whenOpen (new.withId (a.added.length + 1))),
      { a with added := if a.isOpen then a.added ++ [new] else a.added })
  | .get id => (.found (a.whenOpen (a.find? id)), a)
  | .list => (.listed (a.whenOpen (numbered 1 a.added)), a)
  | .close => (.closed, { a with isOpen := false })
  | .reopen _ _ => (.reopened (.ok ()), { isOpen := true, added := if isKept then a.added else [] })

/-- What should be answered to some actions, one after the other. -/
def answers (isKept : Bool) (a : Account) : List Action → List Answer
  | [] => []
  | action :: actions =>
    let (answer, a) := a.act isKept action
    answer :: a.answers isKept actions

end Account

namespace Relational

/-! ## §2 Stores -/

namespace Store

variable {s : Store} {news : List NewIncident}

/-- A store whose database holds exactly some incidents, each under its place as identifier. -/
structure Holds (s : Store) (news : List NewIncident) : Prop where
  ready : s.Ready
  isWritable : s.isReadOnly = false
  version : s.database.version = some currentVersion
  stored : s.database.stored = numbered 1 news
  lastId : s.database.lastId = news.length

theorem holds_fresh (semantics : Semantics) (hasLog : Bool) (now : Int) :
    (fresh semantics hasLog now).Holds [] where
  ready := (Reachable.begun semantics hasLog now).ready
  isWritable := rfl
  version := rfl
  stored := rfl
  lastId := rfl

/-- What comes back while the store is open. -/
def whenOpen {α : Type} (s : Store) (result : α) : Except Error α :=
  if s.isOpen then .ok result else .error .closed

theorem Holds.get_eq (h : s.Holds news) (id : Int) :
    s.get id = (s.whenOpen
      (if 1 ≤ id then (news[(id - 1).toNat]?).map (·.withId id) else none), s) := by
  have hfind : s.database.find? id =
      if 1 ≤ id then (news[(id - 1).toNat]?).map (·.withId id) else none := by
    rw [Database.find?_eq h.ready.wellFormed, h.stored, find?_numbered]
  cases hopen : s.isOpen <;>
    simp [get, ask, whenOpen, hopen, h.ready.hasTables, h.ready.next, hfind]

theorem Holds.list_eq (h : s.Holds news) :
    s.list none = (s.whenOpen (numbered 1 news), s) := by
  have hselect := Database.select_unfiltered h.ready.wellFormed
  cases hopen : s.isOpen <;>
    simp [list, ask, whenOpen, hopen, h.ready.hasTables, h.ready.next, Clause.ofFilter_none, hselect,
      h.stored]

/-- What an addition leaves behind: while the store is open, one incident more. -/
def afterAdd (s : Store) (new : NewIncident) : Store :=
  if s.isOpen then { s with database := (s.database.insert new).2 } else s

theorem afterAdd_keeps (s : Store) (new : NewIncident) :
    (s.afterAdd new).isOpen = s.isOpen ∧
      (s.afterAdd new).database.hasLog = s.database.hasLog := by
  unfold afterAdd
  split <;> exact ⟨rfl, rfl⟩

theorem Holds.add_eq (h : s.Holds news) (new : NewIncident) :
    s.add new = (s.whenOpen (new.withId (news.length + 1)), s.afterAdd new) := by
  cases hopen : s.isOpen with
  | false => simp [add, act, whenOpen, afterAdd, hopen]
  | true =>
    have husable : s.Usable := ⟨hopen, h.isWritable, h.ready.isShared, h.ready.hasTables⟩
    rw [Store.add_eq husable, whenOpen, afterAdd, if_pos hopen, if_pos hopen, ← h.lastId]
    rfl

theorem Holds.afterAdd (h : s.Holds news) (new : NewIncident) :
    (s.afterAdd new).Holds (if s.isOpen then news ++ [new] else news) := by
  unfold Store.afterAdd
  -- a closed store is left alone; an open one has stored one more under the next identifier
  split
  · have hlast : (s.database.insert new).2.lastId = s.database.lastId + 1 := rfl
    refine ⟨⟨h.ready.isShared, h.ready.hasTables,
      Database.wellFormed_insert h.ready.wellFormed new⟩, h.isWritable, h.version, ?_, ?_⟩
    · rw [Database.stored_insert h.ready.wellFormed, h.stored, numbered_concat, h.lastId,
        Int.add_comm]
    · rw [hlast, h.lastId, List.length_append]
      rfl
  · exact h

theorem Holds.close (h : s.Holds news) : s.close.Holds news :=
  ⟨⟨h.ready.isShared, h.ready.hasTables, h.ready.wellFormed⟩, h.isWritable, h.version, h.stored,
    h.lastId⟩

/-- A database with current tables is used as it is: nothing is left to migrate, at whatever time. -/
theorem startAt_of_current {db : Database} (htables : db.hasTables = true)
    (hversion : db.version = some currentVersion) (semantics : Semantics) {l : Location}
    (hwritable : l.isReadOnly = false) (hshared : l.isPrivate = false) (now : Int) :
    startAt semantics l db now = .ok { semantics := semantics, database := db } := by
  have hfits : db.checkVersion = .ok () := by
    rw [Database.checkVersion, hversion]
    rfl
  -- the database is current, so nothing is executed and nothing is noted
  have hcurrent : db.isCurrent = true := by
    have hversions := Database.hasTables_iff.mp htables .versions (by decide)
    rw [Database.isCurrent, List.contains_iff_mem.mpr hversions, hversion]
    rfl
  simp [startAt, hfits, hwritable, hshared, start, Database.migrate, hcurrent, Bind.bind,
    Except.bind, Pure.pure, Except.pure]

theorem Holds.startAt_eq (h : s.Holds news) (semantics : Semantics) {l : Location}
    (hwritable : l.isReadOnly = false) (hshared : l.isPrivate = false) (now : Int) :
    startAt semantics l s.database now = .ok { semantics := semantics, database := s.database } :=
  startAt_of_current h.ready.hasTables h.version semantics hwritable hshared now

theorem Holds.reopened (h : s.Holds news) (semantics : Semantics) :
    Holds { semantics := semantics, database := s.database } news :=
  ⟨⟨rfl, h.ready.hasTables, h.ready.wellFormed⟩, rfl, h.version, h.stored, h.lastId⟩

end Store

/-! ## §3 Locations -/

namespace Location

theorem isPrivate_of_ofParts {path file : String} {parameters : List (String × String)}
    {l : Location} (h : ofParts path parameters = .ok l) (hfile : l.file = some file) :
    l.isPrivate = false := by
  -- only what has no file can be private
  unfold ofParts at h
  cases haccess : narrow .create parameters with
  | error e => simp [haccess, Bind.bind, Except.bind] at h
  | ok access =>
    cases hsystem : fileSystem parameters with
    | error e => simp [haccess, hsystem, Bind.bind, Except.bind] at h
    | ok system =>
      simp only [haccess, hsystem, Bind.bind, Except.bind, Pure.pure, Except.pure,
        Except.ok.injEq] at h
      subst h
      simp only at hfile
      show (Option.isNone (if system = .memory || access = .memory then none else fileAt path) &&
        _) = false
      rw [hfile]
      rfl

/-- All connections share what lies in a file. -/
theorem isPrivate_of_file {text file : String} {l : Location} (h : ofText text = .ok l)
    (hfile : l.file = some file) : l.isPrivate = false := by
  -- a text with a null byte, a URI or a plain path
  unfold ofText at h
  simp only at h
  split at h
  · cases h
  · split at h
    · -- a URI
      unfold ofUri at h
      cases hrest : withoutAuthority (text.toList.drop scheme.length) with
      | error e => simp [hrest, Bind.bind, Except.bind] at h
      | ok rest =>
        simp only [hrest, Bind.bind, Except.bind] at h
        exact isPrivate_of_ofParts h hfile
    · -- a plain path
      cases h
      simp only [ofPath, fileAt] at hfile ⊢
      split at hfile
      · cases hfile
      · next hpath =>
        simp only [Bool.or_eq_true, decide_eq_true_eq, not_or] at hpath
        exact decide_eq_false hpath.1

end Location

namespace Database

theorem joinLog_eq_self {db : Database} {l : Location} (hfrozen : l.isFrozen = false)
    (hlog : db.hasLog = l.sharesLog) : db.joinLog l = .ok db := by
  cases hshares : l.sharesLog <;> simp [joinLog, hfrozen, hlog, hshares]

theorem joinLog_blank {db : Database} {l : Location} (h : blank.joinLog l = .ok db) :
    db = { blank with hasLog := db.hasLog } ∧ (l.isReadOnly = false → db.hasLog = l.sharesLog) := by
  unfold joinLog at h
  split at h
  · -- what is frozen is never joined
    next hfrozen =>
    cases h
    exact ⟨rfl, fun hwritable => by simp [Location.isReadOnly, hfrozen] at hwritable⟩
  · cases hshares : l.sharesLog with
    | false =>
      rw [hshares] at h
      cases h
      exact ⟨rfl, fun _ => rfl⟩
    | true =>
      -- a log that is shared is begun, unless nothing may be written
      rw [hshares] at h
      simp only [blank, Bool.false_eq_true, if_false, Bool.not_true] at h
      split at h
      · cases h
      · cases h
        exact ⟨rfl, fun _ => rfl⟩

end Database

theorem Store.startAt_blank {semantics : Semantics} {l : Location} {hasLog : Bool} {now : Int}
    {s : Store} (hshared : l.isPrivate = false)
    (h : startAt semantics l { Database.blank with hasLog := hasLog } now = .ok s) :
    l.isReadOnly = false ∧ s = fresh semantics hasLog now := by
  cases hreading : l.isReadOnly with
  | true =>
    -- a blank database is not current, and nothing may be changed to make it so
    have hfails : startAt semantics l { Database.blank with hasLog := hasLog } now =
        .error .readOnly := by
      simp only [startAt, hreading]
      rfl
    rw [hfails] at h
    cases h
  | false =>
    simp only [startAt, hreading, hshared] at h
    exact ⟨rfl, (Except.ok.inj h).symm⟩

end Relational

/-! ## §4 Sessions -/

namespace Session

open Relational (Store)

/-- A session whose store holds what an account says, in a file that can be opened again, or in
    memory. -/
structure Agrees (l : Location) (x : Session) (s : Store) (a : Account) : Prop where
  backend : x.settings.backend = .relational
  location : Location.ofText x.settings.databasePath = .ok l
  isWritable : l.isReadOnly = false
  isShared : l.isPrivate = false
  store : x.store = .relational l s
  isOpen : s.isOpen = a.isOpen
  holds : s.Holds a.added
  inFile : l.file.isSome = true → x.directory.Reopens l ∧ s.database.hasLog = l.sharesLog

variable {l : Location} {x : Session} {s : Store} {a : Account}

theorem Agrees.mapError_whenOpen (h : x.Agrees l s a) {α : Type} (result : α) :
    (s.whenOpen result).mapError StoreError.relational = a.whenOpen result := by
  rw [Store.whenOpen, Account.whenOpen, h.isOpen]
  split <;> rfl

/-- The store is opened again with all that is in its file, or with nothing if it is in memory. -/
theorem Agrees.initRelational_eq (h : x.Agrees l s a) (semantics : Semantics) (now : Int) :
    ∃ s' d, IncidentStore.initRelational l semantics (x.store.save x.directory) now =
        (.ok (.relational l s'), d) ∧
      Agrees l { x with directory := d, store := .relational l s' } s'
        ⟨true, if l.file.isSome then a.added else []⟩ := by
  cases hfile : l.file.isSome with
  | true =>
    -- the database that is saved has joined the log before, so it is found as it was left
    obtain ⟨hreopens, hlog⟩ := h.inFile hfile
    have hfrozen : l.isFrozen = false := (Bool.or_eq_false_iff.mp h.isWritable).2
    have hopen := hreopens s.database (Database.joinLog_eq_self hfrozen hlog)
    refine ⟨_, _, ?_, h.backend, h.location, h.isWritable, h.isShared, rfl, rfl,
      h.holds.reopened semantics, fun _ => ⟨hreopens.putDatabase s.database, hlog⟩⟩
    rw [h.store, IncidentStore.save, IncidentStore.initRelational, hopen]
    simp only [h.holds.startAt_eq semantics h.isWritable h.isShared now]
    rfl
  | false =>
    -- nothing is saved, and another blank database is begun
    have hnone : l.file = none := by simpa using hfile
    refine ⟨.fresh semantics false now, x.directory, ?_, h.backend, h.location, h.isWritable,
      h.isShared, rfl, rfl, Store.holds_fresh semantics false now, fun hsome => ?_⟩
    · have hput : x.directory.putDatabase l s.database = x.directory := by
        simp [Directory.putDatabase, hnone]
      have hopen : x.directory.connect l = (.ok .blank, x.directory) :=
        Directory.connect_of_openDatabase (by simp [Directory.openDatabase, hnone])
      rw [h.store, IncidentStore.save, hput, IncidentStore.initRelational, hopen]
      simp only [Store.startAt, h.isWritable, h.isShared]
      rfl
    · rw [hfile] at hsome
      cases hsome

/-- Each action is answered as it should be, and leaves what it should leave. -/
theorem Agrees.act (h : x.Agrees l s a) (action : Action) :
    (x.act action).1 = (a.act l.file.isSome action).1 ∧
      ∃ s', (x.act action).2.Agrees l s' (a.act l.file.isSome action).2 := by
  have hsame : { x with store := .relational l s } = x := by rw [← h.store]
  -- each action answers as the account does and leaves a store that agrees again
  cases action with
  | add new =>
    have hact : x.act (.add new) = (.added (a.whenOpen (new.withId (a.added.length + 1))),
        { x with store := .relational l (s.afterAdd new) }) := by
      simp only [Session.act, IncidentStore.repository, IncidentStore.dispatch, h.store,
        Store.repository, h.holds.add_eq, h.mapError_whenOpen]
    have hafter := h.holds.afterAdd new
    obtain ⟨hopen, hlog⟩ := s.afterAdd_keeps new
    rw [h.isOpen] at hafter hopen
    rw [hact]
    exact ⟨rfl, s.afterAdd new, { h with
      store := rfl
      isOpen := hopen
      holds := hafter
      inFile := fun hfile => (h.inFile hfile).imp_right hlog.trans }⟩
  | get id =>
    have hact : x.act (.get id) = (.found (a.whenOpen (a.find? id)), x) := by
      simp only [Session.act, IncidentStore.repository, IncidentStore.dispatch, h.store,
        Store.repository, h.holds.get_eq, h.mapError_whenOpen, hsame, Account.find?]
    rw [hact]
    exact ⟨rfl, s, h⟩
  | list =>
    have hact : x.act .list = (.listed (a.whenOpen (numbered 1 a.added)), x) := by
      simp only [Session.act, IncidentStore.repository, IncidentStore.dispatch, h.store,
        Store.repository, h.holds.list_eq, h.mapError_whenOpen, hsame]
    rw [hact]
    exact ⟨rfl, s, h⟩
  | close =>
    have hact : x.act .close = (.closed, { x with store := .relational l s.close }) := by
      rw [Session.act, h.store, IncidentStore.close]
    rw [hact]
    exact ⟨rfl, s.close, { h with store := rfl, isOpen := rfl, holds := h.holds.close }⟩
  -- opening the same location again finds what was added so far, or nothing without a file
  | reopen semantics now =>
    obtain ⟨s', d, hinit, hagrees⟩ := h.initRelational_eq semantics now
    have hact : x.act (.reopen semantics now) =
        (.reopened (.ok ()), { x with directory := d, store := .relational l s' }) := by
      simp only [Session.act, IncidentStore.init, h.backend, h.location, hinit, Except.mapError]
    rw [hact]
    exact ⟨rfl, s', hagrees⟩

theorem Agrees.answers_eq (h : x.Agrees l s a) (actions : List Action) :
    x.answers actions = a.answers l.file.isSome actions := by
  -- every action is answered alike and keeps the agreement, so the rest is answered alike too
  induction actions generalizing x s a with
  | nil => rfl
  | cons action actions ih =>
    obtain ⟨hanswer, s', hnext⟩ := h.act action
    show (x.act action).1 :: (x.act action).2.answers actions = _
    rw [hanswer, ih hnext]
    rfl

/-! ## §5 From the beginning -/

theorem joinLog_of_connect {d d' : Directory} {file : String} {db : Database}
    (hfile : l.file = some file)
    (hfree : d.databases.get? (Directory.pathTo (Directory.place file)) = none)
    (h : d.connect l = (.ok db, d')) : Database.blank.joinLog l = .ok db := by
  have hopen : d.openPath l file = (.ok db, d') := by
    simpa [Directory.openDatabase, hfile] using Directory.openDatabase_eq_of_connect h
  rw [(Directory.admits_of_openPath hopen).openPath, Directory.openFile, hfree] at hopen
  have hused {before : Directory} {here : List String}
      (hopened : before.useFile l here .blank = (.ok db, d')) :
      Database.blank.joinLog l = .ok db := by
    unfold Directory.useFile at hopened
    split at hopened
    · cases hopened
    · next hlog =>
      cases hopened
      exact hlog
  -- an empty file is a blank database, and so is one that is begun
  split at hopen
  · next hfound => cases hfound
  · split at hopen
    · exact hused hopen
    · cases hopen
  · split at hopen
    · exact hused hopen
    · cases hopen

variable {settings : StorageSettings} {semantics : Semantics} {d : Directory} {now : Int}

theorem start_eq_ok (hbackend : settings.backend = .relational)
    (hlocation : Location.ofText settings.databasePath = .ok l) :
    start settings semantics d now = .ok x ↔ ∃ db d' s, d.connect l = (.ok db, d') ∧
      Store.startAt semantics l db now = .ok s ∧ x = ⟨settings, d', .relational l s⟩ := by
  unfold start IncidentStore.init
  simp only [hbackend, hlocation, IncidentStore.initRelational]
  -- both connections succeed, or the session does not start
  rcases hopen : d.connect l with ⟨_ | db, d'⟩
  · simp [Except.mapError]
  · cases hstart : Store.startAt semantics l db now with
    | error e => simp [Except.mapError, Except.map, hstart]
    | ok s =>
      simp only [Except.mapError, Except.map, hstart]
      constructor
      · intro h
        exact ⟨db, d', s, rfl, hstart, (Except.ok.inj h).symm⟩
      · rintro ⟨_, _, _, hsame, hstarted, rfl⟩
        cases hsame
        cases hstart.symm.trans hstarted
        rfl

/-- A session that begins without a database agrees with an empty account. -/
theorem agrees_start (hbackend : settings.backend = .relational)
    (hlocation : Location.ofText settings.databasePath = .ok l) (hshared : l.isPrivate = false)
    (hfree : ∀ file, l.file = some file →
      d.databases.get? (Directory.pathTo (Directory.place file)) = none)
    (h : start settings semantics d now = .ok x) : ∃ s, x.Agrees l s {} := by
  obtain ⟨db, d', s, hopen, hstart, rfl⟩ := (start_eq_ok hbackend hlocation).mp h
  -- no database is at the file, so what is opened is blank up to its log
  have hblank : db = { Database.blank with hasLog := db.hasLog } := by
    cases hfile : l.file with
    | none =>
      have hdb : Database.blank = db := by
        simpa [Directory.openDatabase, hfile] using
          (Prod.mk.inj (Directory.openDatabase_eq_of_connect hopen)).1
      rw [← hdb]
    | some file =>
      exact (Database.joinLog_blank (joinLog_of_connect hfile (hfree file hfile) hopen)).1
  rw [hblank] at hstart
  obtain ⟨hwritable, rfl⟩ := Store.startAt_blank hshared hstart
  refine ⟨_, hbackend, hlocation, hwritable, hshared, rfl, rfl, Store.holds_fresh _ _ now, ?_⟩
  intro hsome
  obtain ⟨file, hfile⟩ := Option.isSome_iff_exists.mp hsome
  have hlog := joinLog_of_connect hfile (hfree file hfile) hopen
  exact ⟨Directory.reopens_of_connect hfile hopen, (Database.joinLog_blank hlog).2 hwritable⟩

/-- Whatever is done with a relational store that begins without a database, it is answered as by an
    account of what was added. In a file, what was added is kept when the store is closed and opened
    again, in whatever semantics and at whatever time. In memory what was added is kept until
    then. -/
theorem answers_eq_account (path : String) (service : Option ServiceSettings)
    (semantics : Semantics) (d : Directory) (now : Int) :
    (∀ l file x, Location.ofText path = .ok l → l.file = some file →
      d.databases.get? (Directory.pathTo (Directory.place file)) = none →
      start ⟨.relational, path, service⟩ semantics d now = .ok x →
        ∀ actions, x.answers actions = Account.answers true {} actions) ∧
    (path = Location.memoryPath →
      ∃ x, start ⟨.relational, path, service⟩ semantics d now = .ok x ∧
        ∀ actions, x.answers actions = Account.answers false {} actions) := by
  constructor
  · intro l file x hlocation hfile hnone hstart actions
    have hfree : ∀ other, l.file = some other →
        d.databases.get? (Directory.pathTo (Directory.place other)) = none := by
      intro other hother
      obtain rfl : file = other := Option.some.inj (hfile.symm.trans hother)
      exact hnone
    -- the session begins in agreement with the empty account and stays so
    obtain ⟨s, hagrees⟩ := agrees_start rfl hlocation (Location.isPrivate_of_file hlocation hfile)
      hfree hstart
    rw [hagrees.answers_eq, hfile]
    rfl
  · rintro rfl
    have hlocation : Location.ofText Location.memoryPath = .ok (.ofPath Location.memoryPath) := rfl
    have hnone : (Location.ofPath Location.memoryPath).file = none := rfl
    -- in memory nothing can fail
    have hstart : start ⟨.relational, Location.memoryPath, service⟩ semantics d now =
        .ok ⟨_, d, .relational (.ofPath Location.memoryPath) (.fresh semantics false now)⟩ :=
      (start_eq_ok rfl hlocation).mpr ⟨.blank, d, _, rfl, rfl, rfl⟩
    refine ⟨_, hstart, fun actions => ?_⟩
    obtain ⟨s, hagrees⟩ := agrees_start rfl hlocation rfl
      (fun file hfile => by rw [hnone] at hfile; cases hfile) hstart
    rw [hagrees.answers_eq, hnone]
    rfl

theorem answers_eq_account_reopened :
    let bug : NewIncident :=
      ⟨"Bug", "Größe", "ann", "Open", .ofList [("Ärger", "groß"), ("ärger", "")]⟩
    let task : NewIncident := { kind := "Task" }
    ∃ x, start ⟨.relational, "logs/../incidents.db", none⟩ .consistent .empty 10 = .ok x ∧
      x.answers [.add bug, .close, .add task, .get 1, .reopen .legacy 20, .add task, .get 1, .get 3,
          .list] =
        [.added (.ok (bug.withId 1)), .closed, .added (.error (.relational .closed)),
          .found (.error (.relational .closed)), .reopened (.ok ()), .added (.ok (task.withId 2)),
          .found (.ok (some (bug.withId 1))), .found (.ok none),
          .listed (.ok [bug.withId 1, task.withId 2])] := by
  intro bug task
  have hlocation : Location.ofText "logs/../incidents.db" = .ok (.ofPath "logs/../incidents.db") :=
    rfl
  have hfree : Directory.empty.databases.get?
      (Directory.pathTo (Directory.place "logs/../incidents.db")) = none := rfl
  -- the path leads through a folder that is not there and back
  obtain ⟨x, hstart⟩ : ∃ x, start ⟨.relational, "logs/../incidents.db", none⟩ .consistent .empty
      10 = .ok x := ⟨_, rfl⟩
  have hanswers := (answers_eq_account "logs/../incidents.db" none .consistent .empty 10).1 _
    "logs/../incidents.db" x hlocation rfl hfree hstart [.add bug, .close, .add task, .get 1,
      .reopen .legacy 20, .add task, .get 1, .get 3, .list]
  exact ⟨x, hstart, hanswers.trans rfl⟩

end Session

end IncidentTracker
