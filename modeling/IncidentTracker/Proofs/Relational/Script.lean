import IncidentTracker.Relational.Database

/-!
# What the Script Does

Statements are executed one after the other, so what holds of a script is shown for one statement and
then for all. No row of an incident or of an attribute is touched; a part of the schema is there
afterwards exactly if it was there before or a statement creates it; and the version that is noted last
stands alone in its row. After `Database.migrate` a database is current, at whatever time, so migrating
it again leaves it as it is.

Main statements: `Database.sameRows_migrate`, `Database.mem_created_migrate` and
`Database.migrate_migrate`.
-/

namespace IncidentTracker.Relational

namespace Database

/-- Two databases have the same rows of incidents and of attributes, and the same identifiers have been
    given in them. -/
structure SameRows (db db' : Database) : Prop where
  incidents : db'.incidents = db.incidents
  attributes : db'.attributes = db.attributes
  lastId : db'.lastId = db.lastId

variable {db db' : Database}

theorem SameRows.refl (db : Database) : SameRows db db :=
  ⟨rfl, rfl, rfl⟩

theorem SameRows.trans {db'' : Database} (h : SameRows db db') (h' : SameRows db' db'') :
    SameRows db db'' :=
  ⟨h'.incidents.trans h.incidents, h'.attributes.trans h.attributes, h'.lastId.trans h.lastId⟩

/-! ## §1 One statement -/

theorem sameRows_execute (now : Int) (db : Database) (statement : Statement) :
    SameRows db (db.execute now statement) := by
  cases statement with
  | create part =>
    rw [execute]
    split <;> exact ⟨rfl, rfl, rfl⟩
  | note version => exact ⟨rfl, rfl, rfl⟩

theorem hasLog_execute (now : Int) (db : Database) (statement : Statement) :
    (db.execute now statement).hasLog = db.hasLog := by
  cases statement with
  | create part =>
    rw [execute]
    split <;> rfl
  | note version => rfl

theorem mem_created_execute (now : Int) (db : Database) (statement : Statement)
    (part : SchemaPart) : part ∈ (db.execute now statement).created ↔
      part ∈ db.created ∨ statement = .create part := by
  cases statement with
  | create other =>
    rw [Statement.create.injEq, execute]
    split
    · next hexists =>
      -- what exists is not created again
      refine ⟨.inl, fun h => h.elim id ?_⟩
      rintro rfl
      simpa using hexists
    · rw [List.mem_append, List.mem_singleton, eq_comm]
  | note version => simp [execute, setVersion]

/-- The version that is noted is found. -/
theorem version_setVersion (db : Database) (version : Option Int) (now : Int) :
    (db.setVersion version now).version = version := by
  have hothers : (db.versionRows.filter fun row => row.id != 1).find? (fun row => row.id == 1) =
      none := by
    simp [List.find?_eq_none]
  rw [Database.version, setVersion, List.find?_append, hothers, Option.none_or]
  cases version <;> rfl

/-! ## §2 All statements -/

theorem sameRows_executeEach (now : Int) (db : Database) (statements : List Statement) :
    SameRows db (statements.foldl (execute now) db) := by
  induction statements generalizing db with
  | nil => exact .refl db
  | cons statement statements ih =>
    exact (sameRows_execute now db statement).trans (ih (db.execute now statement))

theorem hasLog_executeEach (now : Int) (db : Database) (statements : List Statement) :
    (statements.foldl (execute now) db).hasLog = db.hasLog := by
  induction statements generalizing db with
  | nil => rfl
  | cons statement statements ih => exact (ih _).trans (hasLog_execute now db statement)

theorem mem_created_executeEach (now : Int) (db : Database) (statements : List Statement)
    (part : SchemaPart) : part ∈ (statements.foldl (execute now) db).created ↔
      part ∈ db.created ∨ .create part ∈ statements := by
  induction statements generalizing db with
  | nil => simp
  | cons statement statements ih =>
    rw [List.foldl_cons, ih, mem_created_execute, List.mem_cons, or_assoc, @eq_comm _ statement]

/-! ## §3 Migrating -/

theorem sameRows_migrate (db : Database) (now : Int) : SameRows db (db.migrate now) := by
  unfold migrate
  split
  · exact .refl db
  · exact sameRows_executeEach now db script

theorem hasLog_migrate (db : Database) (now : Int) : (db.migrate now).hasLog = db.hasLog := by
  unfold migrate
  split
  · rfl
  · exact hasLog_executeEach now db script

/-- The script creates the whole schema. -/
theorem mem_created_applySchema (db : Database) (now : Int) (part : SchemaPart) :
    part ∈ (db.applySchema now).created := by
  refine (mem_created_executeEach now db script part).mpr (.inr ?_)
  cases part <;> decide

/-- Migrating creates the whole schema, or finds that the database is current. -/
theorem mem_created_migrate (db : Database) (now : Int) (part : SchemaPart) :
    part ∈ (db.migrate now).created ↔ part ∈ db.created ∨ db.isCurrent = false := by
  unfold migrate
  split
  · next hcurrent => simp [hcurrent]
  · next hbehind => simp [mem_created_applySchema, hbehind]

theorem hasTables_iff {db : Database} :
    db.hasTables = true ↔ ∀ table ∈ SchemaPart.tables, table ∈ db.created := by
  simp only [hasTables, List.all_eq_true, List.contains_iff_mem]

/-- Where there are tables, or something is left to be done, there are tables after migrating. -/
theorem hasTables_migrate (h : db.isCurrent = true → db.hasTables = true) (now : Int) :
    (db.migrate now).hasTables = true := by
  refine hasTables_iff.mpr fun table htable => (mem_created_migrate db now table).mpr ?_
  cases hcurrent : db.isCurrent with
  | false => exact .inr rfl
  | true => exact .inl (hasTables_iff.mp (h hcurrent) table htable)

/-- The script notes the current version. -/
theorem version_applySchema (db : Database) (now : Int) :
    (db.applySchema now).version = some currentVersion :=
  version_setVersion _ (some currentVersion) now

/-- After migrating a database is current. -/
theorem isCurrent_migrate (db : Database) (now : Int) : (db.migrate now).isCurrent = true := by
  unfold migrate
  split
  · next hcurrent => exact hcurrent
  · rw [isCurrent, version_applySchema, Bool.and_eq_true_iff]
    exact ⟨List.contains_iff_mem.mpr (mem_created_applySchema db now .versions), rfl⟩

/-- Migrating again, at whatever time, changes nothing. -/
theorem migrate_migrate (db : Database) (now later : Int) :
    (db.migrate now).migrate later = db.migrate now :=
  if_pos (isCurrent_migrate db now)

end Database

end IncidentTracker.Relational
