import IncidentTracker.Proofs.Directory

/-!
# Texts Beside a Database

A database is opened and written in one place. It can only be where there is a folder for it, so no
place becomes a folder by that; and what lies at other places stays as it is. Whatever is read by a
path that leads elsewhere is therefore the same before and after.

Main statements: `OnlyAt.read_eq`, `onlyAt_connect` and `onlyAt_putDatabase`.
-/

namespace IncidentTracker

namespace Directory

open Relational (Database Location)

/-! ## §1 Changes in a folder -/

/-- Two directories differ only in what lies at one place, and have the same folders. -/
structure OnlyAt (here : List String) (d d' : Directory) : Prop where
  isFolder : ∀ there, d'.isFolder there = d.isFolder there
  texts : ∀ there, IsPlace there → there ≠ here →
    d'.texts.get? (pathTo there) = d.texts.get? (pathTo there)
  databases : ∀ there, IsPlace there → there ≠ here →
    d'.databases.get? (pathTo there) = d.databases.get? (pathTo there)

variable {here : List String} {d d' : Directory}

theorem OnlyAt.refl (here : List String) (d : Directory) : OnlyAt here d d :=
  ⟨fun _ => rfl, fun _ _ _ => rfl, fun _ _ _ => rfl⟩

theorem OnlyAt.symm (h : OnlyAt here d d') : OnlyAt here d' d :=
  ⟨fun there => (h.isFolder there).symm, fun there hplace hne => (h.texts there hplace hne).symm,
    fun there hplace hne => (h.databases there hplace hne).symm⟩

theorem OnlyAt.trans {d'' : Directory} (h : OnlyAt here d d') (h' : OnlyAt here d' d'') :
    OnlyAt here d d'' :=
  ⟨fun there => (h'.isFolder there).trans (h.isFolder there),
    fun there hplace hne => (h'.texts there hplace hne).trans (h.texts there hplace hne),
    fun there hplace hne => (h'.databases there hplace hne).trans (h.databases there hplace hne)⟩

/-- Whatever a folder lies in is a folder. -/
theorem isFolder_of_prefix {there : List String} (hwithin : there <+: here)
    (h : d.isFolder here = true) : d.isFolder there = true := by
  have habove (habove : isAbove here = true) : isAbove there = true := by
    simp only [isAbove, Bool.or_eq_true, decide_eq_true_eq] at habove ⊢
    rcases habove with rfl | hups
    · -- the root lies in nothing but what every place lies in
      rcases List.prefix_cons_iff.mp hwithin with rfl | ⟨rest, rfl, hrest⟩
      · exact .inr rfl
      · exact .inl (List.prefix_nil.mp hrest ▸ rfl)
    · exact .inr (List.all_eq_true.mpr fun part hpart =>
        List.all_eq_true.mp hups part (hwithin.subset hpart))
  -- whatever lies in `here` lies in `there` as well
  have hlonger (place : List String) (hplace : here.isPrefixOf place = true) :
      there.isPrefixOf place = true :=
    List.isPrefixOf_iff_prefix.mpr (hwithin.trans (List.isPrefixOf_iff_prefix.mp hplace))
  simp only [isFolder, Bool.or_eq_true, List.any_eq_true] at h ⊢
  rcases h with ((h | ⟨folder, hmem, h⟩) | ⟨file, hmem, h⟩) | ⟨file, hmem, h⟩
  · exact .inl (.inl (.inl (habove h)))
  · exact .inl (.inl (.inr ⟨folder, hmem, hlonger _ h⟩))
  · exact .inl (.inr ⟨file, hmem, hlonger _ h⟩)
  · exact .inr ⟨file, hmem, hlonger _ h⟩

/-- What is put into a folder makes no further folders. -/
theorem ChangedAt.isFolder_eq (h : ChangedAt here d d') (hfolder : d.isFolder here.dropLast = true)
    (there : List String) : d'.isFolder there = d.isFolder there := by
  rw [Bool.eq_iff_iff]
  refine ⟨fun hafter => (h.gains there hafter).elim id fun hwithin => ?_, h.keeps there⟩
  exact isFolder_of_prefix (List.isPrefixOf_iff_prefix.mp hwithin) hfolder

theorem onlyAt_texts (hhere : IsPlace here) (hfolder : d.isFolder here.dropLast = true)
    (content : String) :
    OnlyAt here d { d with texts := d.texts.insert (pathTo here) content } where
  isFolder := (changedAt_texts hhere d content).isFolder_eq hfolder
  texts there hplace hne := by
    have hpath : pathTo here ≠ pathTo there := mt (pathTo_inj hhere hplace).mp (Ne.symm hne)
    simp [Dictionary.get?_insert, hpath]
  databases _ _ _ := rfl

theorem onlyAt_databases (hhere : IsPlace here) (hfolder : d.isFolder here.dropLast = true)
    (db : Database) :
    OnlyAt here d { d with databases := d.databases.insert (pathTo here) db } where
  isFolder := (changedAt_databases hhere d db).isFolder_eq hfolder
  texts _ _ _ := rfl
  databases there hplace hne := by
    have hpath : pathTo here ≠ pathTo there := mt (pathTo_inj hhere hplace).mp (Ne.symm hne)
    simp [Dictionary.get?_insert, hpath]

/-! ## §2 Reading -/

theorem walk_congr (hfolder : ∀ there, d'.isFolder there = d.isFolder there)
    (here parts : List String) : d'.walk here parts = d.walk here parts := by
  induction parts generalizing here with
  | nil => rfl
  | cons part parts ih => rw [walk, walk, hfolder, ih]

theorem eq_foldl_of_walk {parts there : List String} (h : d.walk here parts = some there) :
    there = parts.foldl enter here := by
  induction parts generalizing here with
  | nil => exact (Option.some.inj h).symm
  | cons part parts ih =>
    rw [walk] at h
    split at h
    · exact ih h
    · cases h

/-- What is read elsewhere is the same. -/
theorem OnlyAt.read_eq (h : OnlyAt here d d') {path : String} (hne : place path ≠ here) :
    d'.read path = d.read path := by
  unfold read
  rw [walk_congr h.isFolder]
  split
  · rfl
  · split
    · rfl
    · -- the walk ends at the place of the path, which is not the one that differs
      next there hwalk =>
      have hthere : there = place path := eq_foldl_of_walk hwalk
      subst hthere
      rw [h.isFolder, h.texts _ (isPlace_place path) hne, h.databases _ (isPlace_place path) hne]

/-! ## §3 The place of a database -/

variable {l : Location} {file : String}

theorem onlyAt_openFile (hhere : IsPlace here) (hfolder : d.isFolder here.dropLast = true)
    (l : Location) : OnlyAt here d (d.openFile l here).2 := by
  obtain ⟨before, hbegun, hjoined⟩ := d.openFile_snd l here
  -- the file may have been begun, which changes the one place
  have hbefore : OnlyAt here d before := by
    rcases hbegun with hsame | hbegun
    · rw [hsame]
      exact .refl here d
    · rw [hbegun]
      exact onlyAt_texts hhere hfolder ""
  obtain hsame | ⟨joined, hput⟩ := hjoined
  · rwa [hsame]
  · rw [hput]
    exact hbefore.trans (onlyAt_databases hhere (by rwa [hbefore.isFolder]) joined)

/-- Opening a database changes at most what lies at its place. -/
theorem onlyAt_openDatabase (hfile : l.file = some file) (d : Directory) :
    OnlyAt (place file) d (d.openDatabase l).2 := by
  simp only [openDatabase, hfile]
  obtain ⟨e, herror⟩ | hadmits := d.openPath_cases l file
  · rw [herror]
    exact .refl _ d
  · rw [hadmits.openPath]
    exact onlyAt_openFile (isPlace_place file) hadmits.inFolder l

/-- Connecting to a database changes no more than opening it does. -/
theorem onlyAt_connect (hfile : l.file = some file) (d : Directory) :
    OnlyAt (place file) d (d.connect l).2 := by
  have hopen := onlyAt_openDatabase hfile d
  unfold connect
  -- two changes at one place are one change there
  split
  · next hfails => rwa [hfails] at hopen
  · next between hbetween =>
    rw [hbetween] at hopen
    exact hopen.trans (onlyAt_openDatabase hfile between)

/-- Writing a database to which there was a connection changes what lies at its place. -/
theorem onlyAt_putDatabase (hfile : l.file = some file) {db : Database}
    (h : d.connect l = (.ok db, d')) (db' : Database) :
    OnlyAt (place file) d (d'.putDatabase l db') := by
  have hconnected : OnlyAt (place file) d d' := by
    have honly := onlyAt_connect hfile d
    rwa [h] at honly
  have hopen : d'.openPath l file = (.ok db, d') := by
    simpa [openDatabase, hfile] using openDatabase_of_connect h
  -- the path was opened, so its folder is there already
  have hfolder : d'.isFolder (place file).dropLast = true := (admits_of_openPath hopen).inFolder
  simp only [putDatabase, hfile]
  exact hconnected.trans (onlyAt_databases (isPlace_place file) hfolder db')

end Directory

end IncidentTracker
