import IncidentTracker.Directory
import IncidentTracker.Proofs.Dictionary
import IncidentTracker.Proofs.Text.Pieces

/-!
# Places in a Directory

Paths lead to places, and every place has a path of its own that leads there. So what is put at a
place changes nothing about other places, and nothing about which places are folders but for those
above it.

A path may pass, on its way down, through the very place at which it ends, as only one that leads up
again can. A file that is begun there stands in the way of the second connection, so no database is
opened. Wherever both connections have found their way, the database is found again after it has
been written, as often as one likes.

Main statements: `place_pathTo`, `openDatabase_of_connect` and `reopens_of_connect`.
-/

namespace IncidentTracker

namespace Directory

open Relational (Database Location)

/-! ## §1 Places -/

/-- A part that leads one step down, wherever it is entered. -/
structure IsName (part : String) : Prop where
  ne_empty : part ≠ ""
  ne_here : part ≠ "."
  ne_up : part ≠ ".."
  noSlash : '/' ∉ part.toList

/-- What paths lead to: places above the directory or at the root, and places further down. -/
inductive IsPlace : List String → Prop
  | above {here : List String} (h : isAbove here = true) : IsPlace here
  | inside {here : List String} {name : String} (hhere : IsPlace here) (hname : IsName name) :
    IsPlace (here ++ [name])

theorem enter_of_isName {part : String} (h : IsName part) (here : List String) :
    enter here part = here ++ [part] := by
  simp [enter, h.ne_empty, h.ne_here, h.ne_up]

theorem isPlace_enter {here : List String} {part : String} (hhere : IsPlace here)
    (hpart : '/' ∉ part.toList) : IsPlace (enter here part) := by
  -- a part that is empty or a dot leads nowhere
  unfold enter
  split
  · exact hhere
  · next hstays =>
    simp only [Bool.or_eq_true, decide_eq_true_eq, not_or] at hstays
    by_cases hup : part = ".."
    · -- the way up leads out of the last part, or from above the directory further away
      subst hup
      split
      · exact hhere
      · next hroot =>
        simp only [decide_true, Bool.true_and, decide_eq_true_eq] at hroot
        split
        · next hinside =>
          cases hhere with
          | above habove => simp [habove] at hinside
          | inside hhere _ => rwa [List.dropLast_concat]
        · next habove =>
          have hups : here.all (· = "..") = true := by simpa [isAbove, hroot] using habove
          exact .above (by simp [isAbove, hups])
    · simp only [hup, decide_false, Bool.false_and, Bool.false_eq_true, if_false]
      -- any other part is a name, one level deeper
      exact .inside hhere ⟨hstays.1, hstays.2, hup, hpart⟩

theorem isPlace_foldl_enter {here : List String} {parts : List String} (hhere : IsPlace here)
    (hparts : ∀ part ∈ parts, '/' ∉ part.toList) : IsPlace (parts.foldl enter here) := by
  induction parts generalizing here with
  | nil => exact hhere
  | cons part parts ih =>
    exact ih (isPlace_enter hhere (hparts part List.mem_cons_self)) fun other hmem =>
      hparts other (List.mem_cons_of_mem part hmem)

theorem isPlace_start (path : String) : IsPlace (start path) := by
  unfold start
  split <;> exact .above rfl

theorem noSlash_of_mem_parts {path part : String} (h : part ∈ parts path) : '/' ∉ part.toList := by
  obtain ⟨piece, hpiece, rfl⟩ := List.mem_map.mp h
  rw [String.toList_ofList]
  exact Text.notMem_of_mem_cut hpiece

theorem isPlace_place (path : String) : IsPlace (place path) :=
  isPlace_foldl_enter (isPlace_start path) fun _ => noSlash_of_mem_parts

/-! ## §2 The path to a place -/

theorem foldl_enter_names {names : List String} (h : ∀ name ∈ names, IsName name)
    (here : List String) : names.foldl enter here = here ++ names := by
  induction names generalizing here with
  | nil => simp
  | cons name names ih =>
    rw [List.foldl_cons, enter_of_isName (h name List.mem_cons_self),
      ih fun other hmem => h other (List.mem_cons_of_mem name hmem), List.append_assoc,
      List.singleton_append]

theorem foldl_enter_ups (n m : Nat) :
    (List.replicate n "..").foldl enter (List.replicate m "..") = List.replicate (m + n) ".." := by
  induction n generalizing m with
  | zero => rfl
  | succ n ih =>
    have hroot : List.replicate m ".." ≠ [root] := by
      cases m with
      | zero => exact nofun
      | succ m => exact fun heq => absurd (List.cons.inj heq).1 (by decide)
    -- a step up from above the directory leads one further up
    have hup : enter (List.replicate m "..") ".." = List.replicate (m + 1) ".." := by
      simp [enter, isAbove, hroot, List.replicate_succ']
    rw [List.replicate_succ, List.foldl_cons, hup, ih, Nat.add_assoc, Nat.add_comm 1 n]

/-- A place is the root or some steps up, and from there it goes down. -/
theorem IsPlace.exists_base {here : List String} (h : IsPlace here) :
    ∃ names, (∀ name ∈ names, IsName name) ∧
      (here = root :: names ∨ ∃ n, here = List.replicate n ".." ++ names) := by
  -- the rules for places are the two ways to build the base: above, then one name at a time
  induction h with
  | @above here habove =>
    refine ⟨[], nofun, ?_⟩
    simp only [isAbove, Bool.or_eq_true, decide_eq_true_eq] at habove
    refine habove.imp_right fun hups => ⟨here.length, ?_⟩
    rw [List.append_nil]
    exact List.eq_replicate_of_mem fun part hpart =>
      of_decide_eq_true (List.all_eq_true.mp hups part hpart)
  | @inside _ name _ hname ih =>
    obtain ⟨names, hnames, hbase⟩ := ih
    refine ⟨names ++ [name], fun other hmem => ?_, ?_⟩
    · rcases List.mem_append.mp hmem with hmem | hmem
      · exact hnames other hmem
      · exact List.mem_singleton.mp hmem ▸ hname
    · obtain rfl | ⟨n, rfl⟩ := hbase
      · exact .inl rfl
      · exact .inr ⟨n, List.append_assoc _ _ _⟩

/-- Parts that were joined with slashes are the parts of what they were joined to. -/
theorem parts_intercalate {pieces : List String} (hne : pieces ≠ [])
    (h : ∀ piece ∈ pieces, '/' ∉ piece.toList) : parts ("/".intercalate pieces) = pieces := by
  have hslash : "/".toList = ['/'] := rfl
  -- the slashes are where the pieces meet, and nowhere else
  have hcut : Text.cut '/' (['/'].intercalate (pieces.map String.toList)) =
      pieces.map String.toList := by
    refine Text.cut_intercalate (by simpa using hne) fun piece hpiece => ?_
    obtain ⟨other, hother, rfl⟩ := List.mem_map.mp hpiece
    exact h other hother
  rw [parts, String.toList_intercalate, hslash, hcut, List.map_map]
  simp [Function.comp_def]

theorem start_intercalate {part : String} (hne : part ≠ "") (hslash : '/' ∉ part.toList)
    (rest : List String) : start ("/".intercalate (part :: rest)) = [] := by
  obtain ⟨c, cs, hchars⟩ := List.exists_cons_of_ne_nil (mt String.toList_eq_nil_iff.mp hne)
  have hc : c ≠ '/' := by
    rintro rfl
    exact hslash (hchars ▸ List.mem_cons_self)
  -- the path begins with the first character of its first part, which is no slash
  have hhead : ("/".intercalate (part :: rest)).toList.head? = some c := by
    rw [String.toList_intercalate, List.map_cons, hchars]
    cases rest <;> simp
  rw [start, hhead]
  simp [hc]

/-- The path to a place leads to that place. -/
theorem place_pathTo {here : List String} (h : IsPlace here) : place (pathTo here) = here := by
  obtain ⟨names, hnames, rfl | ⟨n, rfl⟩⟩ := h.exists_base
  · -- the path begins with a slash, which is an empty part
    have hchars : (pathTo (root :: names)).toList = '/' :: ("/".intercalate names).toList := by
      rw [pathTo, if_pos rfl, String.toList_append]
      rfl
    have hparts : parts (pathTo (root :: names)) = "" :: parts ("/".intercalate names) := by
      rw [parts, hchars, Text.cut, if_pos rfl]
      rfl
    have hstart : start (pathTo (root :: names)) = [root] := by
      rw [start, hchars]
      rfl
    rw [place, hparts, hstart]
    cases names with
    | nil => rfl
    | cons name names =>
      rw [parts_intercalate (List.cons_ne_nil name names) fun piece hmem =>
        (hnames piece hmem).noSlash]
      exact foldl_enter_names hnames [root]
  · -- every part is a step up or a name, so none is empty and none has a slash
    have hpart : ∀ part ∈ List.replicate n ".." ++ names, part ≠ "" ∧ '/' ∉ part.toList := by
      intro part hmem
      rcases List.mem_append.mp hmem with hmem | hmem
      · rw [List.eq_of_mem_replicate hmem]
        decide
      · exact ⟨(hnames part hmem).ne_empty, (hnames part hmem).noSlash⟩
    have hfold : (List.replicate n ".." ++ names).foldl enter [] =
        List.replicate n ".." ++ names := by
      have hups := foldl_enter_ups n 0
      rw [List.replicate_zero, Nat.zero_add] at hups
      rw [List.foldl_append, hups, foldl_enter_names hnames]
    cases hhere : List.replicate n ".." ++ names with
    | nil => rfl
    | cons part rest =>
      rw [hhere] at hpart hfold
      obtain ⟨hne, hslash⟩ := hpart part List.mem_cons_self
      have hroot : part ≠ root := by
        rintro rfl
        exact hslash (by decide)
      rw [pathTo, if_neg hroot, place, start_intercalate hne hslash,
        parts_intercalate (List.cons_ne_nil part rest) fun piece hmem => (hpart piece hmem).2]
      exact hfold

theorem pathTo_inj {here there : List String} (hhere : IsPlace here) (hthere : IsPlace there) :
    pathTo here = pathTo there ↔ here = there := by
  constructor
  · intro heq
    rw [← place_pathTo hhere, heq, place_pathTo hthere]
  · rintro rfl
    rfl

/-! ## §3 Changes at a place -/

/-- A directory after something has been put at a place: other places are files if they were, and
    at most those above it have become folders. -/
structure ChangedAt (here : List String) (d d' : Directory) : Prop where
  isFile : ∀ there, IsPlace there → there ≠ here → d'.isFile there = d.isFile there
  keeps : ∀ there, d.isFolder there = true → d'.isFolder there = true
  gains : ∀ there, d'.isFolder there = true →
    d.isFolder there = true ∨ there.isPrefixOf here.dropLast = true

variable {here : List String} {d d' : Directory}

/-- Whatever is put at a place lies there, and makes folders of what is above it. -/
theorem changedAt_of_put (hhere : IsPlace here)
    (hfolder : ∀ there, d'.isFolder there =
      (there.isPrefixOf (place (pathTo here)).dropLast || d.isFolder there))
    (hfile : ∀ there, pathTo here ≠ pathTo there → d'.isFile there = d.isFile there) :
    ChangedAt here d d' where
  isFile there hthere hne := hfile there fun heq => hne ((pathTo_inj hhere hthere).mp heq).symm
  keeps there h := by rw [hfolder, h, Bool.or_true]
  -- what was put lies at its own place, so no folder but those around it is gained
  gains there h := by
    rw [hfolder, place_pathTo hhere, Bool.or_eq_true] at h
    exact h.symm

theorem changedAt_texts (hhere : IsPlace here) (d : Directory) (content : String) :
    ChangedAt here d { d with texts := d.texts.insert (pathTo here) content } := by
  apply changedAt_of_put hhere
  · intro there
    have hany := Dictionary.any_insertEntry (fun name => there.isPrefixOf (place name).dropLast)
      (pathTo here) content d.texts.entries
    simp only [isFolder, Dictionary.entries_insert, hany, Bool.or_assoc, Bool.or_left_comm]
  · intro there hne
    simp [isFile, Dictionary.get?_insert, hne]

theorem changedAt_databases (hhere : IsPlace here) (d : Directory) (db : Database) :
    ChangedAt here d { d with databases := d.databases.insert (pathTo here) db } := by
  apply changedAt_of_put hhere
  · intro there
    have hany := Dictionary.any_insertEntry (fun name => there.isPrefixOf (place name).dropLast)
      (pathTo here) db d.databases.entries
    simp only [isFolder, Dictionary.entries_insert, hany, Bool.or_assoc, Bool.or_left_comm]
  · intro there hne
    simp [isFile, Dictionary.get?_insert, hne]

/-! ## §4 The way down a path -/

theorem eq_foldl_of_descend {parts : List String} {there : List String}
    (h : d.descend here parts = some there) : there = parts.foldl enter here := by
  induction parts generalizing here with
  | nil => exact (Option.some.inj h).symm
  | cons part parts ih =>
    rw [descend] at h
    -- a part that leads no deeper is always taken, any other one unless a file is in the way
    split at h
    · exact ih h
    · split at h
      · cases h
      · exact ih h

/-- The way down depends on nothing but which places are files. -/
theorem descend_congr {parts : List String} (hhere : IsPlace here)
    (hparts : ∀ part ∈ parts, '/' ∉ part.toList)
    (h : ∀ there, IsPlace there → d'.isFile there = d.isFile there) :
    d'.descend here parts = d.descend here parts := by
  induction parts generalizing here with
  | nil => rfl
  | cons part parts ih =>
    have hnext := isPlace_enter hhere (hparts part List.mem_cons_self)
    have hrest := ih hnext fun other hmem => hparts other (List.mem_cons_of_mem part hmem)
    rw [descend, descend, h here hhere, hrest]

/-! ## §5 Files -/

/-- A file at a place holds a database: as such, or as an empty file a blank one. -/
inductive Holds (d : Directory) (here : List String) : Database → Prop
  | database {db : Database} (h : d.databases.get? (pathTo here) = some db) : Holds d here db
  | empty {content : String} (hnone : d.databases.get? (pathTo here) = none)
    (htext : d.texts.get? (pathTo here) = some content)
    (hempty : Text.byteSize content.toList ≤ maxBlankBytes) : Holds d here .blank

variable {l : Location} {db joined : Database} {e : Relational.Error}

theorem Holds.isFile (h : d.Holds here db) : d.isFile here = true := by
  cases h with
  | database h => simp [Directory.isFile, h]
  | empty hnone htext hempty => simp [Directory.isFile, htext]

theorem holds_insert (d : Directory) (here : List String) (db : Database) :
    Holds { d with databases := d.databases.insert (pathTo here) db } here db :=
  .database (by simp [Dictionary.get?_insert])

theorem Holds.openFile_eq (h : d.Holds here db) (l : Location) :
    d.openFile l here = d.useFile l here db := by
  cases h with
  | database h => simp only [openFile, h]
  | empty hnone htext hempty => simp only [openFile, hnone, htext, if_pos hempty]

/-- A database that has joined the log has nothing left to join. -/
theorem joinLog_joinLog (h : db.joinLog l = .ok joined) : joined.joinLog l = .ok joined := by
  unfold Database.joinLog at h ⊢
  split at h
  · next hfrozen => rw [if_pos hfrozen]
  · next hchanging =>
    rw [if_neg hchanging]
    split at h
    · next hlog =>
      split at h
      · next hshares =>
        cases h
        rw [if_pos hlog, if_pos hshares]
      · cases h
    · next hnolog =>
      split at h
      · next halone =>
        cases h
        rw [if_neg hnolog, if_pos halone]
      · next hshares =>
        -- the database is given a log, and has it from then on
        split at h
        · cases h
        · cases h
          rw [if_pos rfl, if_pos (by simpa using hshares)]

/-- What is used at a place is held there afterwards, with the log that it has joined. -/
theorem holds_useFile (hholds : d.Holds here db) (h : d.useFile l here db = (.ok joined, d')) :
    d'.Holds here joined ∧ joined.joinLog l = .ok joined := by
  unfold useFile at h
  -- nothing had to be written, or what was joined has been written
  split at h
  · cases h
  · next hlog =>
    cases h
    refine ⟨?_, joinLog_joinLog hlog⟩
    split
    · next hsame => exact hsame ▸ hholds
    · exact holds_insert d here joined

/-- A file is used that is there or that is begun, if nothing fails. -/
theorem openFile_cases (d : Directory) (l : Location) (here : List String) :
    (∃ e, d.openFile l here = (.error e, d)) ∨
      ∃ before db, before.Holds here db ∧ d.openFile l here = before.useFile l here db ∧
        (before = d ∨ l.access = .create ∧ db = .blank ∧ before = d.beginFile here) := by
  -- the order of the cases is that of `openFile`: a database, some text, nothing at all
  cases hdatabase : d.databases.get? (pathTo here) with
  | some db =>
    have hholds : d.Holds here db := .database hdatabase
    exact .inr ⟨d, db, hholds, hholds.openFile_eq l, .inl rfl⟩
  | none =>
    cases htext : d.texts.get? (pathTo here) with
    | some content =>
      by_cases hempty : Text.byteSize content.toList ≤ maxBlankBytes
      · have hholds : d.Holds here .blank := .empty hdatabase htext hempty
        exact .inr ⟨d, .blank, hholds, hholds.openFile_eq l, .inl rfl⟩
      · refine .inl ⟨.notADatabase, ?_⟩
        simp only [openFile, hdatabase, htext, if_neg hempty]
    | none =>
      -- only a location that may create begins the file
      by_cases hcreate : l.access = .create
      · -- the file that is begun is empty, so what it holds is blank
        have hholds : (d.beginFile here).Holds here .blank := by
          have htext : (d.beginFile here).texts.get? (pathTo here) = some "" := by
            simp [beginFile, Dictionary.get?_insert]
          exact .empty hdatabase htext (by decide)
        refine .inr ⟨_, _, hholds, ?_, .inr ⟨hcreate, rfl, rfl⟩⟩
        simp only [openFile, hdatabase, htext, if_pos hcreate]
      · refine .inl ⟨.cannotOpen, ?_⟩
        simp only [openFile, hdatabase, htext, if_neg hcreate]

/-- A blank database can join the log wherever it may be begun. -/
theorem joinLog_blank_ne_error (h : l.access = .create) : Database.blank.joinLog l ≠ .error e := by
  have hwritable : l.isFrozen = false → l.isReadOnly = false := by
    intro hchanging
    simp [Location.isReadOnly, h, hchanging]
  unfold Database.joinLog
  cases hfrozen : l.isFrozen <;> cases hshares : l.sharesLog <;>
    simp [Database.blank, hwritable, hfrozen]

/-- A file that is not opened is not touched. -/
theorem eq_of_openFile_eq_error (h : d.openFile l here = (.error e, d')) : d' = d := by
  obtain ⟨_, hsame⟩ | ⟨before, db, -, hused, hbegun⟩ := d.openFile_cases l here
  · exact (Prod.mk.inj (h.symm.trans hsame)).2
  · rw [hused, useFile] at h
    split at h
    · next hlog =>
      cases h
      -- a file that was begun is blank, and a blank database joins the log wherever it may be begun
      obtain rfl | ⟨hcreate, rfl, -⟩ := hbegun
      · rfl
      · exact absurd hlog (joinLog_blank_ne_error hcreate)
    · cases h

/-- What was opened in a file is held there afterwards. -/
theorem holds_openFile (h : d.openFile l here = (.ok db, d')) :
    d'.Holds here db ∧ db.joinLog l = .ok db := by
  obtain ⟨_, herror⟩ | ⟨before, _, hholds, hused, -⟩ := d.openFile_cases l here
  · cases herror.symm.trans h
  · exact holds_useFile hholds (hused.symm.trans h)

/-- A file that holds what has joined the log is opened as it is. -/
theorem Holds.openFile_eq_ok (h : d.Holds here db) (hlog : db.joinLog l = .ok db) :
    d.openFile l here = (.ok db, d) := by
  rw [h.openFile_eq, useFile, hlog]
  simp

/-- What opening a file changes is what is put at its place: an empty file, or a database with its
    log. -/
theorem openFile_snd (d : Directory) (l : Location) (here : List String) :
    ∃ before, (before = d ∨ before = d.beginFile here) ∧
      ((d.openFile l here).2 = before ∨ ∃ joined, (d.openFile l here).2 =
        { before with databases := before.databases.insert (pathTo here) joined }) := by
  obtain ⟨_, hsame⟩ | ⟨before, db, -, hused, hbegun⟩ := d.openFile_cases l here
  · exact ⟨d, .inl rfl, .inl (by rw [hsame])⟩
  · refine ⟨before, hbegun.imp_right fun h => h.2.2, ?_⟩
    -- a database that joins the log is written at once, any other one stays as it was
    rw [hused, useFile]
    split
    · exact .inl rfl
    · next joined _ =>
      split
      · exact .inl rfl
      · exact .inr ⟨joined, rfl⟩

/-! ## §6 Paths -/

/-- What the directory must be like for a database to be opened at a path. -/
structure Admits (d : Directory) (l : Location) (path : String) : Prop where
  descends : d.descend (start path) (parts path) = some (place path)
  notFolder : d.isFolder (place path) = false
  inFolder : d.isFolder (place path).dropLast = true
  hasRoom : (l.isFrozen || hasRoom (place path)) = true

theorem Admits.openPath {path : String} (h : d.Admits l path) :
    d.openPath l path = d.openFile l (place path) := by
  simp [Directory.openPath, h.descends, h.notFolder, h.inFolder, h.hasRoom]

/-- Nothing happens at a path where no database can be opened. -/
theorem openPath_cases (d : Directory) (l : Location) (path : String) :
    (∃ e, d.openPath l path = (.error e, d)) ∨ d.Admits l path := by
  unfold openPath
  split
  · exact .inl ⟨_, rfl⟩
  · next there hdescend =>
    -- walking down the path without leaving ends at the place of the path
    have hplace : there = place path := eq_foldl_of_descend hdescend
    subst hplace
    split
    · exact .inl ⟨_, rfl⟩
    · next hfolder =>
      split
      · next hroom =>
        obtain ⟨hparent, hroom⟩ := Bool.and_eq_true_iff.mp hroom
        exact .inr ⟨hdescend, Bool.eq_false_iff.mpr hfolder, hparent, hroom⟩
      · exact .inl ⟨_, rfl⟩

theorem admits_of_openPath {path : String} (h : d.openPath l path = (.ok db, d')) :
    d.Admits l path := by
  refine (d.openPath_cases l path).resolve_left fun ⟨e, herror⟩ => ?_
  cases herror.symm.trans h

theorem not_isPrefixOf_dropLast (hne : here ≠ []) : here.isPrefixOf here.dropLast = false := by
  rw [Bool.eq_false_iff]
  intro hprefix
  have hle := (List.isPrefixOf_iff_prefix.mp hprefix).length_le
  have hpos := List.length_pos_iff.mpr hne
  rw [List.length_dropLast] at hle
  omega

/-- Where a file lies that can be opened, whatever else is put there can be opened as well. -/
theorem Admits.changed {path : String} (h : d.Admits l path)
    (hfile : d'.isFile (place path) = d.isFile (place path))
    (hchanged : ChangedAt (place path) d d') : d'.Admits l path where
  descends := by
    rw [← h.descends]
    apply descend_congr (isPlace_start path) fun _ => noSlash_of_mem_parts
    intro there hthere
    by_cases heq : there = place path
    · rw [heq, hfile]
    · exact hchanged.isFile there hthere heq
  notFolder := by
    -- what is above everything is a folder to begin with
    have hne : place path ≠ [] := fun hnil => by
      have hfolder := h.notFolder
      simp [hnil, isFolder, isAbove] at hfolder
    rw [Bool.eq_false_iff]
    intro hfolder
    rcases hchanged.gains _ hfolder with hbefore | hprefix
    · rw [h.notFolder] at hbefore
      cases hbefore
    · rw [not_isPrefixOf_dropLast hne] at hprefix
      cases hprefix
  inFolder := hchanged.keeps _ h.inFolder
  hasRoom := h.hasRoom

/-- A path that is not opened leads nowhere, or to a file that is not opened. -/
theorem eq_of_openPath_eq_error {path : String} (h : d.openPath l path = (.error e, d')) :
    d' = d := by
  obtain ⟨_, hsame⟩ | hadmits := d.openPath_cases l path
  · exact (Prod.mk.inj (h.symm.trans hsame)).2
  · rw [hadmits.openPath] at h
    exact eq_of_openFile_eq_error h

/-! ## §7 Opening again -/

/-- A database that is not opened leaves the directory as it is. -/
theorem eq_of_openDatabase_eq_error (h : d.openDatabase l = (.error e, d')) : d' = d := by
  unfold openDatabase at h
  split at h
  · cases h
  · exact eq_of_openPath_eq_error h

/-- What was opened is found again, if the way to it has stayed open. -/
theorem openDatabase_of_openDatabase (h : d.openDatabase l = (.ok db, d')) :
    d'.openDatabase l = (.ok db, d') ∨ ∃ e, d'.openDatabase l = (.error e, d') := by
  unfold openDatabase at h ⊢
  split
  · next hnone =>
    rw [hnone] at h
    cases h
    exact .inl rfl
  · next path hpath =>
    rw [hpath] at h
    dsimp only at h
    -- the path was admitted, so after opening it the file holds `db` with its log
    rw [(admits_of_openPath h).openPath] at h
    obtain ⟨hholds, hlog⟩ := holds_openFile h
    refine (d'.openPath_cases l path).symm.imp_left fun hadmits => ?_
    rw [hadmits.openPath, hholds.openFile_eq_ok hlog]

/-- Over the second connection the same is found as over the first one. -/
theorem openDatabase_eq_of_connect (h : d.connect l = (.ok db, d')) :
    d.openDatabase l = (.ok db, d') := by
  unfold connect at h
  split at h
  · cases h
  · next opened between hopen =>
    -- the second connection finds what the first one found, or the directory does not connect
    obtain hagain | ⟨_, hfails⟩ := openDatabase_of_openDatabase hopen
    · rw [hopen, ← hagain, h]
    · cases hfails.symm.trans h

/-- After connecting, the database is opened again with the same result, whichever it was. -/
theorem openDatabase_of_connect {result : Except Relational.Error Database}
    (h : d.connect l = (result, d')) : d'.openDatabase l = (result, d') := by
  unfold connect at h
  split at h
  · next e _ hopen =>
    cases h
    obtain rfl := eq_of_openDatabase_eq_error hopen
    exact hopen
  · next db between hopen =>
    -- the second connection either finds what the first one has left, or no way to it
    obtain hagain | ⟨e, hfails⟩ := openDatabase_of_openDatabase hopen
    · rw [hagain] at h
      cases h
      exact hagain
    · rw [hfails] at h
      cases h
      exact hfails

theorem connect_of_openDatabase {result : Except Relational.Error Database}
    (h : d.openDatabase l = (result, d)) : d.connect l = (result, d) := by
  unfold connect
  rw [h]
  cases result with
  | error e => rfl
  | ok db => exact h

/-- Connecting again changes nothing. -/
theorem connect_connect {result : Except Relational.Error Database}
    (h : d.connect l = (result, d')) : d'.connect l = (result, d') :=
  connect_of_openDatabase (openDatabase_of_connect h)

/-- Whether a database that is put at a location is found there, if it has joined the log. -/
def Reopens (d : Directory) (l : Location) : Prop :=
  ∀ db, db.joinLog l = .ok db → (d.putDatabase l db).connect l = (.ok db, d.putDatabase l db)

theorem putDatabase_putDatabase (d : Directory) (l : Location) (db db' : Database) :
    (d.putDatabase l db).putDatabase l db' = d.putDatabase l db' := by
  unfold putDatabase
  split
  · rfl
  · simp only [Dictionary.insert_insert]

theorem Reopens.putDatabase (h : d.Reopens l) (db : Database) : (d.putDatabase l db).Reopens l := by
  intro db'
  rw [putDatabase_putDatabase]
  exact h db'

/-- After a database could be opened, whatever is put in its place can be opened as well. -/
theorem reopens_of_connect {file : String} (hfile : l.file = some file)
    (h : d.connect l = (.ok db, d')) : d'.Reopens l := by
  have hopen : d'.openPath l file = (.ok db, d') := by
    simpa [openDatabase, hfile] using openDatabase_of_connect h
  have hadmits := admits_of_openPath hopen
  rw [hadmits.openPath] at hopen
  intro db' hlog
  -- a file lies at this place before and after, and nothing changes elsewhere
  have hput := changedAt_databases (isPlace_place file) d' db'
  have hholds := holds_insert d' (place file) db'
  have hadmits' := hadmits.changed (hholds.isFile.trans (holds_openFile hopen).1.isFile.symm) hput
  apply connect_of_openDatabase
  simp only [putDatabase, openDatabase, hfile]
  rw [hadmits'.openPath, hholds.openFile_eq_ok hlog]

end Directory

end IncidentTracker
