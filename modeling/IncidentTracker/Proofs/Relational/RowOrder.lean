import IncidentTracker.Proofs.Relational.Stored
import Mathlib.Data.List.Nodup

/-!
# Joined Rows in Any Order

A query puts its rows in the order of their identifiers, which says nothing of rows that have the
same one. Nothing depends on it. What is put together under an identifier is made of the rows that
have it, whatever stands between them: the first of them gives all but the attributes, and each of
them adds one or none. So the rows that incidents are joined to, shuffled in any way, make these
incidents again.

Main statements: `find?_foldRows` for all rows, and `foldRows_shuffled`.
-/

namespace IncidentTracker.Relational

/-! ## §1 One row -/

/-- What is known under the identifier of a joined row when it has been taken in, by what was known
    before. -/
def JoinRow.grow (row : JoinRow) : Option Incident → Incident
  | none => row.incident.toIncident (row.addTo .empty)
  | some i => { i with attributes := row.addTo i.attributes }

/-- A joined row brings no identifier but its own. -/
theorem mem_foldRow {row : JoinRow} {incidents : List Incident} {i : Incident}
    (h : i ∈ foldRow row incidents) : i.id = row.incident.id ∨ ∃ j ∈ incidents, j.id = i.id := by
  induction incidents with
  | nil => exact .inl (List.mem_singleton.mp h ▸ rfl)
  | cons first rest ih =>
    -- the row grows the first incident, goes in front of it or behind it
    rw [foldRow] at h
    split at h
    · next heq =>
      rcases List.mem_cons.mp h with rfl | h
      · exact .inl heq.symm
      · exact .inr ⟨i, List.mem_cons_of_mem first h, rfl⟩
    · split at h
      · rcases List.mem_cons.mp h with rfl | h
        · exact .inl rfl
        · exact .inr ⟨i, h, rfl⟩
      · rcases List.mem_cons.mp h with rfl | h
        · exact .inr ⟨i, List.mem_cons_self, rfl⟩
        · rcases ih h with heq | ⟨j, hj, heq⟩
          · exact .inl heq
          · exact .inr ⟨j, List.mem_cons_of_mem first hj, heq⟩

/-- Incidents stay in ascending order when a joined row is taken in. -/
theorem foldRow_pairwise {row : JoinRow} {incidents : List Incident}
    (h : incidents.Pairwise fun a b => a.id < b.id) :
    (foldRow row incidents).Pairwise fun a b => a.id < b.id := by
  induction incidents with
  | nil => exact List.pairwise_singleton _ _
  | cons first rest ih =>
    obtain ⟨hfirst, hrest⟩ := List.pairwise_cons.mp h
    rw [foldRow]
    split
    · -- the row belongs to the first incident, whose identifier stays
      exact List.pairwise_cons.mpr ⟨hfirst, hrest⟩
    · next hne =>
      split
      · -- it belongs in front of the first incident, and so of all
        next hlt =>
        refine List.pairwise_cons.mpr ⟨fun i hi => ?_, h⟩
        show row.incident.id < i.id
        rcases List.mem_cons.mp hi with rfl | hi
        · exact hlt
        · exact Int.lt_trans hlt (hfirst i hi)
      · -- the first incident stays below the others and below the one of the row
        next hnlt =>
        refine List.pairwise_cons.mpr ⟨fun i hi => ?_, ih hrest⟩
        rcases mem_foldRow hi with heq | ⟨j, hj, heq⟩
        · omega
        · exact heq ▸ hfirst j hj

/-- A joined row changes what is known under its identifier, and nothing else. -/
theorem find?_foldRow {row : JoinRow} {incidents : List Incident}
    (h : incidents.Pairwise fun a b => a.id < b.id) (id : Int) :
    (foldRow row incidents).find? (fun i => i.id == id) =
      if row.incident.id = id then some (row.grow (incidents.find? fun i => i.id == id))
      else incidents.find? fun i => i.id == id := by
  induction incidents with
  | nil =>
    by_cases hid : row.incident.id = id <;>
      simp [foldRow, JoinRow.grow, IncidentRow.toIncident, hid]
  | cons first rest ih =>
    obtain ⟨hfirst, hrest⟩ := List.pairwise_cons.mp h
    rw [foldRow]
    split
    · -- the row belongs to the first incident, which keeps its place
      next heq =>
      by_cases hid : first.id = id
      · simp [hid, heq, JoinRow.grow]
      · simp [hid, heq]
    · next hne =>
      split
      · next hlt =>
        by_cases hid : row.incident.id = id
        · -- nothing is known under the identifier yet, as those that are known are larger
          have hnone : (first :: rest).find? (fun i => i.id == id) = none := by
            refine List.find?_eq_none.mpr fun i hi => ?_
            have hlarger : row.incident.id < i.id := by
              rcases List.mem_cons.mp hi with rfl | hi
              · exact hlt
              · exact Int.lt_trans hlt (hfirst i hi)
            simp only [beq_iff_eq]
            omega
          rw [hnone, if_pos hid]
          simp [IncidentRow.toIncident, JoinRow.grow, hid]
        · rw [if_neg hid, List.find?_cons_of_neg (by simpa [IncidentRow.toIncident] using hid)]
      · -- the row belongs behind the first incident
        by_cases hid : first.id = id
        · have hother : row.incident.id ≠ id := fun heq => hne (heq.trans hid.symm)
          simp [hid, hother]
        · simp [hid, ih hrest]

/-! ## §2 All rows -/

/-- What is known under an identifier when rows have been taken in is what the rows that have it
    make of what was known before, in their order. -/
theorem find?_foldl_foldRow {rows : List JoinRow} {incidents : List Incident}
    (h : incidents.Pairwise fun a b => a.id < b.id) (id : Int) :
    (rows.foldl (fun incidents row => foldRow row incidents) incidents).find?
        (fun i => i.id == id) =
      (rows.filter fun row => row.incident.id == id).foldl (fun known row => some (row.grow known))
        (incidents.find? fun i => i.id == id) := by
  induction rows generalizing incidents with
  | nil => rfl
  | cons row rows ih =>
    rw [List.foldl_cons, ih (foldRow_pairwise h), find?_foldRow h]
    -- the row is one of those that count, or it changes nothing under the identifier
    by_cases hid : row.incident.id = id
    · rw [if_pos hid, List.filter_cons_of_pos (by simpa using hid), List.foldl_cons]
    · rw [if_neg hid, List.filter_cons_of_neg (by simpa using hid)]

theorem foldRows_pairwise (rows : List JoinRow) :
    (foldRows rows).Pairwise fun a b => a.id < b.id := by
  have hfold (rows : List JoinRow) {incidents : List Incident}
      (h : incidents.Pairwise fun a b => a.id < b.id) :
      (rows.foldl (fun incidents row => foldRow row incidents) incidents).Pairwise
        fun a b => a.id < b.id := by
    induction rows generalizing incidents with
    | nil => exact h
    | cons row rows ih => exact ih (foldRow_pairwise h)
  exact hfold rows .nil

/-- The incident that rows of one identifier make, if there are any: the first gives all but the
    attributes, which come from all of them. -/
def incidentOf? (rows : List JoinRow) : Option Incident :=
  rows.head?.map fun first => first.incident.toIncident (.ofList (rows.filterMap JoinRow.entry))

/-- Rows add the attributes that they bring, in their order. -/
theorem foldl_addTo (rows : List JoinRow) (attributes : Attributes) :
    rows.foldl (fun attributes row => row.addTo attributes) attributes =
      (rows.filterMap JoinRow.entry).foldl (fun d entry => d.insert entry.1 entry.2)
        attributes := by
  induction rows generalizing attributes with
  | nil => rfl
  | cons row rows ih =>
    obtain ⟨incident, _ | entry⟩ := row <;> exact ih _

/-- Once something is known under an identifier, further rows bring their attributes only. -/
theorem foldl_grow_some (rows : List JoinRow) (incident : IncidentRow) (attributes : Attributes) :
    rows.foldl (fun known row => some (row.grow known)) (some (incident.toIncident attributes)) =
      some (incident.toIncident
        (rows.foldl (fun attributes row => row.addTo attributes) attributes)) := by
  induction rows generalizing attributes with
  | nil => rfl
  | cons row rows ih => exact ih (row.addTo attributes)

theorem foldl_grow_none (rows : List JoinRow) :
    rows.foldl (fun known row => some (row.grow known)) none = incidentOf? rows := by
  cases rows with
  | nil => rfl
  | cons row rows =>
    have hattributes := foldl_addTo (row :: rows) .empty
    rw [List.foldl_cons] at hattributes
    rw [incidentOf?, Dictionary.ofList, ← hattributes]
    exact foldl_grow_some rows row.incident (row.addTo .empty)

/-- Whatever rows there are, and in whatever order, what is put together under an identifier is made
    of the rows that have it. -/
theorem find?_foldRows (rows : List JoinRow) (id : Int) :
    (foldRows rows).find? (fun i => i.id == id) =
      incidentOf? (rows.filter fun row => row.incident.id == id) := by
  rw [foldRows, find?_foldl_foldRow .nil, List.find?_nil, foldl_grow_none]

/-! ## §3 The rows of one incident -/

/-- The row of an incident, and those of its attributes. -/
def Row.ofIncident (i : Incident) : Row :=
  ⟨⟨i.id, i.kind, i.description, i.reporter, i.state⟩, i.attributes.entries⟩

theorem Row.joined_ne_nil (row : Row) : row.joined ≠ [] := by
  obtain ⟨incident, _ | ⟨entry, entries⟩⟩ := row <;> simp [Row.joined]

theorem Row.incident_of_mem_joined {row : Row} {joined : JoinRow} (h : joined ∈ row.joined) :
    joined.incident = row.incident := by
  obtain ⟨incident, _ | ⟨entry, entries⟩⟩ := row
  · exact List.mem_singleton.mp h ▸ rfl
  · obtain ⟨_, -, rfl⟩ := List.mem_map.mp h
    rfl

theorem Row.filterMap_entry_joined (row : Row) :
    row.joined.filterMap JoinRow.entry = row.attributes := by
  obtain ⟨incident, _ | ⟨entry, entries⟩⟩ := row
  · rfl
  · simp [Row.joined, List.filterMap_map]

/-- The rows that an incident is joined to make it again, in whatever order they come. -/
theorem incidentOf?_of_perm {i : Incident} {rows : List JoinRow}
    (h : rows.Perm (Row.ofIncident i).joined) : incidentOf? rows = some i := by
  cases rows with
  | nil => exact absurd (List.nil_perm.mp h) (Row.joined_ne_nil _)
  | cons first rows =>
    -- whichever row is the first, it is one of the incident
    have hfirst : first.incident = (Row.ofIncident i).incident :=
      Row.incident_of_mem_joined (h.mem_iff.mp List.mem_cons_self)
    have hentries : ((first :: rows).filterMap JoinRow.entry).Perm i.attributes.entries := by
      have hperm := h.filterMap JoinRow.entry
      rwa [Row.filterMap_entry_joined] at hperm
    rw [incidentOf?, List.head?_cons, Option.map_some, hfirst, Dictionary.ofList_of_perm hentries]
    rfl

/-! ## §4 Shuffled rows -/

/-- Of the rows that several incidents are joined to, those with an identifier are the rows of the
    incident that has it. -/
theorem filter_joined {incidents : List Incident} (h : (incidents.map Incident.id).Nodup)
    (id : Int) :
    (incidents.flatMap fun i => (Row.ofIncident i).joined).filter
        (fun row => row.incident.id == id) =
      ((incidents.find? fun i => i.id == id).map fun i => (Row.ofIncident i).joined).getD [] := by
  -- a joined row has the identifier of the incident it comes from
  have hown (i : Incident) : ∀ row ∈ (Row.ofIncident i).joined, row.incident.id = i.id :=
    fun row hrow => congrArg IncidentRow.id (Row.incident_of_mem_joined hrow)
  induction incidents with
  | nil => rfl
  | cons i incidents ih =>
    rw [List.map_cons, List.nodup_cons] at h
    rw [List.flatMap_cons, List.filter_append, ih h.2]
    by_cases hid : i.id = id
    · -- the identifiers are distinct, so none of the other incidents has this one
      have hothers : incidents.find? (fun j => j.id == id) = none := by
        refine List.find?_eq_none.mpr fun j hj heq => h.1 ?_
        rw [hid, ← beq_iff_eq.mp heq]
        exact List.mem_map_of_mem hj
      have hall : (Row.ofIncident i).joined.filter (fun row => row.incident.id == id) =
          (Row.ofIncident i).joined :=
        List.filter_eq_self.mpr fun row hrow => by simpa [hid] using hown i row hrow
      rw [hall, hothers, List.find?_cons_of_pos (by simpa using hid)]
      simp
    · have hnone : (Row.ofIncident i).joined.filter (fun row => row.incident.id == id) = [] :=
        List.filter_eq_nil_iff.mpr fun row hrow => by simpa [hown i row hrow] using hid
      rw [hnone, List.find?_cons_of_neg (by simpa using hid), List.nil_append]

/-- Shuffled rows make what is found among the incidents that they were joined from. -/
theorem find?_foldRows_of_perm {incidents : List Incident} {rows : List JoinRow}
    (h : (incidents.map Incident.id).Nodup)
    (hrows : rows.Perm (incidents.flatMap fun i => (Row.ofIncident i).joined)) (id : Int) :
    (foldRows rows).find? (fun i => i.id == id) = incidents.find? fun i => i.id == id := by
  -- what is found depends on the rows of the one identifier alone
  have hown := hrows.filter fun row => row.incident.id == id
  rw [filter_joined h] at hown
  rw [find?_foldRows]
  cases hfind : incidents.find? fun i => i.id == id with
  | none =>
    rw [hfind] at hown
    rw [List.perm_nil.mp hown]
    rfl
  | some i =>
    rw [hfind] at hown
    exact incidentOf?_of_perm hown

/-- Whatever incidents there are, each with an identifier of its own, and however the rows that they
    are joined to are shuffled, putting the rows together makes exactly these incidents, each once
    and with all its attributes, in ascending order of their identifiers. -/
theorem foldRows_shuffled {incidents : List Incident} {rows : List JoinRow}
    (h : (incidents.map Incident.id).Nodup)
    (hrows : rows.Perm (incidents.flatMap fun i => (Row.ofIncident i).joined)) :
    (foldRows rows).Perm incidents ∧ (foldRows rows).Pairwise fun a b => a.id < b.id := by
  have hascending := foldRows_pairwise rows
  have hmade := nodup_map_id hascending
  refine ⟨(List.perm_ext_iff_of_nodup (.of_map _ hmade) (.of_map _ h)).mpr fun i => ?_, hascending⟩
  rw [mem_iff_find? hmade, mem_iff_find? h, find?_foldRows_of_perm h hrows]

/-- Rows of two incidents stand between each other, the one with the smaller identifier last and
    the attributes of the other from the last to the first. -/
theorem foldRows_shuffled_between :
    let bug : Incident :=
      ⟨"Bug", 7, "Crash", "ann", "Open", .ofList [("Area", "UI"), ("Team", "Core"), ("area", "")]⟩
    let task : Incident := ⟨"Task", 3, "", "bob", "Closed", .ofList [("Team", "Core")]⟩
    let idle : Incident := ⟨"Task", -2, "", "", "", .empty⟩
    let row : IncidentRow := ⟨7, "Bug", "Crash", "ann", "Open"⟩
    let other : IncidentRow := ⟨3, "Task", "", "bob", "Closed"⟩
    let rows : List JoinRow :=
      [⟨row, some ("area", "")⟩, ⟨other, some ("Team", "Core")⟩, ⟨row, some ("Team", "Core")⟩,
        ⟨⟨-2, "Task", "", "", ""⟩, none⟩, ⟨row, some ("Area", "UI")⟩]
    (foldRows rows).Perm [bug, task, idle] ∧ (foldRows rows).Pairwise (fun a b => a.id < b.id) ∧
      foldRows rows = [idle, task, bug] := by
  intro bug task idle row other rows
  -- the rows of the incidents, those of one with others between them
  have hrows : rows.Perm ([bug, task, idle].flatMap fun i => (Row.ofIncident i).joined) := by
    decide
  have hdistinct : ([bug, task, idle].map Incident.id).Nodup := by decide
  obtain ⟨hperm, hascending⟩ := foldRows_shuffled hdistinct hrows
  exact ⟨hperm, hascending, by decide⟩

end IncidentTracker.Relational
