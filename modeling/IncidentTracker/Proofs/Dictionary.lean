import IncidentTracker.Dictionary

/-!
# Dictionaries Built in Order

Entries that are put into a dictionary in ascending order of their names stay as they come. So a
dictionary is made again from the list of its entries, and from these in any other order as well. In
whatever order they are put, each is found under its name.
-/

namespace IncidentTracker.Dictionary

variable {β : Type}

/-- An entry whose name is larger than all others takes the last place. -/
theorem insertEntry_eq_append {name : String} {value : β} {entries : List (String × β)}
    (h : ∀ entry ∈ entries, entry.1 < name) :
    insertEntry name value entries = entries ++ [(name, value)] := by
  induction entries with
  | nil => rfl
  | cons head rest ih =>
    obtain ⟨other, old⟩ := head
    -- every name that is there comes before the new one
    have hlt : other < name := h (other, old) List.mem_cons_self
    have hne : name ≠ other := fun heq => String.lt_irrefl _ (heq ▸ hlt)
    have hnlt : ¬name < other := fun hgt => String.lt_irrefl _ (String.lt_trans hlt hgt)
    rw [insertEntry, if_neg hne, if_neg hnlt, ih fun entry hmem => h entry (List.mem_cons_of_mem _ hmem)]
    rfl

/-- Entries in ascending order, all behind those of a dictionary, are appended to them. -/
theorem entries_foldl_insert {d : Dictionary β} {entries : List (String × β)}
    (h : (d.entries ++ entries).Pairwise fun a b => a.1 < b.1) :
    (entries.foldl (fun d entry => d.insert entry.1 entry.2) d).entries = d.entries ++ entries := by
  induction entries generalizing d with
  | nil => simp
  | cons entry entries ih =>
    -- the next name comes after all that are there, so it goes to the end
    have hlast : ∀ other ∈ d.entries, other.1 < entry.1 := fun other hmem =>
      (List.pairwise_append.mp h).2.2 other hmem entry List.mem_cons_self
    have hinsert : (d.insert entry.1 entry.2).entries = d.entries ++ [entry] := by
      rw [entries_insert, insertEntry_eq_append hlast]
    rw [List.foldl_cons, ih (by rw [hinsert]; simpa using h), hinsert]
    simp

/-- The entries of a dictionary make it again. -/
theorem ofList_entries (d : Dictionary β) : ofList d.entries = d :=
  ext (entries_foldl_insert (d := empty) d.ascending)

/-- An entry of a new name is added to those there were. -/
theorem insertEntry_perm {name : String} {value : β} {entries : List (String × β)}
    (h : ∀ entry ∈ entries, name ≠ entry.1) :
    (insertEntry name value entries).Perm ((name, value) :: entries) := by
  induction entries with
  | nil => exact .refl _
  | cons head rest ih =>
    obtain ⟨other, old⟩ := head
    have hne : name ≠ other := h (other, old) List.mem_cons_self
    rw [insertEntry, if_neg hne]
    -- in front of the head, or somewhere behind it
    split
    · exact .refl _
    · apply List.Perm.trans (List.Perm.cons _ (ih fun entry hmem => h entry (List.mem_cons_of_mem _ hmem)))
      exact .swap _ _ _

/-- Entries of distinct names are all kept, in whatever order they are put. -/
theorem entries_foldl_insert_perm {d : Dictionary β} {entries : List (String × β)}
    (h : (d.entries ++ entries).Pairwise fun a b => a.1 ≠ b.1) :
    (entries.foldl (fun d entry => d.insert entry.1 entry.2) d).entries.Perm
      (d.entries ++ entries) := by
  induction entries generalizing d with
  | nil => simp
  | cons entry entries ih =>
    -- the first entry has a name of its own, so inserting it puts it in front up to order
    have hnew : ∀ other ∈ d.entries, entry.1 ≠ other.1 := fun other hmem =>
      ((List.pairwise_append.mp h).2.2 other hmem entry List.mem_cons_self).symm
    have hinsert : (d.insert entry.1 entry.2).entries.Perm (entry :: d.entries) :=
      insertEntry_perm hnew
    have hmiddle : ((d.insert entry.1 entry.2).entries ++ entries).Perm
        (d.entries ++ entry :: entries) :=
      (hinsert.append_right entries).trans List.perm_middle.symm
    rw [List.foldl_cons]
    refine (ih ?_).trans hmiddle
    exact (hmiddle.pairwise_iff Ne.symm).mpr h

/-- The entries of a dictionary make it again, in whatever order they are put. -/
theorem ofList_of_perm {d : Dictionary β} {entries : List (String × β)}
    (h : entries.Perm d.entries) : ofList entries = d := by
  have hdistinct : entries.Pairwise fun a b => a.1 ≠ b.1 := by
    refine (h.pairwise_iff Ne.symm).mpr (d.ascending.imp fun hlt heq => ?_)
    exact String.lt_irrefl _ (heq ▸ hlt)
  have hkept : (ofList entries).entries.Perm entries :=
    entries_foldl_insert_perm (d := empty) hdistinct
  -- two ascending lists of the same entries are one
  apply ext
  refine List.Perm.eq_of_pairwise ?_ (ofList entries).ascending d.ascending (hkept.trans h)
  intro a b _ _ hab hba
  exact absurd (String.lt_trans hab hba) (String.lt_irrefl _)

theorem find?_insertEntry (name other : String) (value : β) (entries : List (String × β)) :
    ((insertEntry name value entries).find? fun entry => entry.1 == other).map (·.2) =
      if name = other then some value
      else (entries.find? fun entry => entry.1 == other).map (·.2) := by
  induction entries with
  | nil => by_cases h : name = other <;> simp [insertEntry, h]
  | cons head rest ih =>
    obtain ⟨first, old⟩ := head
    -- the three places where the entry can go
    rw [insertEntry]
    split
    · next heq => by_cases h : name = other <;> simp [← heq, h]
    · next hne =>
      split
      · by_cases h : name = other <;> simp [h]
      · -- the entry goes behind `first`, which has another name
        by_cases hfirst : first = other
        · have h : name ≠ other := fun heq => hne (heq.trans hfirst.symm)
          simp [hfirst, h]
        · simp [hfirst, ih]

/-- What was put last under a name is found there. -/
theorem get?_insert (d : Dictionary β) (name other : String) (value : β) :
    (d.insert name value).get? other = if name = other then some value else d.get? other :=
  find?_insertEntry name other value d.entries

/-- Of several entries under one name, the last is found. -/
theorem get?_ofList (entries : List (String × β)) (name : String) :
    (ofList entries).get? name =
      ((entries.filter fun entry => entry.1 == name).getLast?).map (·.2) := by
  -- what is put later counts more than what was there
  have hfold : ∀ (entries : List (String × β)) (d : Dictionary β),
      (entries.foldl (fun d entry => d.insert entry.1 entry.2) d).get? name =
        (((entries.filter fun entry => entry.1 == name).getLast?).map (·.2)).or (d.get? name) := by
    intro entries
    induction entries with
    | nil => intro d; rfl
    | cons entry entries ih =>
      intro d
      rw [List.foldl_cons, ih, get?_insert]
      by_cases h : entry.1 = name
      · rw [List.filter_cons_of_pos (by simp [h]), List.getLast?_cons, if_pos h]
        cases (entries.filter fun entry => entry.1 == name).getLast? <;> rfl
      · simp [h]
  exact (hfold entries empty).trans (Option.or_none)

/-- What is found in a dictionary was put there under its name. -/
theorem mem_of_get?_ofList {entries : List (String × β)} {name : String} {value : β}
    (h : (ofList entries).get? name = some value) : (name, value) ∈ entries := by
  rw [get?_ofList] at h
  obtain ⟨⟨other, _⟩, hlast, rfl⟩ := Option.map_eq_some_iff.mp h
  obtain ⟨hmem, hname⟩ := List.mem_filter.mp (List.mem_of_getLast? hlast)
  have heq : other = name := by simpa using hname
  exact heq ▸ hmem

/-- An entry that takes the place of another leaves nothing of it. -/
theorem insertEntry_insertEntry (name : String) (value old : β) (entries : List (String × β)) :
    insertEntry name value (insertEntry name old entries) = insertEntry name value entries := by
  induction entries with
  | nil => simp [insertEntry]
  | cons head rest ih =>
    obtain ⟨other, first⟩ := head
    by_cases heq : name = other
    · simp [insertEntry, heq]
    · by_cases hlt : name < other <;> simp [insertEntry, heq, hlt, ih]

theorem insert_insert (d : Dictionary β) (name : String) (value old : β) :
    (d.insert name old).insert name value = d.insert name value :=
  ext (insertEntry_insertEntry name value old d.entries)

/-- What is asked of names only is asked of the new name and of those there were. -/
theorem any_insertEntry (p : String → Bool) (name : String) (value : β)
    (entries : List (String × β)) :
    ((insertEntry name value entries).any fun entry => p entry.1) =
      (p name || entries.any fun entry => p entry.1) := by
  induction entries with
  | nil => rfl
  | cons head rest ih =>
    obtain ⟨other, first⟩ := head
    -- only the names count, and the entry that is replaced has the name of the new one
    rw [insertEntry]
    split
    · next heq => simp [heq]
    · split
      · rfl
      · simp [ih, Bool.or_left_comm]

@[simp] theorem get?_empty (name : String) : (empty : Dictionary β).get? name = none :=
  rfl

/-- The names in a dictionary, in ascending order. -/
def keys (d : Dictionary β) : List String :=
  d.entries.map Prod.fst

@[simp] theorem keys_empty : (empty : Dictionary β).keys = [] :=
  rfl

@[simp] theorem mem_keys_insert {d : Dictionary β} {name key : String} {value : β} :
    key ∈ (d.insert name value).keys ↔ key = name ∨ key ∈ d.keys := by
  have hany (entries : List (String × β)) :
      key ∈ entries.map Prod.fst ↔ (entries.any fun entry => entry.1 == key) = true := by
    simp only [List.mem_map, List.any_eq_true, beq_iff_eq]
  rw [keys, keys, hany, hany, entries_insert, any_insertEntry (· == key), Bool.or_eq_true,
    beq_iff_eq, eq_comm]

private theorem map_fst_insertEntry {γ : Type} (name : String) (value : β) (other : γ) :
    ∀ (entries : List (String × β)) (others : List (String × γ)),
      entries.map Prod.fst = others.map Prod.fst →
      (insertEntry name value entries).map Prod.fst = (insertEntry name other others).map Prod.fst
  | [], [], _ => rfl
  | (first, old) :: entries, (first', old') :: others, h => by
    simp only [List.map_cons, List.cons.injEq] at h
    obtain ⟨rfl, hrest⟩ := h
    have ih := map_fst_insertEntry name value other entries others hrest
    -- both insertions go the same way at every step, since they see the same names
    simp only [insertEntry]
    split
    · simp [hrest]
    · split
      · simp [hrest]
      · simp [ih]

/-- Which names there are after an insertion depends on the names only. -/
theorem keys_insert_congr {γ : Type} {d : Dictionary β} {d' : Dictionary γ}
    (h : d.keys = d'.keys) (name : String) (value : β) (other : γ) :
    (d.insert name value).keys = (d'.insert name other).keys :=
  map_fst_insertEntry name value other d.entries d'.entries h

end IncidentTracker.Dictionary
