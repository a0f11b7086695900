import IncidentTracker.Text.Ascii

/-!
# Dictionaries

Values under names, each name at most once, held in ascending order of the names by code point.
The order is part of the type, so two dictionaries with the same entries are equal.
-/

namespace IncidentTracker

/-- Values under distinct names, in ascending order of the names. -/
structure Dictionary (β : Type) where
  entries : List (String × β)
  ascending : entries.Pairwise fun a b => a.1 < b.1

namespace Dictionary

variable {β : Type}

/-- Puts an entry into its place, replacing one of the same name. -/
def insertEntry (name : String) (value : β) : List (String × β) → List (String × β)
  | [] => [(name, value)]
  | (other, old) :: rest =>
    if name = other then (name, value) :: rest
    else if name < other then (name, value) :: (other, old) :: rest
    else (other, old) :: insertEntry name value rest

theorem mem_insertEntry {name : String} {value : β} {entries : List (String × β)}
    {entry : String × β} (h : entry ∈ insertEntry name value entries) :
    entry = (name, value) ∨ entry ∈ entries := by
  induction entries with
  | nil => exact .inl (List.mem_singleton.1 h)
  | cons head rest ih =>
    obtain ⟨other, old⟩ := head
    -- the new entry replaces the head, goes in front of it or behind it
    simp only [insertEntry] at h
    split at h
    · rcases List.mem_cons.1 h with h | h
      · exact .inl h
      · exact .inr (List.mem_cons_of_mem _ h)
    · split at h
      · rcases List.mem_cons.1 h with h | h
        · exact .inl h
        · exact .inr h
      · rcases List.mem_cons.1 h with h | h
        · exact .inr (h ▸ List.mem_cons_self)
        · exact (ih h).imp id (List.mem_cons_of_mem _)

theorem insertEntry_ascending (name : String) (value : β) {entries : List (String × β)}
    (h : entries.Pairwise fun a b => a.1 < b.1) :
    (insertEntry name value entries).Pairwise fun a b => a.1 < b.1 := by
  induction entries with
  | nil => exact List.pairwise_singleton _ _
  | cons head rest ih =>
    obtain ⟨other, old⟩ := head
    obtain ⟨hhead, hrest⟩ := List.pairwise_cons.1 h
    rw [insertEntry]
    split
    · -- the key is the first one: only its value changes
      next heq => exact List.pairwise_cons.2 ⟨fun entry hmem => heq ▸ hhead entry hmem, hrest⟩
    · next hne =>
      split
      · -- it comes before the first key, so before all
        next hlt =>
        refine List.pairwise_cons.2 ⟨fun entry hmem => ?_, h⟩
        rcases List.mem_cons.1 hmem with rfl | hmem
        · exact hlt
        · exact String.lt_trans hlt (hhead entry hmem)
      · -- it comes later: the head stays below what is inserted and what was there
        next hnlt =>
        refine List.pairwise_cons.2 ⟨fun entry hmem => ?_, ih hrest⟩
        rcases mem_insertEntry hmem with rfl | hmem
        · refine Decidable.byContradiction fun hn => hne ?_
          exact String.le_antisymm (String.not_lt.1 hn) (String.not_lt.1 hnlt)
        · exact hhead entry hmem

/-- No entries. -/
def empty : Dictionary β :=
  ⟨[], List.Pairwise.nil⟩

instance : Inhabited (Dictionary β) := ⟨empty⟩

/-- Sets the value under a name. -/
def insert (d : Dictionary β) (name : String) (value : β) : Dictionary β :=
  ⟨insertEntry name value d.entries, insertEntry_ascending name value d.ascending⟩

/-- The dictionary that a list of entries leaves behind; of several under one name the last
    counts. -/
def ofList (entries : List (String × β)) : Dictionary β :=
  entries.foldl (fun d entry => d.insert entry.1 entry.2) empty

/-- The value under exactly this name. -/
def get? (d : Dictionary β) (name : String) : Option β :=
  (d.entries.find? fun entry => entry.1 == name).map (·.2)

/-- The value under the first name equal to this one up to the case of ASCII letters. -/
def getIgnoringCase? (d : Dictionary β) (name : String) : Option β :=
  (d.entries.find? fun entry => Text.sameIgnoringAsciiCase entry.1 name).map (·.2)

instance [DecidableEq β] : DecidableEq (Dictionary β) := fun a b =>
  if h : a.entries = b.entries then
    .isTrue (by cases a; cases b; cases h; rfl)
  else .isFalse fun hab => h (hab ▸ rfl)

/-- A dictionary is determined by its entries. -/
@[ext] theorem ext {a b : Dictionary β} (h : a.entries = b.entries) : a = b := by
  cases a
  cases b
  cases h
  rfl

@[simp] theorem entries_insert (d : Dictionary β) (name : String) (value : β) :
    (d.insert name value).entries = insertEntry name value d.entries :=
  rfl

end Dictionary

end IncidentTracker
