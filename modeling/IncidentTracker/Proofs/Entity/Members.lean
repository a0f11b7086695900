import IncidentTracker.Entity.Property
import IncidentTracker.Proofs.Text.Lowering
import IncidentTracker.Relational.Column

/-!
# Names of Members

When two names stand for the same well-known member of an incident, and that lowering a name does
not change what it stands for. The columns of a table go by the names of the members.

Main statements: `isMember_lowercase`, and `SameMember.ofProperty?_eq` with `SameMember.isMember_eq`
for two names that stand for the same.
-/

namespace IncidentTracker

/-! ## §1 Lowered names -/

theorem isMember_iff {ε : Type} [HasProperties ε] {name : String} :
    isMember ε name = true ↔
      ∃ entry ∈ (HasProperties.members : List (String × (ε → String))),
        Text.sameIgnoringAsciiCase entry.1 name = true := by
  rw [isMember, findMember, List.find?_isSome]

/-- Where the members of an entity have steady names, a name stands for a member exactly if its
    lower-case form does. -/
theorem isMember_lowercase_of_isSteady {ε : Type} [HasProperties ε]
    (h : ∀ entry ∈ (HasProperties.members : List (String × (ε → String))),
      Text.isSteady entry.1 = true) (name : String) :
    isMember ε (Text.lowercase name) = isMember ε name := by
  rw [Bool.eq_iff_iff, isMember_iff, isMember_iff]
  -- lowering changes no comparison with a steady name
  constructor
  · rintro ⟨entry, hentry, hsame⟩
    rw [Text.sameIgnoringAsciiCase_lowercase (h entry hentry)] at hsame
    exact ⟨entry, hentry, hsame⟩
  · rintro ⟨entry, hentry, hsame⟩
    rw [← Text.sameIgnoringAsciiCase_lowercase (h entry hentry)] at hsame
    exact ⟨entry, hentry, hsame⟩

/-- The well-known members of an incident have steady names. -/
theorem Incident.isSteady_of_mem_members {entry : String × (Incident → String)}
    (h : entry ∈ (HasProperties.members : List (String × (Incident → String)))) :
    Text.isSteady entry.1 = true := by
  simp only [HasProperties.members, List.mem_cons, List.not_mem_nil, or_false] at h
  rcases h with rfl | rfl | rfl | rfl | rfl <;> decide

/-- Lowering a name does not change whether it stands for a member of an incident. -/
theorem Incident.isMember_lowercase (name : String) :
    isMember Incident (Text.lowercase name) = isMember Incident name :=
  isMember_lowercase_of_isSteady (fun _ hentry => isSteady_of_mem_members hentry) name

/-- The name of the member that is found is the lower-case form of the name that was looked for. -/
theorem Incident.of_findMember {name : String} {entry : String × (Incident → String)}
    (h : findMember name = some entry) :
    entry ∈ (HasProperties.members : List (String × (Incident → String))) ∧
      Text.lowercase name = entry.1 := by
  have hentry := List.mem_of_find?_eq_some h
  have hsame : Text.sameIgnoringAsciiCase entry.1 name = true := by
    simpa using List.find?_some h
  exact ⟨hentry, Text.lowercase_eq_of_same (isSteady_of_mem_members hentry) hsame⟩

/-! ## §2 Names for the same member -/

/-- Two names stand for the same: for one well-known member of an incident, up to the case of ASCII
    letters, or both for none. -/
def SameMember (p q : String) : Prop :=
  (∃ entry ∈ (HasProperties.members : List (String × (Incident → String))),
    Text.sameIgnoringAsciiCase entry.1 p = true ∧ Text.sameIgnoringAsciiCase entry.1 q = true) ∨
  (isMember Incident p = false ∧ isMember Incident q = false)

/-- The columns of the table go by the names of the members. -/
theorem isSome_ofProperty? (name : String) :
    (Relational.Column.ofProperty? name).isSome = isMember Incident name := by
  -- the columns and the members have the same names, and finding one depends on nothing else
  have hnames : Relational.Column.all.map Prod.fst =
      (HasProperties.members : List (String × (Incident → String))).map Prod.fst := rfl
  have hany : ∀ {β : Type} (entries : List (String × β)),
      (entries.find? fun entry => Text.sameIgnoringAsciiCase entry.1 name).isSome =
        (entries.map Prod.fst).any fun known => Text.sameIgnoringAsciiCase known name := by
    intro β entries
    rw [List.any_map, Bool.eq_iff_iff, List.find?_isSome, List.any_eq_true]
    rfl
  rw [Relational.Column.ofProperty?, Option.isSome_map, hany, hnames, ← hany, isMember, findMember]

namespace SameMember

variable {p q : String}

theorem isMember_eq (h : SameMember p q) : isMember Incident p = isMember Incident q := by
  rcases h with ⟨entry, hentry, hp, hq⟩ | ⟨hp, hq⟩
  · rw [isMember_iff.mpr ⟨entry, hentry, hp⟩, isMember_iff.mpr ⟨entry, hentry, hq⟩]
  · rw [hp, hq]

/-- Names for the same member choose the same column, if they choose any. -/
theorem ofProperty?_eq (h : SameMember p q) :
    Relational.Column.ofProperty? p = Relational.Column.ofProperty? q := by
  rcases h with ⟨entry, -, hp, hq⟩ | ⟨hp, hq⟩
  · -- the two names are equal up to case, so no comparison can tell them apart
    have hfold : Text.asciiFold p.toList = Text.asciiFold q.toList :=
      (Text.sameIgnoringAsciiCase_iff.mp hp).symm.trans (Text.sameIgnoringAsciiCase_iff.mp hq)
    simp only [Relational.Column.ofProperty?, Text.sameIgnoringAsciiCase, hfold]
  · rw [← isSome_ofProperty?] at hp hq
    have hp' : Relational.Column.ofProperty? p = none := by simpa using hp
    have hq' : Relational.Column.ofProperty? q = none := by simpa using hq
    rw [hp', hq']

end SameMember

end IncidentTracker
