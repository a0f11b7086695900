import IncidentTracker.Proofs.Json.Reading
import Mathlib.Data.List.Basic

/-!
# Reading Records

A record is read from an object, with its fields in any order and whatever other members among
them, or from a list of its fields in declared order. Both come to the same: a list is the object
of its items under the declared names. What a record is read as depends on which fields there are
and on what each of them is read as, and on nothing else.

Main statements: `Record.reads`, for records, and `read_of_reads`, which passes from documents to
texts.
-/

namespace IncidentTracker.Json

variable {ν α β σ : Type}

/-! ## §1 Readings that succeed -/

/-- A reading comes to a value, whatever notices there are before it, and leaves some. -/
def Reads (p : Decode ν α) (a : α) : Prop :=
  ∀ notices, ∃ notices', p notices = .ok a notices'

theorem Reads.pure (a : α) : Reads (pure a : Decode ν α) a :=
  fun notices => ⟨notices, rfl⟩

theorem Reads.note (notice : ν) : Reads (Json.note notice) () :=
  fun notices => ⟨notices ++ [notice], rfl⟩

theorem Reads.bind {p : Decode ν α} {f : α → Decode ν β} {a : α} {b : β} (h : Reads p a)
    (h' : Reads (f a) b) : Reads (p >>= f) b := by
  intro notices
  obtain ⟨notices', hp⟩ := h notices
  obtain ⟨notices'', hf⟩ := h' notices'
  refine ⟨notices'', ?_⟩
  show EStateM.bind p f notices = .ok b notices''
  rw [EStateM.bind, hp]
  exact hf

theorem Reads.map {p : Decode ν α} {a : α} (h : Reads p a) (f : α → β) : Reads (f <$> p) (f a) := by
  rw [← bind_pure_comp]
  exact h.bind (.pure (f a))

/-- Items are read one after the other. -/
theorem Reads.mapM_cons {item : β → Decode ν α} {b : β} {a : α} {bs : List β} {as : List α}
    (h : Reads (item b) a) (h' : Reads (bs.mapM item) as) :
    Reads ((b :: bs).mapM item) (a :: as) := by
  rw [List.mapM_cons]
  exact h.bind (h'.bind (.pure (a :: as)))

/-- A list takes one container. -/
theorem Reads.listOf {item : Decoder ν α} {room : Nat} {items : List Phrase} {values : List α}
    (hroom : 0 < room) (h : Reads ((phraseDocuments items).mapM (item (room - 1))) values) :
    Reads (Json.listOf item room (Phrase.list items).document) values := by
  obtain ⟨depth, rfl⟩ := Nat.exists_eq_succ_of_ne_zero (Nat.ne_of_gt hroom)
  rw [Phrase.document, Json.listOf]
  exact h.bind (.bind (.pure ()) (.pure values))

/-- A spaced text is read as the document of its phrase is. -/
theorem read_of_reads {item : Decoder ν α} {φ : Phrase} {text : List Char} {a : α}
    (hspaced : isSpaced φ.tokens text = true) (h : Reads (item nestingLimit φ.document) a) :
    (read item text).result = .ok a := by
  obtain ⟨rest, hlayout, hblank⟩ := layout_of_isSpaced hspaced
  obtain ⟨notices, hread⟩ := h.bind (f := fun value => do
    atEnd φ.document (some rest)
    return value) (.bind (a := ()) (by rw [atEnd_blanks _ hblank]; exact .pure ()) (.pure a)) []
  simp only [read, hlayout, hread]

/-! ## §2 Members of records -/

/-- The members of an object by the texts of their keys, if every key is a text. -/
def keyed : List (List Piece × Phrase) → Option (List (String × Phrase))
  | [] => some []
  | (pieces, φ) :: members =>
    match textOf pieces, keyed members with
    | some key, some others => some ((key, φ) :: others)
    | _, _ => none

/-- The members of an object, or the items of a list under the given names in their order. -/
def Phrase.named? (names : List String) : Phrase → Option (List (String × Phrase))
  | .object members => keyed members
  | .list items => if items.length ≤ names.length then some (names.zip items) else none
  | _ => none

/-- The members of a phrase that is a record with the given names, in declared order. None of these
    names stands twice. -/
def Phrase.members? (names : List String) (φ : Phrase) : Option (List (String × Phrase)) :=
  (φ.named? names).filter fun members => names.all fun name => members.countP (·.1 == name) ≤ 1

theorem isSome_lookup (members : List (String × Phrase)) (name : String) :
    (members.lookup name).isSome = members.any (·.1 == name) := by
  induction members with
  | nil => rfl
  | cons member members ih =>
    obtain ⟨key, φ⟩ := member
    rw [List.any_cons, ← ih]
    by_cases h : name = key
    · simp [h]
    · simp [List.lookup_cons, beq_eq_false_iff_ne.mpr h, Ne.symm h]

/-- A member whose name does not stand twice is the one that is found under its name. -/
theorem lookup_eq_of_mem {members : List (String × Phrase)} {name : String} {φ : Phrase}
    (hcount : members.countP (·.1 == name) ≤ 1) (hmem : (name, φ) ∈ members) :
    members.lookup name = some φ := by
  induction members with
  | nil => cases hmem
  | cons member members ih =>
    rw [List.countP_cons] at hcount
    -- if the first member has the name, it is the only one that has
    by_cases h : member.1 = name
    · have hnone : members.countP (·.1 == name) = 0 := by
        simp only [h, beq_self_eq_true, if_true] at hcount
        omega
      have hfirst : (name, φ) = member := by
        rcases List.mem_cons.mp hmem with hfirst | hlater
        · exact hfirst
        · exact absurd (beq_self_eq_true name) (List.countP_eq_zero.mp hnone _ hlater)
      rw [← hfirst, List.lookup_cons_self]
    · have hlater : (name, φ) ∈ members := by
        rcases List.mem_cons.mp hmem with hfirst | hlater
        · rw [← hfirst] at h
          exact absurd rfl h
        · exact hlater
      have hne : (name == member.1) = false := beq_eq_false_iff_ne.mpr (Ne.symm h)
      rw [List.lookup_cons, hne]
      exact ih (Nat.le_trans (Nat.le_add_right _ _) hcount) hlater

/-! ## §3 Records -/

namespace Record

/-- The names of the fields of a record, in declared order. -/
def names (r : Record ν σ) : List String :=
  r.fields.map Field.name

/-- How the members of a record are read into drafts: there is a draft for any fields that have been
    read, and reading another field leads from one to the next. -/
structure ReadsInto (r : Record ν σ) (depth : Nat) (members : List (String × Phrase))
    (draft : (String → Bool) → σ) : Prop where
  empty : draft (fun _ => false) = r.empty
  isSet : ∀ field ∈ r.fields, ∀ done, field.isSet (draft done) = done field.name
  read : ∀ field ∈ r.fields, ∀ φ, members.lookup field.name = some φ →
    ∃ set, Reads (field.read depth φ.document) set ∧
      ∀ done, set (draft done) = draft fun name => name == field.name || done name
  present : ∀ field ∈ r.fields, field.presence ≠ .defaulted →
    (members.lookup field.name).isSome = true

variable {r : Record ν σ} {depth : Nat} {members : List (String × Phrase)}
  {draft : (String → Bool) → σ}

/-- A member of an object with an unknown key is passed over, any other is read. -/
theorem ReadsInto.readMember (h : r.ReadsInto depth members draft) {pieces : List Piece}
    {key : String} {φ : Phrase} (hkey : textOf pieces = some key)
    (hlookup : key ∈ r.names → members.lookup key = some φ) {done : String → Bool}
    (hdone : key ∈ r.names → done key = false) :
    Reads (r.readMember depth (draft done) (.ofPieces pieces, φ.document))
      (draft fun name => r.names.contains name && name == key || done name) := by
  have hname : Reads (Json.key (.ofPieces pieces) : Decode ν String) key := by
    rw [Document.ofPieces, textContent, hkey]
    exact .pure key
  apply hname.bind
  cases hfind : r.fields.find? fun field => field.name == key with
  | none =>
    have hunknown : key ∉ r.names := by
      intro hmem
      obtain ⟨field, hfield, heq⟩ := List.mem_map.mp hmem
      exact List.find?_eq_none.mp hfind field hfield (beq_iff_eq.mpr heq)
    have hsame : (fun name => r.names.contains name && name == key || done name) = done := by
      funext name
      by_cases heq : name = key
      · simp [heq, hunknown]
      · simp [heq]
    rw [hsame, skip, φ.skipped_document]
    exact .bind (.pure ()) (.pure _)
  | some field =>
    have hfield := List.mem_of_find?_eq_some hfind
    have heq : field.name = key := by simpa using List.find?_some hfind
    have hknown : key ∈ r.names := heq ▸ List.mem_map_of_mem hfield
    obtain ⟨set, hread, hset⟩ := h.read field hfield φ (heq ▸ hlookup hknown)
    -- no field is set before its member comes, so none is refused as a duplicate
    have hunset : ¬field.isSet (draft done) = true := by
      rw [h.isSet field hfield, heq, hdone hknown]
      exact Bool.false_ne_true
    have hnext : set (draft done) =
        draft fun name => r.names.contains name && name == key || done name := by
      rw [hset, heq]
      congr 1
      funext name
      by_cases hsame : name = key
      · simp [hsame, hknown]
      · simp [beq_eq_false_iff_ne.mpr hsame]
    dsimp only
    rw [if_neg hunset, ← hnext]
    exact hread.bind (.pure _)

/-- Members are read in whatever order they stand, where each name is either still to come once or
    has been read. -/
theorem ReadsInto.foldlM (h : r.ReadsInto depth members draft) {raw : List (List Piece × Phrase)}
    {given : List (String × Phrase)} (hkeyed : keyed raw = some given)
    (hlookup : ∀ member ∈ given, member.1 ∈ r.names → members.lookup member.1 = some member.2)
    {done : String → Bool}
    (hdone : ∀ name ∈ r.names, given.countP (·.1 == name) + (done name).toNat ≤ 1) :
    Reads ((phraseMembers raw).foldlM (r.readMember depth) (draft done))
      (draft fun name => r.names.contains name && given.any (·.1 == name) || done name) := by
  induction raw generalizing given done with
  | nil =>
    cases hkeyed
    simpa [phraseMembers] using Reads.pure (draft done)
  | cons member raw ih =>
    obtain ⟨pieces, φ⟩ := member
    rw [keyed] at hkeyed
    split at hkeyed
    case h_2 => cases hkeyed
    case h_1 key others hkey hothers =>
      cases hkeyed
      obtain ⟨hfirst, hlater⟩ := List.forall_mem_cons.mp hlookup
      have hunset : key ∈ r.names → done key = false := by
        intro hknown
        have hcount := hdone key hknown
        rw [List.countP_cons, beq_self_eq_true, if_pos rfl] at hcount
        exact Bool.toNat_eq_zero.mp (by omega)
      -- the name of this member moves from those to come to those that have been read
      have hnext : ∀ name ∈ r.names, others.countP (·.1 == name) +
          (r.names.contains name && name == key || done name).toNat ≤ 1 := by
        intro name hknown
        have hcount := hdone name hknown
        rw [List.countP_cons] at hcount
        by_cases hsame : name = key
        · simp only [hsame, beq_self_eq_true, if_true] at hcount ⊢
          simp only [Bool.and_true]
          have htoNat := Bool.toNat_le (r.names.contains key || done key)
          omega
        · rw [beq_eq_false_iff_ne.mpr hsame, Bool.and_false, Bool.false_or]
          omega
      have hmerge : (fun name => r.names.contains name && others.any (·.1 == name) ||
            (r.names.contains name && name == key || done name)) =
          fun name => r.names.contains name && ((key, φ) :: others).any (·.1 == name) ||
            done name := by
        funext name
        have hcomm : (key == name) = (name == key) := Bool.beq_comm
        rw [List.any_cons, hcomm]
        cases r.names.contains name <;> cases name == key <;> simp
      rw [phraseMembers, List.foldlM_cons]
      have hrest := ih hothers hlater hnext
      rw [hmerge] at hrest
      exact (h.readMember hkey hfirst hunset).bind hrest

/-- Items are read into the fields in declared order. -/
theorem ReadsInto.readItems (h : r.ReadsInto depth members draft) {fields : List (Field ν σ)}
    {items : List Phrase} (hfields : ∀ field ∈ fields, field ∈ r.fields)
    (hnames : (fields.map Field.name).Nodup) (hlength : items.length ≤ fields.length)
    (hlookup : ∀ member ∈ (fields.map Field.name).zip items,
      members.lookup member.1 = some member.2)
    (hpresent : ∀ field ∈ fields, field.presence ≠ .defaulted →
      ((fields.map Field.name).zip items).any (·.1 == field.name) = true)
    (position : Nat) (done : String → Bool) :
    Reads (r.readItems depth none position fields (phraseDocuments items) (draft done))
      (draft fun name => ((fields.map Field.name).zip items).any (·.1 == name) || done name) := by
  induction fields generalizing items position done with
  | nil =>
    have hnil : items = [] := List.length_eq_zero_iff.mp (Nat.le_zero.mp hlength)
    subst hnil
    rw [phraseDocuments, Record.readItems]
    exact .bind (.pure ()) (by simpa using Reads.pure (draft done))
  | cons field fields ih =>
    obtain ⟨hfield, hfields⟩ := List.forall_mem_cons.mp hfields
    rw [List.map_cons, List.nodup_cons] at hnames
    cases items with
    | nil =>
      -- whatever is left must be such that it may be left out
      obtain ⟨hfirst, hrest⟩ := List.forall_mem_cons.mp hpresent
      have hdefaulted : field.presence = .defaulted :=
        Decidable.byContradiction fun hne => by simpa using hfirst hne
      have hlater := @ih [] hfields hnames.2 (Nat.zero_le _) (by simp)
        (fun field hmem hne => by simpa using hrest field hmem hne) (position + 1) done
      rw [phraseDocuments, Record.readItems]
      refine .bind (.pure ()) ?_
      rw [hdefaulted]
      simpa [phraseDocuments] using hlater
    | cons item items =>
      rw [List.map_cons, List.zip_cons_cons] at hlookup hpresent
      obtain ⟨hfirst, hlater⟩ := List.forall_mem_cons.mp hlookup
      obtain ⟨set, hread, hset⟩ := h.read field hfield item hfirst
      have hrest : ∀ other ∈ fields, other.presence ≠ .defaulted →
          ((fields.map Field.name).zip items).any (·.1 == other.name) = true := by
        intro other hmem hne
        have hother := hpresent other (List.mem_cons_of_mem _ hmem) hne
        have hdifferent : field.name ≠ other.name := fun heq =>
          hnames.1 (heq ▸ List.mem_map_of_mem hmem)
        simpa [hdifferent] using hother
      have hitems := ih hfields hnames.2 (Nat.le_of_succ_le_succ hlength) hlater hrest (position + 1)
        fun name => name == field.name || done name
      have hmerge : (fun name => ((fields.map Field.name).zip items).any (·.1 == name) ||
            (name == field.name || done name)) =
          fun name => (((field :: fields).map Field.name).zip (item :: items)).any (·.1 == name) ||
            done name := by
        funext name
        have hcomm : (field.name == name) = (name == field.name) := Bool.beq_comm
        rw [List.map_cons, List.zip_cons_cons, List.any_cons, hcomm]
        cases name == field.name <;> simp
      rw [hmerge, ← hset] at hitems
      rw [phraseDocuments, Record.readItems]
      exact hread.bind hitems

/-- No field that must be there is missed. -/
theorem ReadsInto.finish (h : r.ReadsInto depth members draft) :
    Reads (r.finish (draft fun name => r.names.contains name && members.any (·.1 == name)))
      (draft fun name => r.names.contains name && members.any (·.1 == name)) := by
  -- no member is missing: a field that must be there is present, so it is set
  have hmissing : r.firstMissing
      (draft fun name => r.names.contains name && members.any (·.1 == name)) = none := by
    rw [firstMissing, List.find?_eq_none]
    intro field hfield hmissing
    simp only [Bool.and_eq_true, beq_iff_eq, Bool.not_eq_true'] at hmissing
    have hpresent := h.present field hfield (by rw [hmissing.1]; decide)
    have hknown : field.name ∈ r.names := List.mem_map_of_mem hfield
    rw [h.isSet field hfield, ← isSome_lookup, hpresent] at hmissing
    simp [hknown] at hmissing
  rw [Record.finish, hmissing]
  exact .pure _

/-- A record is read from an object or from a list, as the draft that has the fields there are. -/
theorem reads (h : r.ReadsInto depth members draft) (hnames : r.names.Nodup) {φ : Phrase}
    (hmembers : φ.members? r.names = some members) :
    Reads (r.read (depth + 1) φ.document)
      (draft fun name => r.names.contains name && (members.lookup name).isSome) := by
  rw [Phrase.members?, Option.filter_eq_some_iff] at hmembers
  obtain ⟨hraw, hcount⟩ := hmembers
  have hone : ∀ name ∈ r.names, members.countP (·.1 == name) ≤ 1 := fun name hknown =>
    of_decide_eq_true (List.all_eq_true.mp hcount name hknown)
  have hlookup : ∀ member ∈ members, member.1 ∈ r.names →
      members.lookup member.1 = some member.2 := fun member hmem hknown =>
    lookup_eq_of_mem (hone member.1 hknown) hmem
  simp only [isSome_lookup]
  cases φ with
  | object raw =>
    let start : String → Bool := fun _ => false
    have hstart : ∀ name ∈ r.names, members.countP (·.1 == name) + (start name).toNat ≤ 1 := hone
    have hfold := h.foldlM hraw hlookup hstart
    simp only [start, Bool.or_false] at hfold
    rw [Phrase.document, Record.read, ← h.empty]
    exact hfold.bind (.bind (.pure ()) h.finish)
  | list items =>
    rw [Phrase.named?] at hraw
    split at hraw
    case isFalse => cases hraw
    case isTrue hlength =>
      cases hraw
      have hknown : ∀ member ∈ r.names.zip items, member.1 ∈ r.names := fun member hmem =>
        (List.of_mem_zip hmem).1
      have hitems := h.readItems (fun field hfield => hfield) hnames
        (by rwa [names, List.length_map] at hlength)
        (fun member hmem => hlookup member hmem (hknown member hmem))
        (fun field hfield hne => by
          have hpresent := h.present field hfield hne
          rw [isSome_lookup] at hpresent
          exact hpresent)
        0 (fun _ => false)
      -- an item has no unknown name, so nothing is passed over
      have hsame : (fun name => (r.names.zip items).any (·.1 == name) || false) =
          fun name => r.names.contains name && (r.names.zip items).any (·.1 == name) := by
        funext name
        rw [Bool.or_false, Bool.eq_and_self, List.any_eq_true, List.contains_iff_mem]
        rintro ⟨member, hmem, heq⟩
        exact beq_iff_eq.mp heq ▸ hknown member hmem
      rw [Phrase.document, Record.read, ← h.empty, ← hsame]
      exact hitems
  | _ => cases hraw

end Record

end IncidentTracker.Json
