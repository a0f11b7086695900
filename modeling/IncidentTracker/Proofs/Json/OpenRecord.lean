import IncidentTracker.Proofs.Json.Outcome

/-!
# Reading Open Records

An open record collects what it does not know. The members that it knows are read as if there were
no others; the others have to be readable, and all that is kept of them is their names.

Main statement: `Record.readOpen_eq_ok_iff`.
-/

namespace IncidentTracker.Json

variable {ν σ : Type}

/-! ## §1 What can be read through -/

/-- Whether a phrase can be read through, with room for some containers: none of its texts has half
    a surrogate pair, and none of its numerals is too large. -/
def Phrase.isReadable : Nat → Phrase → Bool
  | _, .null => true
  | _, .boolean _ => true
  | _, .numeral figures => figures.numeral.number.isOk
  | _, .text pieces => (textOf pieces).isSome
  | room + 1, .list items => items.all fun item => item.isReadable room
  | room + 1, .object members =>
    members.all fun member => (textOf member.1).isSome && member.2.isReadable room
  | 0, .list _ => false
  | 0, .object _ => false

/-- Items are read through one after the other. -/
theorem forM_eq_ok_iff {α : Type} {item : α → Decode ν Unit} {passes : α → Bool}
    (h : ∀ a (notices notices' : List ν), item a notices = .ok () notices' ↔
      passes a = true ∧ notices' = notices) (items : List α) (notices notices' : List ν) :
    items.forM item notices = .ok () notices' ↔
      items.all passes = true ∧ notices' = notices := by
  -- an item that passes leaves the notices alone, so the next one starts as the first did
  induction items generalizing notices with
  | nil =>
    constructor
    · rintro ⟨⟩
      exact ⟨rfl, rfl⟩
    · rintro ⟨-, rfl⟩
      rfl
  | cons a items ih =>
    rw [List.forM_eq_forM, List.forM_cons, bind_eq_ok_iff, List.all_cons, Bool.and_eq_true]
    simp only [h, ← List.forM_eq_forM, ih]
    constructor
    · rintro ⟨_, _, ⟨hfirst, rfl⟩, hothers, hnotices⟩
      exact ⟨⟨hfirst, hothers⟩, hnotices⟩
    · rintro ⟨⟨hfirst, hothers⟩, hnotices⟩
      exact ⟨(), notices, ⟨hfirst, rfl⟩, hothers, hnotices⟩

/-- A scalar is read through if it stands for something. -/
theorem check_scalar_eq_ok_iff {start : Start} {content : Except Fault Scalar}
    {skipped : Option Fault} {room : Nat} {notices notices' : List ν} :
    check room (.scalar start content skipped) notices = .ok () notices' ↔
      content.isOk = true ∧ notices' = notices := by
  -- reading a scalar through notes nothing, and fails with the fault that it carries
  cases content with
  | error fault =>
    rw [check]
    exact ⟨nofun, fun h => nomatch h.1⟩
  | ok value =>
    rw [check]
    constructor
    · rintro ⟨⟩
      exact ⟨rfl, rfl⟩
    · rintro ⟨-, rfl⟩
      rfl

theorem phraseDocuments_eq_map (items : List Phrase) :
    phraseDocuments items = items.map Phrase.document := by
  induction items with
  | nil => rfl
  | cons item items ih => rw [phraseDocuments, ih, List.map_cons]

theorem phraseMembers_eq_map (members : List (List Piece × Phrase)) :
    phraseMembers members = members.map fun member => (.ofPieces member.1, member.2.document) := by
  induction members with
  | nil => rfl
  | cons member members ih => rw [phraseMembers, ih, List.map_cons]

/-- A phrase is never broken off. -/
private theorem stopAt_none_eq_ok_iff {p : Decode ν Unit} {condition : Prop}
    {notices notices' : List ν}
    (h : p notices = .ok () notices' ↔ condition ∧ notices' = notices) :
    (do p; stopAt none : Decode ν Unit) notices = .ok () notices' ↔
      condition ∧ notices' = notices := by
  rw [← h, bind_eq_ok_iff]
  constructor
  · rintro ⟨_, _, hp, ⟨⟩⟩
    exact hp
  · exact fun hp => ⟨(), notices', hp, rfl⟩

/-- A value is read through exactly if it is readable, and nothing is left of it. -/
theorem check_eq_ok_iff : ∀ (room : Nat) (φ : Phrase) (notices notices' : List ν),
    check room φ.document notices = .ok () notices' ↔
      φ.isReadable room = true ∧ notices' = notices
  | room + 1, .list items, notices, notices' => by
    rw [Phrase.document, check, Phrase.isReadable, phraseDocuments_eq_map]
    apply stopAt_none_eq_ok_iff
    rw [List.forM_eq_forM, List.forM_map]
    exact forM_eq_ok_iff (fun item => check_eq_ok_iff room item) items notices notices'
  | room + 1, .object members, notices, notices' => by
    -- a member passes if its key reads and its value passes one level below
    have hmember (member : List Piece × Phrase) (notices notices' : List ν) : (do
        let _ ← key (.ofPieces member.1)
        check room member.2.document : Decode ν Unit) notices = .ok () notices' ↔
        ((textOf member.1).isSome && member.2.isReadable room) = true ∧ notices' = notices := by
      simp only [bind_eq_ok_iff, key_eq_ok_iff, check_eq_ok_iff room, Bool.and_eq_true,
        Option.isSome_iff_exists]
      constructor
      · rintro ⟨name, _, ⟨hname, rfl⟩, hvalue, hnotices⟩
        exact ⟨⟨⟨name, hname⟩, hvalue⟩, hnotices⟩
      · rintro ⟨⟨⟨name, hname⟩, hvalue⟩, hnotices⟩
        exact ⟨name, notices, ⟨hname, rfl⟩, hvalue, hnotices⟩
    rw [Phrase.document, check, Phrase.isReadable, phraseMembers_eq_map]
    apply stopAt_none_eq_ok_iff
    rw [List.forM_eq_forM, List.forM_map]
    exact forM_eq_ok_iff hmember members notices notices'
  -- at the last level no list and no object may begin
  | 0, .list _, _, _ => by
    rw [Phrase.document, check, Phrase.isReadable]
    · exact ⟨nofun, fun h => nomatch h.1⟩
    all_goals exact nofun
  | 0, .object _, _, _ => by
    rw [Phrase.document, check, Phrase.isReadable]
    · exact ⟨nofun, fun h => nomatch h.1⟩
    all_goals exact nofun
  -- what is no list and no object passes if it can be read as such
  | room, .text pieces, _, _ => by
    rw [Phrase.document, Document.ofPieces, check_scalar_eq_ok_iff, Phrase.isReadable, textContent]
    cases textOf pieces <;> rfl
  | room, .numeral figures, _, _ => by
    rw [Phrase.document, check_scalar_eq_ok_iff, Phrase.isReadable]
    cases figures.numeral.number <;> rfl
  | room, .null, _, _ => by
    rw [Phrase.document, check_scalar_eq_ok_iff, Phrase.isReadable]
    rfl
  | room, .boolean _, _, _ => by
    rw [Phrase.document, check_scalar_eq_ok_iff, Phrase.isReadable]
    rfl

/-! ## §2 Open records -/

/-- The members of a phrase that is an object, by the texts of their keys. -/
def Phrase.entries? : Phrase → Option (List (String × Phrase))
  | .object members => keyed members
  | _ => none

namespace Record

variable {r : Record ν σ} {depth : Nat}

/-- The members that a record knows. -/
def known (r : Record ν σ) (members : List (String × Phrase)) : List (String × Phrase) :=
  members.filter fun member => r.names.contains member.1

/-- The members that a record does not know. -/
def unknown (r : Record ν σ) (members : List (String × Phrase)) : List (String × Phrase) :=
  members.filter fun member => !r.names.contains member.1

/-- Reads a member of an open record by its name: a known one into the draft, any other through. -/
def readOpenNamed (r : Record ν σ) (depth : Nat) (state : σ × List String)
    (member : String × Phrase) : Decode ν (σ × List String) :=
  if r.names.contains member.1 then do
    let draft ← r.readNamed depth state.1 member
    return (draft, state.2)
  else do
    check depth member.2.document
    return (state.1, state.2 ++ [member.1])

theorem readOpenMember_eq (r : Record ν σ) (state : σ × List String) (pieces : List Piece)
    (φ : Phrase) :
    r.readOpenMember depth state (.ofPieces pieces, φ.document) =
      key (.ofPieces pieces) >>= fun name => r.readOpenNamed depth state (name, φ) := by
  rw [readOpenMember]
  -- after the key is read, both sides look the field up, the one by `find?`, the other by name
  congr 1
  funext name
  rw [readOpenNamed]
  cases hfind : r.fields.find? fun field => field.name == name with
  | none =>
    have hunknown : r.names.contains name = false := by
      simpa using find?_eq_none_iff.mp hfind
    rw [hunknown]
    rfl
  | some field =>
    have hknown : r.names.contains name = true := by
      have heq : field.name = name := by simpa using List.find?_some hfind
      rw [← heq, List.contains_iff_mem]
      exact List.mem_map_of_mem (List.mem_of_find?_eq_some hfind)
    rw [hknown, if_pos rfl, readNamed, hfind]
    dsimp only
    split
    · rfl
    · rw [bind_assoc]
      rfl

/-- Among the members of an open record, the known ones are read as if there were no others; the
    others have to be readable, and their names are kept. -/
theorem foldlM_readOpenNamed_eq_ok_iff {given : List (String × Phrase)} {draft draft' : σ}
    {names names' : List String} {notices notices' : List ν} :
    given.foldlM (r.readOpenNamed depth) (draft, names) notices = .ok (draft', names') notices' ↔
      (∀ member ∈ r.unknown given, member.2.isReadable depth = true) ∧
        (r.known given).foldlM (r.readNamed depth) draft notices = .ok draft' notices' ∧
        names' = names ++ (r.unknown given).map (·.1) := by
  induction given generalizing draft names notices with
  | nil =>
    constructor
    · rintro ⟨⟩
      exact ⟨nofun, rfl, by simp [unknown]⟩
    · rintro ⟨-, ⟨⟩, rfl⟩
      simp [unknown]
      rfl
  | cons member given ih =>
    rw [List.foldlM_cons, readOpenNamed]
    -- a known name is read into the draft, an unknown one is checked and noted
    by_cases hname : member.1 ∈ r.names
    · have hknown : r.known (member :: given) = member :: r.known given :=
        List.filter_cons_of_pos (by simpa using hname)
      have hunknown : r.unknown (member :: given) = r.unknown given :=
        List.filter_cons_of_neg (by simpa using hname)
      rw [hknown, hunknown, if_pos (List.contains_iff_mem.mpr hname)]
      simp only [bind_assoc, pure_bind, List.foldlM_cons, bind_eq_ok_iff, ih]
      constructor
      · rintro ⟨next, _, hmember, hreadable, hothers, hnames⟩
        exact ⟨hreadable, ⟨next, _, hmember, hothers⟩, hnames⟩
      · rintro ⟨hreadable, ⟨next, _, hmember, hothers⟩, hnames⟩
        exact ⟨next, _, hmember, hreadable, hothers, hnames⟩
    · have hknown : r.known (member :: given) = r.known given :=
        List.filter_cons_of_neg (by simpa using hname)
      have hunknown : r.unknown (member :: given) = member :: r.unknown given :=
        List.filter_cons_of_pos (by simpa using hname)
      rw [hknown, hunknown, if_neg (by simpa using hname), List.forall_mem_cons, List.map_cons]
      simp only [bind_assoc, pure_bind, bind_eq_ok_iff, ih, List.append_assoc,
        List.singleton_append]
      constructor
      · rintro ⟨_, _, hcheck, hreadable, hothers, hnames⟩
        obtain ⟨hmember, rfl⟩ := (check_eq_ok_iff depth _ _ _).mp hcheck
        exact ⟨⟨hmember, hreadable⟩, hothers, hnames⟩
      · rintro ⟨⟨hmember, hreadable⟩, hothers, hnames⟩
        have hcheck := (check_eq_ok_iff depth _ notices _).mpr ⟨hmember, rfl⟩
        exact ⟨(), notices, hcheck, hreadable, hothers, hnames⟩

/-- An open record is read from an object: what it knows as if there were nothing else, and of
    everything else, which has to be readable, the names. -/
theorem readOpen_eq_ok_iff {φ : Phrase} {draft : σ} {names : List String}
    {notices notices' : List ν} :
    r.readOpen (depth + 1) φ.document notices = .ok (draft, names) notices' ↔
      ∃ given, φ.entries? = some given ∧
        (∀ member ∈ r.unknown given, member.2.isReadable depth = true) ∧
        ((r.known given).foldlM (r.readNamed depth) r.empty >>= r.finish) notices =
          .ok draft notices' ∧
        names = (r.unknown given).map (·.1) := by
  -- only an object has entries, and only an object is read
  cases φ with
  | object raw =>
    rw [Phrase.document, readOpen, Phrase.entries?, bind_eq_ok_iff]
    simp only [stopAt, pure_bind, foldlM_members_eq_ok_iff r.readOpenMember_eq]
    constructor
    · rintro ⟨⟨read, all⟩, _, ⟨given, hgiven, hfold⟩, hfinish⟩
      obtain ⟨hreadable, hknown, rfl⟩ := foldlM_readOpenNamed_eq_ok_iff.mp hfold
      obtain ⟨_, _, hfinished, ⟨⟩⟩ := bind_eq_ok_iff.mp hfinish
      exact ⟨given, hgiven, hreadable, bind_eq_ok_iff.mpr ⟨read, _, hknown, hfinished⟩, rfl⟩
    · rintro ⟨given, hgiven, hreadable, hknown, rfl⟩
      obtain ⟨read, _, hknown, hfinished⟩ := bind_eq_ok_iff.mp hknown
      have hfold := foldlM_readOpenNamed_eq_ok_iff.mpr
        ⟨hreadable, hknown, (List.nil_append _).symm⟩
      exact ⟨_, _, ⟨given, hgiven, hfold⟩, bind_eq_ok_iff.mpr ⟨draft, _, hfinished, rfl⟩⟩
  | _ =>
    rw [Phrase.document]
    constructor
    · rintro ⟨⟩
    · rintro ⟨_, ⟨⟩, -⟩

theorem lookup_known (given : List (String × Phrase)) {name : String} (hname : name ∈ r.names) :
    (r.known given).lookup name = given.lookup name := by
  induction given with
  | nil => rfl
  | cons member given ih =>
    obtain ⟨key, φ⟩ := member
    rw [known, List.filter_cons]
    -- the name that is looked up is known, so its entry is kept; the others do not matter
    by_cases heq : name = key
    · subst heq
      rw [if_pos (List.contains_iff_mem.mpr hname), List.lookup_cons_self, List.lookup_cons_self]
    · have hne : (name == key) = false := beq_eq_false_iff_ne.mpr heq
      split
      · rw [List.lookup_cons, List.lookup_cons, hne]
        exact ih
      · rw [List.lookup_cons, hne]
        exact ih

theorem eq_of_finish {draft draft' : σ} {notices notices' : List ν}
    (h : r.finish draft notices = .ok draft' notices') : draft' = draft := by
  rw [finish] at h
  cases hmissing : r.firstMissing draft with
  | some field =>
    rw [hmissing] at h
    cases h
  | none =>
    rw [hmissing] at h
    cases h
    rfl

/-- What is read of the known members of an open record is made of what stands under their names. -/
theorem MadeOf.eq_of_known {r : Record Empty σ} {make : (String → Option Phrase) → σ}
    (h : r.MadeOf make) {given : List (String × Phrase)} {draft : σ} {notices notices' : List Empty}
    (hread : ((r.known given).foldlM (r.readNamed depth) r.empty >>= r.finish) notices =
      .ok draft notices') : draft = make fun name => given.lookup name := by
  obtain ⟨read, _, hfold, hfinish⟩ := bind_eq_ok_iff.mp hread
  have hstart := Reached.start h.lawful (h.keeps depth)
  obtain ⟨_, -, hreached⟩ :=
    hstart.foldlM h.lawful (h.keeps depth) (r.known given) notices read _ hfold
  -- finishing keeps the draft, and the known members are those that are looked up
  rw [eq_of_finish hfinish, hreached.invariant]
  apply h.names
  intro name hname
  rw [List.nil_append, lookup_known given hname]

end Record

end IncidentTracker.Json
