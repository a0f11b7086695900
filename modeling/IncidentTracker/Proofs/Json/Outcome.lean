import IncidentTracker.Proofs.Json.Record

/-!
# What a Reading Comes To

Whatever a reading succeeds with, and whatever it leaves behind on its way, is as its document says.
For a record this is a matter of its fields: each of them is read for itself, sets nothing but
itself, and is read at most once; so an invariant that every field keeps, and every member that is
passed over, holds of the record that has been read. An object and a list come to the same: its
members under their names. Where nothing is left behind, the record is made of what stands under its
names.

Main statements: `Ensures.bind`, `Record.ensures_read` and `Record.MadeOf.yields_read`.
-/

namespace IncidentTracker.Json

variable {ν α β σ : Type}

/-! ## §1 Readings -/

/-- A reading in two steps succeeds if both steps do. -/
theorem bind_eq_ok_iff {p : Decode ν α} {f : α → Decode ν β} {b : β} {notices notices'' : List ν} :
    (p >>= f) notices = .ok b notices'' ↔
      ∃ a notices', p notices = .ok a notices' ∧ f a notices' = .ok b notices'' := by
  show EStateM.bind p f notices = .ok b notices'' ↔ _
  rw [EStateM.bind]
  cases hp : p notices with
  | error problem notices' => simp
  | ok a notices' => simp

theorem map_eq_ok_iff {p : Decode ν α} {f : α → β} {b : β} {notices notices' : List ν} :
    (f <$> p) notices = .ok b notices' ↔ ∃ a, p notices = .ok a notices' ∧ f a = b := by
  rw [← bind_pure_comp, bind_eq_ok_iff]
  constructor
  · rintro ⟨a, _, hp, ⟨⟩⟩
    exact ⟨a, hp, rfl⟩
  · rintro ⟨a, hp, rfl⟩
    exact ⟨a, notices', hp, rfl⟩

/-- What stands in the place of a key is a text. -/
theorem key_eq_ok_iff {pieces : List Piece} {name : String} {notices notices' : List ν} :
    key (.ofPieces pieces) notices = .ok name notices' ↔
      textOf pieces = some name ∧ notices' = notices := by
  rw [Document.ofPieces, textContent]
  -- pieces with a broken escape make up no text, and such a key is refused
  cases htext : textOf pieces with
  | none =>
    constructor
    · rintro ⟨⟩
    · rintro ⟨⟨⟩, -⟩
  | some s =>
    constructor
    · rintro ⟨⟩
      exact ⟨rfl, rfl⟩
    · rintro ⟨⟨⟩, rfl⟩
      rfl

/-- If a reading succeeds, the value and the notices that it has added to those before are as the
    condition says. -/
def Ensures (p : Decode ν α) (post : α → List ν → Prop) : Prop :=
  ∀ notices a notices', p notices = .ok a notices' →
    ∃ left, notices' = notices ++ left ∧ post a left

/-- If a reading succeeds, then with a value that satisfies the condition. -/
def Yields (p : Decode ν α) (condition : α → Prop) : Prop :=
  ∀ notices a notices', p notices = .ok a notices' → condition a

namespace Yields

variable {p : Decode ν α} {condition : β → Prop}

theorem map {f : α → β} (h : Yields p fun a => condition (f a)) : Yields (f <$> p) condition := by
  intro notices b notices' hmap
  obtain ⟨a, hp, rfl⟩ := map_eq_ok_iff.mp hmap
  exact h notices a notices' hp

/-- What is made of a value may satisfy a condition however the value is read. -/
theorem bind_pure {f : α → β} (h : ∀ a, condition (f a)) :
    Yields (p >>= fun a => pure (f a)) condition := by
  rw [bind_pure_comp]
  exact map fun _ a _ _ => h a

end Yields

namespace Ensures

variable {p : Decode ν α} {post post' : α → List ν → Prop}

theorem pure {a : α} (h : post a []) : Ensures (pure a : Decode ν α) post := by
  rintro notices _ _ ⟨⟩
  exact ⟨[], (List.append_nil notices).symm, h⟩

theorem throw (problem : Problem) : Ensures (throw problem : Decode ν α) post :=
  fun _ _ _ h => nomatch h

theorem note {notice : ν} {post : Unit → List ν → Prop} (h : post () [notice]) :
    Ensures (Json.note notice) post := by
  rintro notices _ _ ⟨⟩
  exact ⟨[notice], rfl, h⟩

theorem mono (h : Ensures p post) (himp : ∀ a left, post a left → post' a left) :
    Ensures p post' := by
  intro notices a notices' hp
  obtain ⟨left, hleft, hpost⟩ := h notices a notices' hp
  exact ⟨left, hleft, himp a left hpost⟩

theorem and_yields {condition : α → Prop} (h : Ensures p post) (h' : Yields p condition) :
    Ensures p fun a left => post a left ∧ condition a := by
  intro notices a notices' hp
  obtain ⟨left, hleft, hpost⟩ := h notices a notices' hp
  exact ⟨left, hleft, hpost, h' notices a notices' hp⟩

/-- A second reading adds its notices to those of the first. -/
theorem bind {f : α → Decode ν β} {post' : β → List ν → Prop} (h : Ensures p post)
    (h' : ∀ a left, post a left → Ensures (f a) fun b more => post' b (left ++ more)) :
    Ensures (p >>= f) post' := by
  intro notices b notices'' hbind
  obtain ⟨a, notices', hp, hf⟩ := bind_eq_ok_iff.mp hbind
  obtain ⟨left, rfl, hpost⟩ := h notices a notices' hp
  obtain ⟨more, rfl, hpost'⟩ := h' a left hpost _ b notices'' hf
  exact ⟨left ++ more, List.append_assoc .., hpost'⟩

theorem bind_pure {f : α → β} {post : β → List ν → Prop}
    (h : Ensures p fun a left => post (f a) left) :
    Ensures (p >>= fun a => Pure.pure (f a)) post := by
  apply h.bind
  intro a left hpost
  apply pure
  rwa [List.append_nil]

theorem map {f : α → β} {post : β → List ν → Prop} (h : Ensures p fun a left => post (f a) left) :
    Ensures (f <$> p) post := by
  rw [← bind_pure_comp]
  exact h.bind_pure

theorem stopAt_bind {fault : Option Fault} {f : Unit → Decode ν α} (h : Ensures (f ()) post) :
    Ensures (stopAt fault >>= f) post := by
  cases fault with
  | none => exact h
  | some fault => exact throw _

end Ensures

/-! ## §2 Values -/

namespace Ensures

/-- A text is read as what its pieces stand for. -/
theorem textAs {expected : String} {depth : Nat} {φ : Phrase} {post : String → List ν → Prop}
    (h : ∀ pieces s, φ = .text pieces → textOf pieces = some s → post s []) :
    Ensures (Json.textAs expected depth φ.document) post := by
  -- any other value than a text is refused, a numeral whether it fits or not
  cases φ with
  | text pieces =>
    rw [Phrase.document, Document.ofPieces, textContent]
    cases htext : textOf pieces with
    | none => exact throw _
    | some s => exact pure (h pieces s rfl htext)
  | numeral figures =>
    rw [Phrase.document]
    cases figures.numeral.number <;> exact throw _
  | _ =>
    rw [Phrase.document]
    exact throw _

/-- Null is nothing, and everything else is something. -/
theorem optional {item : Decoder ν α} {depth : Nat} {φ : Phrase}
    {post : Option α → List ν → Prop} (hnull : φ = .null → post none [])
    (h : φ ≠ .null → Ensures (item depth φ.document) fun a left => post (some a) left) :
    Ensures (Json.optional item depth φ.document) post := by
  cases φ with
  | null =>
    rw [Phrase.document]
    exact pure (hnull rfl)
  | _ =>
    rw [Phrase.document] at h ⊢
    exact (h nofun).map

/-- Items leave their notices one after the other. -/
theorem mapM {item : Document → Decode ν α} {notices : Phrase → List ν} {items : List Phrase}
    (h : ∀ φ ∈ items, Ensures (item φ.document) fun _ left => left = notices φ) :
    Ensures ((phraseDocuments items).mapM item) fun _ left => left = items.flatMap notices := by
  induction items with
  | nil => exact pure rfl
  | cons φ items ih =>
    obtain ⟨hfirst, hothers⟩ := List.forall_mem_cons.mp h
    rw [phraseDocuments, List.mapM_cons]
    -- the notices of the first item, then those of the others
    apply hfirst.bind
    rintro a _ rfl
    apply (ih hothers).bind
    rintro as _ rfl
    apply pure
    rw [List.append_nil, List.flatMap_cons]

/-- A list takes one container. -/
theorem listOf {item : Decoder ν α} {room : Nat} {φ : Phrase} {post : List α → List ν → Prop}
    (h : ∀ depth items, room = depth + 1 → φ = .list items →
      Ensures ((phraseDocuments items).mapM (item depth)) post) :
    Ensures (Json.listOf item room φ.document) post := by
  -- a list asks for one level of nesting, which may be used up
  cases φ with
  | list items =>
    rw [Phrase.document]
    cases room with
    | zero => exact throw _
    | succ depth =>
      apply (h depth items rfl rfl).bind
      intro values left hpost
      apply stopAt_bind
      apply pure
      rwa [List.append_nil]
  | _ =>
    rw [Phrase.document]
    cases room <;> exact throw _

end Ensures

/-! ## §3 Members -/

/-- Where only the key of a member is looked at before it is known by its name, the members of an
    object are read by their names from the first to the last. -/
theorem foldlM_members_eq_ok_iff {step : β → Document × Document → Decode ν β}
    {named : β → String × Phrase → Decode ν β}
    (hstep : ∀ state pieces φ, step state (.ofPieces pieces, φ.document) =
      key (.ofPieces pieces) >>= fun name => named state (name, φ))
    {raw : List (List Piece × Phrase)} {state state' : β} {notices notices' : List ν} :
    (phraseMembers raw).foldlM step state notices = .ok state' notices' ↔
      ∃ given, keyed raw = some given ∧ given.foldlM named state notices = .ok state' notices' := by
  -- every step reads the key first, so the keys of all members read or the fold fails
  induction raw generalizing state notices with
  | nil => simp [phraseMembers, keyed]
  | cons member raw ih =>
    obtain ⟨pieces, φ⟩ := member
    simp only [phraseMembers, List.foldlM_cons, hstep, bind_eq_ok_iff, key_eq_ok_iff, ih]
    constructor
    · rintro ⟨next, _, ⟨name, _, ⟨hname, rfl⟩, hmember⟩, given, hgiven, hrest⟩
      refine ⟨(name, φ) :: given, by rw [keyed, hname, hgiven], ?_⟩
      rw [List.foldlM_cons, bind_eq_ok_iff]
      exact ⟨next, _, hmember, hrest⟩
    · rintro ⟨given, hgiven, hfold⟩
      rw [keyed] at hgiven
      split at hgiven
      · next name others hname hothers =>
        cases hgiven
        obtain ⟨next, _, hmember, hrest⟩ := bind_eq_ok_iff.mp hfold
        exact ⟨next, _, ⟨name, notices, ⟨hname, rfl⟩, hmember⟩, others, hothers, hrest⟩
      · cases hgiven

namespace Record

/-- Reads a member into a draft by its name; an unknown one is left alone. -/
def readNamed (r : Record ν σ) (depth : Nat) (draft : σ) (member : String × Phrase) :
    Decode ν σ :=
  match r.fields.find? fun field => field.name == member.1 with
  | none => pure draft
  | some field =>
    if field.isSet draft then throw (.mismatch (.duplicateField member.1))
    else do
      let set ← field.read depth member.2.document
      return set draft

variable {r : Record ν σ} {depth : Nat}

theorem find?_eq_none_iff {name : String} :
    (r.fields.find? fun field => field.name == name) = none ↔ name ∉ r.names := by
  simp [names, List.find?_eq_none]

/-- A phrase can always be passed over, so that only its name matters. -/
theorem readMember_eq (r : Record ν σ) (draft : σ) (pieces : List Piece) (φ : Phrase) :
    r.readMember depth draft (.ofPieces pieces, φ.document) =
      key (.ofPieces pieces) >>= fun name => r.readNamed depth draft (name, φ) := by
  simp only [readMember, skip, φ.skipped_document, stopAt, pure_bind]
  rfl

end Record

/-! ## §4 Records -/

namespace Record

/-- That the fields of a record are kept apart: no two have one name, none is set from the start,
    and each sets nothing but itself. -/
structure Lawful (r : Record ν σ) : Prop where
  names : r.names.Nodup
  empty : ∀ field ∈ r.fields, field.isSet r.empty = false
  sets : ∀ field ∈ r.fields, ∀ depth d, Yields (field.read depth d) fun set =>
    ∀ other ∈ r.fields, ∀ draft, other.isSet (set draft) =
      (other.name == field.name || other.isSet draft)

/-- A condition on the members that have been read, the draft that they have been read into and the
    notices that were left, which reading any other member keeps. -/
structure Keeps (r : Record ν σ) (depth : Nat)
    (invariant : List (String × Phrase) → σ → List ν → Prop) : Prop where
  empty : invariant [] r.empty []
  unknown : ∀ done draft left, invariant done draft left → ∀ key ∉ r.names, ∀ φ,
    invariant (done ++ [(key, φ)]) draft left
  known : ∀ done draft left, invariant done draft left → ∀ field ∈ r.fields,
    done.lookup field.name = none → ∀ φ,
    Ensures (field.read depth φ.document) fun set more =>
      invariant (done ++ [(field.name, φ)]) (set draft) (left ++ more)

/-- How far the reading of a record has come. -/
structure Reached (r : Record ν σ) (invariant : List (String × Phrase) → σ → List ν → Prop)
    (done : List (String × Phrase)) (draft : σ) (left : List ν) : Prop where
  isSet : ∀ field ∈ r.fields, field.isSet draft = done.any (·.1 == field.name)
  once : ∀ name ∈ r.names, done.countP (·.1 == name) ≤ 1
  invariant : invariant done draft left

variable {r : Record ν σ} {depth : Nat} {invariant : List (String × Phrase) → σ → List ν → Prop}
  {done : List (String × Phrase)} {draft : σ} {left : List ν}

theorem Reached.start (hr : r.Lawful) (hkeeps : r.Keeps depth invariant) :
    r.Reached invariant [] r.empty [] :=
  ⟨hr.empty, fun _ _ => Nat.zero_le _, hkeeps.empty⟩

theorem Reached.unknown (h : r.Reached invariant done draft left) (hkeeps : r.Keeps depth invariant)
    {key : String} (hkey : key ∉ r.names) (φ : Phrase) :
    r.Reached invariant (done ++ [(key, φ)]) draft left := by
  -- an unknown key is the name of no field, so nothing that counts has changed
  have hother : ∀ name ∈ r.names, (key == name) = false := fun name hname =>
    beq_eq_false_iff_ne.mpr fun heq => hkey (heq ▸ hname)
  refine ⟨fun field hfield => ?_, fun name hname => ?_, hkeeps.unknown _ _ _ h.invariant _ hkey φ⟩
  · have hname := hother field.name (List.mem_map_of_mem hfield)
    simp [h.isSet field hfield, hname]
  · have hcount := h.once name hname
    simpa [List.countP_append, List.countP_cons, hother name hname] using hcount

/-- A field that has not been read yet is read next. -/
theorem Reached.known (h : r.Reached invariant done draft left) (hr : r.Lawful)
    (hkeeps : r.Keeps depth invariant) {field : Field ν σ} (hfield : field ∈ r.fields)
    (hfresh : done.any (·.1 == field.name) = false) (φ : Phrase) :
    Ensures (field.read depth φ.document) fun set more =>
      r.Reached invariant (done ++ [(field.name, φ)]) (set draft) (left ++ more) := by
  -- the field is fresh: nothing that is done has its name
  have hlookup : done.lookup field.name = none := by
    rw [← Option.isNone_iff_eq_none, ← Option.not_isSome, isSome_lookup, hfresh, Bool.not_false]
  refine ((hkeeps.known done draft left h.invariant field hfield hlookup φ).and_yields
    (hr.sets field hfield depth φ.document)).mono ?_
  rintro set more ⟨hinvariant, hset⟩
  refine ⟨fun other hother => ?_, fun name hname => ?_, hinvariant⟩
  · have hcomm : (field.name == other.name) = (other.name == field.name) := Bool.beq_comm
    simp [hset other hother, h.isSet other hother, hcomm, Bool.or_comm]
  · -- its own name now occurs once, the others as often as before
    by_cases heq : field.name = name
    · subst heq
      have hcount : done.countP (·.1 == field.name) = 0 := by
        rw [List.countP_eq_zero]
        simpa using hfresh
      simp [List.countP_append, hcount]
    · have hcount := h.once name hname
      simpa [List.countP_append, List.countP_cons, beq_eq_false_iff_ne.mpr heq] using hcount

theorem Reached.readNamed (h : r.Reached invariant done draft left) (hr : r.Lawful)
    (hkeeps : r.Keeps depth invariant) (member : String × Phrase) :
    Ensures (r.readNamed depth draft member) fun draft more =>
      r.Reached invariant (done ++ [member]) draft (left ++ more) := by
  obtain ⟨name, φ⟩ := member
  unfold Record.readNamed
  -- a member is unknown, or it belongs to a field that is set already or still free
  cases hfind : r.fields.find? fun field => field.name == name with
  | none =>
    apply Ensures.pure
    rw [List.append_nil]
    exact h.unknown hkeeps (find?_eq_none_iff.mp hfind) φ
  | some field =>
    have hfield := List.mem_of_find?_eq_some hfind
    have heq : field.name = name := by simpa using List.find?_some hfind
    subst heq
    dsimp only
    split
    · exact Ensures.throw _
    · next hunset =>
      have hfresh : done.any (·.1 == field.name) = false := by
        rw [← h.isSet field hfield]
        exact Bool.eq_false_iff.mpr hunset
      exact (h.known hr hkeeps hfield hfresh φ).bind_pure

/-- Members are read from the first to the last. -/
theorem Reached.foldlM (h : r.Reached invariant done draft left) (hr : r.Lawful)
    (hkeeps : r.Keeps depth invariant) (given : List (String × Phrase)) :
    Ensures (given.foldlM (r.readNamed depth) draft) fun draft more =>
      r.Reached invariant (done ++ given) draft (left ++ more) := by
  -- the induction is on what is still to be read, with all that is done kept in `done`
  induction given generalizing done draft left with
  | nil =>
    apply Ensures.pure
    rwa [List.append_nil, List.append_nil]
  | cons member given ih =>
    rw [List.foldlM_cons]
    apply (h.readNamed hr hkeeps member).bind
    intro draft more hreached
    apply (ih hreached).mono
    intro draft evenMore hlast
    rwa [List.append_assoc, List.append_assoc, List.singleton_append] at hlast

/-- Items are read into the fields that are left, from the first to the last. -/
theorem Reached.readItems (h : r.Reached invariant done draft left) (hr : r.Lawful)
    (hkeeps : r.Keeps depth invariant) {fields : List (Field ν σ)}
    (hfields : ∀ field ∈ fields, field ∈ r.fields) (hnames : (fields.map Field.name).Nodup)
    (hfresh : ∀ field ∈ fields, done.any (·.1 == field.name) = false) (items : List Phrase)
    (fault : Option Fault) (position : Nat) :
    Ensures (r.readItems depth fault position fields (phraseDocuments items) draft)
      fun draft more => items.length ≤ fields.length ∧
        r.Reached invariant (done ++ (fields.map Field.name).zip items) draft (left ++ more) := by
  induction fields generalizing done draft left items position with
  | nil =>
    cases items with
    | cons item items => exact Ensures.throw _
    | nil =>
      rw [phraseDocuments, Record.readItems]
      apply Ensures.stopAt_bind
      apply Ensures.pure
      simpa using h
  | cons field fields ih =>
    obtain ⟨hfield, hothers⟩ := List.forall_mem_cons.mp hfields
    obtain ⟨hunread, hlater⟩ := List.forall_mem_cons.mp hfresh
    rw [List.map_cons, List.nodup_cons] at hnames
    cases items with
    | nil =>
      rw [phraseDocuments, Record.readItems]
      apply Ensures.stopAt_bind
      split
      · apply (ih h hothers hnames.2 hlater [] (position + 1)).mono
        rintro draft more ⟨-, hreached⟩
        rw [List.zip_nil_right] at hreached ⊢
        exact ⟨Nat.zero_le _, hreached⟩
      · exact Ensures.throw _
    | cons item items =>
      rw [phraseDocuments, Record.readItems]
      apply (h.known hr hkeeps hfield hunread item).bind
      intro set more hreached
      -- none of the fields to come has the name of the one that has just been read
      have hstill : ∀ other ∈ fields,
          (done ++ [(field.name, item)]).any (·.1 == other.name) = false := by
        intro other hother
        have hne : (field.name == other.name) = false := beq_eq_false_iff_ne.mpr fun heq =>
          hnames.1 (heq ▸ List.mem_map_of_mem hother)
        simp [List.any_append, hlater other hother, hne]
      apply (ih hreached hothers hnames.2 hstill items (position + 1)).mono
      rintro draft evenMore ⟨hlength, hlast⟩
      refine ⟨Nat.succ_le_succ hlength, ?_⟩
      rwa [List.append_assoc, List.append_assoc, List.singleton_append] at hlast

theorem Reached.members? (h : r.Reached invariant done draft left) {φ : Phrase}
    (hnamed : φ.named? r.names = some done) : φ.members? r.names = some done := by
  rw [Phrase.members?, Option.filter_eq_some_iff, List.all_eq_true]
  exact ⟨hnamed, fun name hname => decide_eq_true (h.once name hname)⟩

/-- An invariant that fields keep holds of the record that has been read, and no field of it is
    there twice. -/
theorem ensures_read (hr : r.Lawful) (hkeeps : r.Keeps depth invariant) (φ : Phrase) :
    Ensures (r.read (depth + 1) φ.document) fun draft left =>
      ∃ members, φ.members? r.names = some members ∧ invariant members draft left := by
  have hstart := Reached.start hr hkeeps
  cases φ with
  | object raw =>
    -- the keys all read, so the fold over the spelled members is one over named members
    have hfold : Ensures ((phraseMembers raw).foldlM (r.readMember depth) r.empty)
        fun draft left => ∃ given, keyed raw = some given ∧
          r.Reached invariant given draft left := by
      intro notices draft notices' hfold
      obtain ⟨given, hgiven, hnamed⟩ := (foldlM_members_eq_ok_iff r.readMember_eq).mp hfold
      obtain ⟨left, hleft, hreached⟩ := hstart.foldlM hr hkeeps given notices draft notices' hnamed
      exact ⟨left, hleft, given, hgiven, hreached⟩
    rw [Phrase.document, Record.read]
    apply hfold.bind
    rintro draft left ⟨given, hgiven, hreached⟩
    apply Ensures.stopAt_bind
    rw [Record.finish]
    split
    · exact Ensures.throw _
    · apply Ensures.pure
      rw [List.append_nil]
      exact ⟨given, hreached.members? hgiven, hreached.invariant⟩
  -- a list gives the fields in their order, each of them once
  | list items =>
    rw [Phrase.document, Record.read]
    apply (hstart.readItems hr hkeeps (fun _ h => h) hr.names (fun _ _ => rfl) items none 0).mono
    rintro draft left ⟨hlength, hreached⟩
    refine ⟨r.names.zip items, hreached.members? ?_, hreached.invariant⟩
    rw [Phrase.named?, if_pos (by rwa [names, List.length_map])]
    rfl
  | _ =>
    rw [Phrase.document]
    exact Ensures.throw _

/-- If every field leaves its own notices, and what is passed over has none, then the record leaves
    those of its members in the order in which they stand. -/
theorem ensures_notices (hr : r.Lawful) (notices : String → Phrase → List ν)
    (hunknown : ∀ key ∉ r.names, ∀ φ, notices key φ = [])
    (hknown : ∀ field ∈ r.fields, ∀ φ, Ensures (field.read depth φ.document) fun _ left =>
      left = notices field.name φ) (φ : Phrase) :
    Ensures (r.read (depth + 1) φ.document) fun _ left =>
      ∃ members, φ.members? r.names = some members ∧
        left = members.flatMap fun member => notices member.1 member.2 := by
  -- the invariant: the notices so far are those of the members that are done
  have hkeeps : r.Keeps depth fun done _ left =>
      left = done.flatMap fun member => notices member.1 member.2 := by
    refine ⟨rfl, ?_, ?_⟩
    · rintro done draft _ rfl key hkey φ
      simp [hunknown key hkey φ]
    · rintro done draft _ rfl field hfield - φ
      apply (hknown field hfield φ).mono
      rintro set _ rfl
      simp
  exact ensures_read hr hkeeps φ

/-- A record takes one container. -/
theorem ensures_read_zero (post : σ → List ν → Prop) (d : Document) : Ensures (r.read 0 d) post := by
  cases d <;> exact Ensures.throw _

end Record

/-! ## §5 Records without notices -/

/-- Where there are no notices, all that matters is the value. -/
theorem Ensures.of_yields {p : Decode Empty α} {condition : α → Prop} (h : Yields p condition) :
    Ensures p fun a _ => condition a := by
  intro notices a notices' hp
  have hnil (list : List Empty) : list = [] := List.eq_nil_iff_forall_not_mem.mpr nofun
  exact ⟨[], (hnil _).trans (hnil _).symm, h notices a notices' hp⟩

/-- The member of a record with the given names that stands under one of them. -/
def Phrase.member? (names : List String) (φ : Phrase) (name : String) : Option Phrase :=
  (φ.members? names).bind fun members => members.lookup name

namespace Record

/-- A draft that is made of what stands under the names of its record: reading a field adds what
    stands under its name. -/
structure MadeOf (r : Record Empty σ) (make : (String → Option Phrase) → σ) : Prop where
  lawful : r.Lawful
  empty : make (fun _ => none) = r.empty
  names : ∀ find find', (∀ name ∈ r.names, find name = find' name) → make find = make find'
  known : ∀ field ∈ r.fields, ∀ find, find field.name = none → ∀ depth φ,
    Yields (field.read depth φ.document) fun set =>
      set (make find) = make fun name => if name = field.name then some φ else find name

variable {r : Record Empty σ} {make : (String → Option Phrase) → σ}

theorem MadeOf.keeps (h : r.MadeOf make) (depth : Nat) :
    r.Keeps depth fun done draft _ => draft = make fun name => done.lookup name := by
  refine ⟨h.empty.symm, ?_, ?_⟩
  · -- an unknown key is none of the names that `make` looks up
    rintro done _ _ rfl key hkey φ
    apply h.names
    intro name hname
    have hne : (name == key) = false := beq_eq_false_iff_ne.mpr fun heq => hkey (heq ▸ hname)
    simp [List.lookup_append, List.lookup_cons, hne]
  · -- a known field changes what is found at its own name alone
    rintro done _ _ rfl field hfield hlookup φ
    apply Ensures.of_yields
    intro notices set notices' hset
    rw [h.known field hfield _ hlookup depth φ notices set notices' hset]
    congr 1
    funext name
    by_cases hname : name = field.name
    · subst hname
      simp [List.lookup_append, hlookup]
    · have hne : (name == field.name) = false := beq_eq_false_iff_ne.mpr hname
      simp [List.lookup_append, List.lookup_cons, hne, hname]

theorem MadeOf.yields_read (h : r.MadeOf make) (room : Nat) (φ : Phrase) :
    Yields (r.read room φ.document) fun draft => draft = make (φ.member? r.names) := by
  intro notices draft notices' hread
  -- without room nothing is read; otherwise what holds along the way holds in the end
  cases room with
  | zero =>
    obtain ⟨_, -, hfalse⟩ :=
      ensures_read_zero (fun _ _ => False) φ.document notices draft notices' hread
    exact hfalse.elim
  | succ depth =>
    obtain ⟨_, -, members, hmembers, rfl⟩ :=
      ensures_read h.lawful (h.keeps depth) φ notices draft notices' hread
    congr 1
    funext name
    rw [Phrase.member?, hmembers, Option.bind_some]

end Record

end IncidentTracker.Json
