import IncidentTracker.Entity.Property
import IncidentTracker.Proofs.Dictionary
import IncidentTracker.Proofs.Entity.Identifiers
import IncidentTracker.WideColumn.Call

/-!
# The Traffic of Additions

Any number of clients add incidents to one table, and the steps of their calls interleave in any
order. The table is keyed by kind and identifier together. A scan sees the table as it stands when
it is served, and an item is put only if none is stored under its key; between the two, other
clients may have put theirs.

No two incidents are ever stored under one key, and no two calls return incidents with one key.
A call that begins after an incident was stored gets a larger identifier. Two calls that overlap
may however return one identifier twice, under different kinds, because then nothing
stands in the way of the second put.

Main statements: `Traffic.run_keys_distinct` and `Traffic.run_overlapping_same_id`.
-/

namespace IncidentTracker.WideColumn

/-! ## §1 The table -/

/-- The key of an incident: its kind and its identifier. -/
def keyOf (i : Incident) : String × Int :=
  (i.kind, i.id)

/-- The key under which a table keeps an item. -/
def Item.key? (item : Item) : Option (String × String) :=
  match item.get? "type", item.get? "id" with
  | some (.text kind), some (.number digits) => some (kind, digits)
  | _, _ => none

/-- What a scan of identifiers shows of an item. -/
def Item.onlyId (item : Item) : Item :=
  match item.get? "id" with
  | some value => .ofList [("id", value)]
  | none => .empty

/-- What the service does with a request, if it is one that an addition makes: its reply, and the
    table after it. -/
def serve (table : List Item) : Request → Option (Reply × List Item)
  | .scan .identifiers _ => some (.page (table.map Item.onlyId) none, table)
  | .putNew item =>
    match item.key? with
    | none => some (.refused "ValidationException", table)
    | some key =>
      if table.any fun other => other.key? = some key then
        some (.refused "ConditionalCheckFailedException", table)
      else some (.done, table ++ [item])
  | _ => none

theorem get?_id_onlyId (item : Item) : item.onlyId.get? "id" = item.get? "id" := by
  unfold Item.onlyId
  split
  · next value h => simp [h, Dictionary.ofList, Dictionary.get?_insert]
  · next h => simp [h]

theorem id_onlyId (item : Item) : item.onlyId.id = item.id := by
  rw [Item.id, Item.id, get?_id_onlyId]

/-- A well-known member is written under its name, the identifier as a number. -/
theorem Item.get?_ofIncident (i : Incident) {entry : String × (Incident → String)}
    (h : entry ∈ (HasProperties.members : List (String × (Incident → String)))) :
    (ofIncident i).get? entry.1 =
      some (if entry.1 = "id" then .number (entry.2 i) else .text (entry.2 i)) := by
  simp only [HasProperties.members, List.mem_cons, List.not_mem_nil, or_false] at h
  rcases h with rfl | rfl | rfl | rfl | rfl
  all_goals simp [ofIncident, Dictionary.ofList, Dictionary.get?_insert]

/-- Every member but the identifier is written as a text. -/
theorem Item.get?_text_ofIncident (i : Incident) {name : String} {member : Incident → String}
    (hmember : (name, member) ∈ (HasProperties.members : List (String × (Incident → String))))
    (hid : name ≠ "id") : (ofIncident i).get? name = some (.text (member i)) := by
  rw [get?_ofIncident i hmember, if_neg hid]

/-- The attributes are written last, as a map under a name that no member has. -/
theorem Item.get?_attributes_ofIncident (i : Incident) :
    (ofIncident i).get? "attributes" = some (attributesValue i.attributes) := by
  simp [ofIncident, Dictionary.ofList, Dictionary.get?_insert]

theorem get?_id_ofIncident (i : Incident) :
    (Item.ofIncident i).get? "id" = some (.number (idText i.id)) := by
  apply (Item.get?_ofIncident i (.head _)).trans
  rw [if_pos rfl]

theorem key?_ofIncident (i : Incident) :
    (Item.ofIncident i).key? = some (i.kind, idText i.id) := by
  have htype : (Item.ofIncident i).get? "type" = some (.text i.kind) :=
    Item.get?_text_ofIncident i (.tail _ (.head _)) (by decide)
  rw [Item.key?, htype, get?_id_ofIncident]

theorem id_ofIncident (i : Incident) :
    (Item.ofIncident i).id =
      if Text.Decimal.isWord i.id then .ok i.id else .error (.idNotInteger (idText i.id)) := by
  rw [Item.id, get?_id_ofIncident]
  simp only [idText, String.toList_ofList, Text.Decimal.toWord?_ofInt]
  cases Text.Decimal.isWord i.id <;> rfl

/-- A put goes through exactly if no incident is stored under its key. -/
theorem serve_putNew (stored : List Incident) (i : Incident) :
    serve (stored.map Item.ofIncident) (.putNew (.ofIncident i)) =
      if keyOf i ∈ stored.map keyOf then
        some (.refused "ConditionalCheckFailedException", stored.map Item.ofIncident)
      else some (.done, (stored ++ [i]).map Item.ofIncident) := by
  -- the key of an item is the type and the identifier of its incident
  have hany : ((stored.map Item.ofIncident).any fun other =>
      other.key? = some (i.kind, idText i.id)) = true ↔ keyOf i ∈ stored.map keyOf := by
    simp [key?_ofIncident, idText_inj, keyOf]
  simp only [serve, key?_ofIncident, hany, List.map_append, List.map_cons, List.map_nil]

/-- The next identifier is larger than all that were seen, and each item had one. -/
theorem lt_nextId {items : List Item} {before largest : Option Int}
    (h : largestId before items = .ok largest) :
    (∀ n ∈ before, n < nextId largest) ∧
      ∀ item ∈ items, ∃ n, item.id = .ok n ∧ n < nextId largest := by
  -- the induction is on the items, with the largest identifier so far in `before`
  induction items generalizing before with
  | nil =>
    cases h
    refine ⟨fun n hn => ?_, by simp⟩
    rw [Option.mem_def.mp hn]
    exact Int.lt_succ n
  | cons item items ih =>
    cases hid : item.id with
    | error e => simp [largestId, hid, bind, Except.bind] at h
    | ok m =>
      simp only [largestId, hid, bind, Except.bind] at h
      obtain ⟨hbefore, hitems⟩ := ih h
      have hlarger : larger before m < nextId largest := hbefore _ rfl
      have hm : m ≤ larger before m := by
        unfold larger
        split <;> omega
      refine ⟨fun n hn => ?_, fun other hmem => ?_⟩
      · rw [Option.mem_def.mp hn, larger] at hlarger
        omega
      · rcases List.mem_cons.mp hmem with rfl | hmem
        · exact ⟨m, hid, by omega⟩
        · exact hitems other hmem

/-- The identifier that a scan leads to is larger than all that are stored. -/
theorem lt_nextId_of_scan {stored : List Incident} {largest : Option Int}
    (h : largestId none ((stored.map Item.ofIncident).map Item.onlyId) = .ok largest) :
    ∀ i ∈ stored, i.id < nextId largest := by
  intro i hi
  have hmem : (Item.ofIncident i).onlyId ∈ (stored.map Item.ofIncident).map Item.onlyId :=
    List.mem_map_of_mem (List.mem_map_of_mem hi)
  obtain ⟨n, hid, hlt⟩ := (lt_nextId h).2 _ hmem
  -- what was read is the identifier of the incident
  rw [id_onlyId, id_ofIncident] at hid
  split at hid
  · cases hid
    exact hlt
  · cases hid

/-! ## §2 Calls side by side -/

/-- A table, and the calls that add to it, one for each client. -/
structure Traffic where
  table : List Item := []
  calls : List (Step Addition Incident) := []

/-- What can happen next. -/
inductive Event where
  /-- Another client begins to add an incident. -/
  | begins (new : NewIncident)
  /-- The request of a client is served, and the client receives the reply. -/
  | served (client : Nat)
  /-- A client gives up: its request did not reach the service, or the reply did not come back. -/
  | lost (client : Nat) (reached : Bool)
  deriving DecidableEq

/-- How a call begins. -/
def beginning (new : NewIncident) : Step Addition Incident :=
  match checkKind new with
  | .error e => .finished (.error e.toStoreError)
  | .ok () => .waiting (.numbering new none none)

namespace Traffic

/-- The state in which the call of a client waits. -/
def waiting? (w : Traffic) (client : Nat) : Option Addition :=
  match w.calls[client]? with
  | some (.waiting state) => some state
  | _ => none

/-- What a client waits for: the state of its call, the reply, and the table after it. -/
def answer? (w : Traffic) (client : Nat) : Option (Addition × Reply × List Item) := do
  let state ← w.waiting? client
  let (reply, table) ← serve w.table (addition.request state)
  return (state, reply, table)

/-- The traffic after an event. -/
def step (w : Traffic) : Event → Traffic
  | .begins new => { w with calls := w.calls ++ [beginning new] }
  | .served client =>
    match w.answer? client with
    | some (state, reply, table) => ⟨table, w.calls.set client (addition.receive state reply)⟩
    | none => w
  | .lost client reached =>
    match w.answer? client with
    | some (_, _, table) =>
      ⟨if reached then table else w.table,
        w.calls.set client (.finished (.error addition.undelivered))⟩
    | none => w

/-- The traffic that some events lead to, from an empty table. -/
def run (events : List Event) : Traffic :=
  events.foldl step {}

/-- The call of a client has succeeded, and returned an incident. -/
def Returned (w : Traffic) (client : Nat) (i : Incident) : Prop :=
  w.calls[client]? = some (.finished (.ok i))

/-! ## §3 What an event changes -/

/-- What an event does to traffic whose table holds some incidents. -/
inductive Change (stored : List Incident) (w : Traffic) : List Incident → Traffic → Prop
  | nothing : Change stored w stored w
  | begun (new : NewIncident) :
    Change stored w stored { w with calls := w.calls ++ [beginning new] }
  /-- A scan finds that all identifiers are below `next`. -/
  | numbered (client next : _) (new : NewIncident)
      (waits : w.waiting? client = some (.numbering new none none))
      (above : ∀ i ∈ stored, i.id < next) :
    Change stored w stored
      { w with calls := w.calls.set client (.waiting (.storing (new.withId next))) }
  /-- An incident is put under a key of its own; its client may not learn of it. -/
  | put (client : Nat) (i : Incident) (result : Except StoreError Incident)
      (waits : w.waiting? client = some (.storing i)) (free : keyOf i ∉ stored.map keyOf)
      (learned : ∀ j, result = .ok j → j = i) :
    Change stored w (stored ++ [i])
      ⟨w.table ++ [.ofIncident i], w.calls.set client (.finished result)⟩
  | failed (client : Nat) (e : StoreError) :
    Change stored w stored { w with calls := w.calls.set client (.finished (.error e)) }

/-- The table holds some incidents, and every scan was answered in one page. -/
structure Holds (w : Traffic) (stored : List Incident) : Prop where
  table : w.table = stored.map Item.ofIncident
  onePage : ∀ client new largest start,
    w.waiting? client = some (.numbering new largest start) → largest = none ∧ start = none

variable {w : Traffic} {stored : List Incident}

/-- A client waits for a page of all identifiers, or to put an incident, which is refused if its key
    is taken. -/
theorem answer?_cases {client : Nat} {state : Addition} {reply : Reply} {table : List Item}
    (h : w.Holds stored) (hanswer : w.answer? client = some (state, reply, table)) :
    (∃ new, w.waiting? client = some (.numbering new none none) ∧
      state = .numbering new none none ∧ reply = .page (w.table.map Item.onlyId) none ∧
      table = w.table) ∨
    (∃ i reason, w.waiting? client = some (.storing i) ∧ keyOf i ∈ stored.map keyOf ∧
      state = .storing i ∧ reply = .refused reason ∧ table = w.table) ∨
    (∃ i, w.waiting? client = some (.storing i) ∧ keyOf i ∉ stored.map keyOf ∧
      state = .storing i ∧ reply = .done ∧ table = w.table ++ [.ofIncident i]) := by
  cases hwaiting : w.waiting? client with
  | none => simp [answer?, hwaiting] at hanswer
  | some waiting =>
    cases waiting with
    | numbering new largest start =>
      -- the scan has just begun, and its one page is the whole table
      obtain ⟨rfl, rfl⟩ := h.onePage client new largest start hwaiting
      simp only [answer?, hwaiting, addition, serve, Option.bind_eq_bind,
        Option.bind_some] at hanswer
      cases hanswer
      exact .inl ⟨new, rfl, rfl, rfl, rfl⟩
    | storing i =>
      simp only [answer?, hwaiting, addition, h.table, serve_putNew, Option.bind_eq_bind,
        Option.bind_some] at hanswer
      split at hanswer
      · -- the put fails if the key is taken, whatever else is in the table
        next hkey =>
        cases hanswer
        exact .inr (.inl ⟨i, _, rfl, hkey, rfl, rfl, h.table.symm⟩)
      · next hkey =>
        cases hanswer
        exact .inr (.inr ⟨i, rfl, hkey, rfl, rfl, by simp [h.table]⟩)

/-- Every event changes one thing. -/
theorem step_change (h : w.Holds stored) (event : Event) :
    ∃ after, Change stored w after (w.step event) := by
  cases event with
  | begins new => exact ⟨_, .begun new⟩
  | served client =>
    -- a request is answered only if the client waits for an answer
    simp only [step]
    split
    · next state reply table hanswer =>
      obtain ⟨new, hwaiting, rfl, rfl, rfl⟩ | ⟨i, reason, -, -, rfl, rfl, rfl⟩ |
        ⟨i, hwaiting, hkey, rfl, rfl, rfl⟩ := answer?_cases h hanswer
      · -- the scan is over in one page, and the next request is to put
        cases hlargest : largestId none (w.table.map Item.onlyId) with
        | error e =>
          simp only [addition, Reply.items, hlargest]
          exact ⟨_, .failed client _⟩
        | ok largest =>
          simp only [addition, Reply.items, Reply.nextKey, hlargest]
          rw [h.table] at hlargest
          exact ⟨_, .numbered client _ new hwaiting (lt_nextId_of_scan hlargest)⟩
      · exact ⟨_, .failed client _⟩
      · exact ⟨_, .put client i (.ok i) hwaiting hkey fun j hj => (Except.ok.inj hj).symm⟩
    · exact ⟨_, .nothing⟩
  | lost client reached =>
    simp only [step]
    split
    · next state reply table hanswer =>
      obtain ⟨new, -, -, -, rfl⟩ | ⟨i, reason, -, -, -, -, rfl⟩ | ⟨i, hwaiting, hkey, -, -, rfl⟩ :=
        answer?_cases h hanswer
      · rw [ite_self]
        exact ⟨_, .failed client _⟩
      · rw [ite_self]
        exact ⟨_, .failed client _⟩
      · -- the answer is lost; what matters is whether the put had reached the table
        cases reached with
        | false => exact ⟨_, .failed client _⟩
        | true => exact ⟨_, .put client i _ hwaiting hkey fun j hj => nomatch hj⟩
    · exact ⟨_, .nothing⟩

/-! ## §4 What every event preserves -/

variable {after : List Incident} {w' : Traffic} {client : Nat}

theorem waiting?_eq_some {state : Addition} :
    w.waiting? client = some state ↔ w.calls[client]? = some (.waiting state) := by
  unfold waiting?
  split
  · next waiting heq => simp [heq]
  · next hne => exact ⟨nofun, fun heq => absurd heq (hne state)⟩

/-- A call begins with a scan, unless it fails at once. -/
theorem beginning_cases (new : NewIncident) :
    beginning new = .waiting (.numbering new none none) ∨
      ∃ e, beginning new = .finished (.error e) := by
  unfold beginning
  split
  · exact .inr ⟨_, rfl⟩
  · exact .inl rfl

private theorem getElem?_set_cases {α : Type} {l : List α} {n m : Nat} {a b : α}
    (h : (l.set n a)[m]? = some b) : m ≠ n ∧ l[m]? = some b ∨ m = n ∧ b = a := by
  rw [List.getElem?_set] at h
  split at h
  · next heq => exact .inr ⟨heq.symm, (Option.some.inj (Option.ite_none_right_eq_some.mp h).2).symm⟩
  · next hne => exact .inl ⟨Ne.symm hne, h⟩

private theorem getElem?_concat_cases {α : Type} {l : List α} {m : Nat} {a b : α}
    (h : (l ++ [a])[m]? = some b) : l[m]? = some b ∨ b = a := by
  rw [List.getElem?_append] at h
  split at h
  · exact .inl h
  · exact .inr (List.mem_singleton.mp (List.mem_of_getElem? h))

/-- A client that waits has waited before, or it has just begun, or it has just found the largest
    identifier. -/
theorem Change.waiting (h : Change stored w after w') {state : Addition}
    (hwaiting : w'.waiting? client = some state) :
    w.waiting? client = some state ∨ (∃ new, state = .numbering new none none) ∨
      ∃ i, state = .storing i ∧ ∀ j ∈ stored, j.id < i.id := by
  rw [waiting?_eq_some] at hwaiting ⊢
  cases h with
  | nothing => exact .inl hwaiting
  | begun new =>
    refine (getElem?_concat_cases hwaiting).imp_right fun heq => .inl ⟨new, ?_⟩
    -- an addition begins with a scan or has failed already
    obtain hscan | ⟨e, hfailed⟩ := beginning_cases new
    · exact Step.waiting.inj (heq.trans hscan)
    · cases heq.trans hfailed
  | numbered mover next new _ above =>
    obtain ⟨-, hbefore⟩ | ⟨-, heq⟩ := getElem?_set_cases hwaiting
    · exact .inl hbefore
    · exact .inr (.inr ⟨_, Step.waiting.inj heq, above⟩)
  | put mover i result => exact .inl ((getElem?_set_cases hwaiting).resolve_right nofun).2
  | failed mover e => exact .inl ((getElem?_set_cases hwaiting).resolve_right nofun).2

/-- A client to which an incident was returned had it before, or it is the one that has just put it
    under a key of its own. -/
theorem Change.returned (h : Change stored w after w') {i : Incident}
    (hreturned : w'.Returned client i) :
    w.Returned client i ∨
      (w.waiting? client = some (.storing i) ∧ keyOf i ∉ stored.map keyOf ∧ after = stored ++ [i] ∧
        ∀ other j, other ≠ client → w'.Returned other j → w.Returned other j) := by
  cases h with
  | nothing => exact .inl hreturned
  | begun new =>
    -- a client that begins has not come back yet
    refine .inl ((getElem?_concat_cases hreturned).resolve_right fun heq => ?_)
    obtain hscan | ⟨e, hfailed⟩ := beginning_cases new
    · cases heq.trans hscan
    · cases heq.trans hfailed
  | numbered mover next new => exact .inl ((getElem?_set_cases hreturned).resolve_right nofun).2
  | failed mover e => exact .inl ((getElem?_set_cases hreturned).resolve_right nofun).2
  | put mover put result waits free learned =>
    obtain ⟨-, hbefore⟩ | ⟨rfl, heq⟩ := getElem?_set_cases hreturned
    · exact .inl hbefore
    · -- only the mover has learned of the put, so for all others nothing is new
      obtain rfl := learned i (Step.finished.inj heq).symm
      refine .inr ⟨waits, free, rfl, fun other j hne hother => ?_⟩
      exact ((getElem?_set_cases hother).resolve_right fun hmover => hne hmover.1).2

/-- Traffic in which no key is taken twice. -/
structure Sound (w : Traffic) (stored : List Incident) : Prop extends Holds w stored where
  distinct : (stored.map keyOf).Nodup
  kept : ∀ client i, w.Returned client i → i ∈ stored
  apart : ∀ client other i j, client ≠ other → w.Returned client i → w.Returned other j →
    keyOf i ≠ keyOf j

/-- From the client numbered `first` on, all clients are given identifiers above those of some
    incidents. -/
structure Above (base : List Incident) (first : Nat) (w : Traffic) : Prop where
  waiting : ∀ client i, first ≤ client → w.waiting? client = some (.storing i) →
    ∀ j ∈ base, j.id < i.id
  returned : ∀ client i, first ≤ client → w.Returned client i → ∀ j ∈ base, j.id < i.id

theorem Change.isPrefix (h : Change stored w after w') : stored <+: after := by
  cases h with
  | put _ i => exact List.prefix_append stored [i]
  | _ => exact List.prefix_rfl

theorem Change.sound (h : Change stored w after w') (hw : w.Sound stored) : w'.Sound after where
  table := by
    cases h with
    | put _ i => simp [hw.table]
    | _ => exact hw.table
  onePage client new largest start hwaiting := by
    obtain hbefore | ⟨_, heq⟩ | ⟨i, heq, -⟩ := h.waiting hwaiting
    · exact hw.onePage client new largest start hbefore
    · cases heq
      exact ⟨rfl, rfl⟩
    · cases heq
  distinct := by
    cases h with
    | put _ i _ _ free =>
      -- the key was free
      rw [List.map_append, List.map_singleton, List.nodup_append]
      refine ⟨hw.distinct, List.pairwise_singleton _ _, fun key hkey other hother => ?_⟩
      rw [List.mem_singleton.mp hother]
      exact fun heq => free (heq ▸ hkey)
    | _ => exact hw.distinct
  kept client i hreturned := by
    obtain hbefore | ⟨-, -, rfl, -⟩ := h.returned hreturned
    · exact h.isPrefix.subset (hw.kept client i hbefore)
    · exact List.mem_append_right stored List.mem_cons_self
  apart client other i j hne hi hj := by
    -- if one of the two was just put, its key was free, and the other was stored before
    obtain hi' | ⟨-, hfree, -, hothers⟩ := h.returned hi
    · obtain hj' | ⟨-, hfree, -, -⟩ := h.returned hj
      · exact hw.apart client other i j hne hi' hj'
      · exact fun heq => hfree (heq ▸ List.mem_map_of_mem (hw.kept client i hi'))
    · have hj' := hothers other j hne.symm hj
      exact fun heq => hfree (heq ▸ List.mem_map_of_mem (hw.kept other j hj'))

theorem Change.above {base : List Incident} {first : Nat} (h : Change stored w after w')
    (hbase : base ⊆ stored) (hw : Above base first w) : Above base first w' where
  waiting client i hfirst hwaiting := by
    -- what waits to be stored has been numbered above all that was stored by then
    obtain hbefore | ⟨_, heq⟩ | ⟨_, heq, habove⟩ := h.waiting hwaiting
    · exact hw.waiting client i hfirst hbefore
    · cases heq
    · cases heq
      exact fun j hj => habove j (hbase hj)
  returned client i hfirst hreturned := by
    obtain hbefore | ⟨hwaiting, -⟩ := h.returned hreturned
    · exact hw.returned client i hfirst hbefore
    · exact hw.waiting client i hfirst hwaiting

/-! ## §5 Runs -/

theorem foldl_step {base : List Incident} {first : Nat} (events : List Event) (hw : w.Sound stored)
    (hbase : base ⊆ stored) (habove : Above base first w) :
    ∃ after, stored <+: after ∧ (events.foldl step w).Sound after ∧
      Above base first (events.foldl step w) := by
  -- each event is one change, and every change preserves both
  induction events generalizing w stored with
  | nil => exact ⟨stored, List.prefix_rfl, hw, habove⟩
  | cons event events ih =>
    obtain ⟨next, hchange⟩ := step_change hw.toHolds event
    obtain ⟨after, hprefix, hafter⟩ := ih (hchange.sound hw)
      (List.Subset.trans hbase hchange.isPrefix.subset) (hchange.above hbase habove)
    exact ⟨after, hchange.isPrefix.trans hprefix, hafter⟩

theorem sound_empty : ({} : Traffic).Sound [] where
  table := rfl
  onePage := nofun
  distinct := List.nodup_nil
  kept := nofun
  apart := nofun

theorem above_length (base : List Incident) (w : Traffic) : Above base w.calls.length w where
  waiting client i hfirst hwaiting := by
    rw [waiting?_eq_some, List.getElem?_eq_none hfirst] at hwaiting
    cases hwaiting
  returned client i hfirst hreturned := by
    rw [Returned, List.getElem?_eq_none hfirst] at hreturned
    cases hreturned

/-- However the calls of any number of clients interleave, what is stored stays stored, no two
    incidents are stored under one key, no two clients are returned incidents with one key, and a
    client that begins after an incident was stored is returned a larger identifier. -/
theorem run_keys_distinct (events more : List Event) :
    ∃ before after : List Incident,
      (run events).table = before.map Item.ofIncident ∧
      (run (events ++ more)).table = after.map Item.ofIncident ∧
      before <+: after ∧ (after.map keyOf).Nodup ∧
      (∀ client other i j, client ≠ other → (run (events ++ more)).Returned client i →
        (run (events ++ more)).Returned other j → keyOf i ≠ keyOf j) ∧
      ∀ client i, (run (events ++ more)).Returned client i →
        i ∈ after ∧ ((run events).calls.length ≤ client → ∀ j ∈ before, j.id < i.id) := by
  -- the run so far, and then the run from there, in which the new clients stay above it
  obtain ⟨before, -, hbefore, -⟩ := foldl_step events sound_empty (List.Subset.refl [])
    (above_length [] {})
  obtain ⟨after, hprefix, hafter, habove⟩ := foldl_step more hbefore (List.Subset.refl before)
    (above_length before _)
  rw [run, run, List.foldl_append]
  refine ⟨before, after, hbefore.table, hafter.table, hprefix, hafter.distinct, hafter.apart, ?_⟩
  exact fun client i hreturned =>
    ⟨hafter.kept client i hreturned, fun hfirst => habove.returned client i hfirst hreturned⟩

/-- Two clients that scan before either has put are returned one identifier, if their incidents are
    of different kinds: the table then holds two incidents under it. -/
theorem run_overlapping_same_id :
    let events : List Event := [.begins { kind := "Bug" }, .begins { kind := "Task" },
      .served 0, .served 1, .served 0, .served 1]
    (run events).Returned 0 { kind := "Bug", id := 0 } ∧
      (run events).Returned 1 { kind := "Task", id := 0 } ∧
      (run events).table =
        [.ofIncident { kind := "Bug", id := 0 }, .ofIncident { kind := "Task", id := 0 }] := by
  refine ⟨rfl, rfl, rfl⟩

end Traffic

end IncidentTracker.WideColumn
