import IncidentTracker.Proofs.WideColumn.Encodings
import IncidentTracker.WideColumn.Store

/-!
# Answers in Pages

The service delivers the items of a scan in pages: in any order, split anywhere, with pages that
hold nothing in between. Every page but the last tells a key to continue after. What the store
answers depends on the items alone. A list is complete and in ascending order, or it is an error; a
new incident gets the identifier after the largest on any page; an incident is found on whichever
page it is.

Main statement: `Store.answers_of_served`.
-/

namespace IncidentTracker.WideColumn

/-! ## §1 Pages -/

/-- A scan that continues after a key is served in full by some replies, which deliver some items:
    each page tells a key to continue after, and not the one that it was asked for with, but for the
    last, which tells none or an empty one. -/
inductive Served : Option Key → List Reply → List Item → Prop
  | last (start : Option Key) (items : List Item) (next : Option Key)
      (ends : ∀ key ∈ next, key.entries = []) : Served start [.page items next] items
  | more {start : Option Key} {replies : List Reply} {others : List Item} (items : List Item)
      (key : Key) (told : key.entries ≠ []) (moved : some key ≠ start)
      (rest : Served (some key) replies others) :
      Served start (.page items (some key) :: replies) (items ++ others)

theorem nextKey_last {start next : Option Key} (items : List Item)
    (h : ∀ key ∈ next, key.entries = []) : (Reply.page items next).nextKey start = none := by
  cases next with
  | none => rfl
  | some key => simp [Reply.nextKey, h key rfl]

theorem nextKey_more {start : Option Key} {key : Key} (items : List Item) (htold : key.entries ≠ [])
    (hmoved : some key ≠ start) : (Reply.page items (some key)).nextKey start = some key := by
  simp [Reply.nextKey, htold, hmoved]

/-! ## §2 Calls over pages -/

variable {start : Option Key} {pages : List Reply} {items : List Item}

/-- A listing reads the items of all pages together. -/
theorem run_listing (h : Served start pages items) (selection : Selection) (found : List Item)
    (more : List Reply) :
    (listing.run ⟨selection, found, start⟩ (pages ++ more)).result =
      ((readIncidents (found ++ items)).mapError ItemError.toStoreError).map sortById := by
  -- the induction is on the pages, with what has come so far in `found`
  induction h generalizing found with
  | last start items next ends => simp [Call.run, listing, Reply.items, nextKey_last items ends]
  | more items key told moved rest ih =>
    simp only [List.cons_append, Call.run, listing, Reply.items, nextKey_more items told moved]
    rw [← List.append_assoc]
    exact ih (found ++ items)

/-- A search ends with the first item, whichever page it is on. -/
theorem run_search (h : Served start pages items) (id : Int) (more : List Reply) :
    (search.run ⟨id, start⟩ (pages ++ more)).result =
      match items.head? with
      | none => .ok none
      | some item => (item.toIncident.mapError ItemError.toStoreError).map some := by
  induction h with
  | last start items next ends =>
    cases items with
    | nil => simp [Call.run, search, Reply.items, nextKey_last [] ends]
    | cons item items => simp [Call.run, search, Reply.items]
  | more items key told moved rest ih =>
    cases items with
    | nil =>
      -- a page that holds nothing tells where to go on
      rw [List.cons_append, Call.run]
      simp only [search, Reply.items, nextKey_more [] told moved, List.nil_append]
      exact ih
    | cons item items => simp [Call.run, search, Reply.items]

theorem largestId_append (largest : Option Int) (items others : List Item) :
    largestId largest (items ++ others) =
      largestId largest items >>= fun largest => largestId largest others := by
  induction items generalizing largest with
  | nil => rfl
  | cons item items ih =>
    simp only [List.cons_append, largestId, bind_assoc]
    exact bind_congr fun id => ih _

/-- An addition takes the largest identifier of all pages, and then puts one item. -/
theorem run_addition (h : Served start pages items) (new : NewIncident)
    {before largest : Option Int} (hlargest : largestId before items = .ok largest)
    (more : List Reply) :
    let i := new.withId (nextId largest)
    ∃ scans : List Request, (∀ r ∈ scans, ∃ key, r = .scan .identifiers key) ∧
      addition.run (.numbering new before start) (pages ++ .done :: more) =
        ⟨.ok i, scans ++ [.putNew (.ofIncident i)], more⟩ := by
  intro i
  induction h generalizing before with
  | last start items next ends =>
    refine ⟨[.scan .identifiers start], by simp, ?_⟩
    simp [Call.run, addition, Reply.items, hlargest, nextKey_last items ends, i]
  | @more start _ _ items key told moved rest ih =>
    rw [largestId_append] at hlargest
    cases hpage : largestId before items with
    | error e => simp [hpage, bind, Except.bind] at hlargest
    | ok middle =>
      simp only [hpage, bind, Except.bind] at hlargest
      -- the next pages are scanned with what is the largest so far
      obtain ⟨scans, hscans, hrun⟩ := ih hlargest
      refine ⟨.scan .identifiers start :: scans, by simpa using hscans, ?_⟩
      simp only [List.cons_append, Call.run, addition, Reply.items, hpage,
        nextKey_more items told moved]
      exact congrArg (fun e : Exchange Incident =>
        { e with sent := .scan .identifiers start :: e.sent }) hrun

/-! ## §3 What does not depend on the order -/

/-- Results of which none is an error are in another order only if what they carry is. -/
private theorem exists_map_ok_of_perm {ε α : Type} {results : List (Except ε α)} {carried : List α}
    (h : results.Perm (carried.map .ok)) :
    ∃ others : List α, results = others.map .ok ∧ others.Perm carried := by
  refine ⟨results.filterMap Except.toOption, ?_, ?_⟩
  · have hok : ∀ r ∈ results, ∃ a, r = .ok a := by
      intro r hr
      obtain ⟨a, -, rfl⟩ := List.mem_map.mp (h.mem_iff.mp hr)
      exact ⟨a, rfl⟩
    -- which ones they are does not matter any more
    clear h
    induction results with
    | nil => rfl
    | cons r results ih =>
      obtain ⟨a, rfl⟩ := hok r List.mem_cons_self
      simpa [Except.toOption] using ih fun r hr => hok r (List.mem_cons_of_mem _ hr)
  · have hcarried : (carried.map (Except.ok (ε := ε))).filterMap Except.toOption = carried := by
      simp [List.filterMap_map, Function.comp_def, Except.toOption]
    exact hcarried ▸ h.filterMap Except.toOption

theorem readIncidents_eq_ok {incidents : List Incident}
    (h : items.map Item.toIncident = incidents.map .ok) : readIncidents items = .ok incidents := by
  induction items generalizing incidents with
  | nil => simp_all [readIncidents]
  | cons item items ih =>
    obtain ⟨i, others, rfl, hitem, hitems⟩ := List.map_eq_cons_iff.mp h.symm
    simp [readIncidents, ← hitem, ih hitems.symm, bind, Except.bind, pure, Except.pure]

/-- An item that is no incident keeps any list from being read. -/
theorem exists_readIncidents_eq_error {item : Item} {e : ItemError} (hmem : item ∈ items)
    (h : item.toIncident = .error e) :
    ∃ other ∈ items, ∃ e, other.toIncident = .error e ∧ readIncidents items = .error e := by
  induction items with
  | nil => cases hmem
  | cons first items ih =>
    -- the first item that fails is the one that is reported
    cases hfirst : first.toIncident with
    | error e =>
      exact ⟨first, List.mem_cons_self, e, hfirst,
        by simp [readIncidents, hfirst, bind, Except.bind]⟩
    | ok i =>
      have hmem : item ∈ items := by
        rcases List.mem_cons.mp hmem with rfl | hmem
        · simp [h] at hfirst
        · exact hmem
      obtain ⟨other, hother, e, he, hread⟩ := ih hmem
      refine ⟨other, List.mem_cons_of_mem _ hother, e, he, ?_⟩
      simp [readIncidents, hfirst, hread, bind, Except.bind]

theorem largestId_eq_max? {ids : List Int} (h : items.map Item.id = ids.map .ok) :
    largestId none items = .ok ids.max? := by
  -- with a largest identifier so far, it is a fold
  have hfold : ∀ (items : List Item) (ids : List Int) (n : Int), items.map Item.id = ids.map .ok →
      largestId (some n) items = .ok (some (ids.foldl max n)) := by
    intro items
    induction items with
    | nil => simp_all [largestId]
    | cons item items ih =>
      intro ids n h
      obtain ⟨id, others, rfl, hid, hids⟩ := List.map_eq_cons_iff.mp h.symm
      simp [largestId, ← hid, larger, bind, Except.bind, ih others _ hids.symm]
  cases items with
  | nil => simp_all [largestId]
  | cons item items =>
    obtain ⟨id, others, rfl, hid, hids⟩ := List.map_eq_cons_iff.mp h.symm
    rw [List.max?_cons', largestId, ← hid]
    exact hfold items others id hids.symm

private theorem max?_eq_of_perm {ids others : List Int} (h : ids.Perm others) :
    ids.max? = others.max? := by
  ext n
  simp [List.max?_eq_some_iff, h.mem_iff]

/-- An incident has the identifier of its item. -/
theorem id_eq_of_toIncident {item : Item} {i : Incident} (h : item.toIncident = .ok i) :
    item.id = .ok i.id := by
  obtain ⟨-, hid, -⟩ := Item.toIncident_eq_ok_iff.mp h
  exact hid

/-! ## §4 Answers -/

namespace Store

variable {s : Store} {delivered : List Item} {more : List Reply}

/-- A list reads all that was delivered, in ascending order, unless nothing can pass the filter. -/
theorem list_of_served (h : Served none pages delivered) (hreplies : s.replies = pages ++ more)
    {filter : Option Filtering.Request} (hfilter : Scan.ofFilter s.semantics filter ≠ .nothing) :
    (s.list filter).1 =
      ((readIncidents delivered).mapError ItemError.toStoreError).map sortById := by
  unfold list
  -- every item or those that pass: the service delivers the same pages either way
  split
  · simpa [carry, hreplies] using run_listing h .everything [] more
  · next expression _ => simpa [carry, hreplies] using run_listing h (.passing expression) [] more
  · next hnothing => exact absurd hnothing hfilter

theorem add_of_served (h : Served none pages delivered)
    (hreplies : s.replies = pages ++ .done :: more) {new : NewIncident} (hkind : new.kind ≠ "")
    {ids : List Int} (hids : delivered.map Item.id = ids.map .ok) :
    let i := new.withId (nextId ids.max?)
    ∃ scans : List Request, (∀ r ∈ scans, ∃ key, r = .scan .identifiers key) ∧
      s.add new = (.ok i, ⟨s.semantics, more, s.sent ++ (scans ++ [.putNew (.ofIncident i)])⟩) := by
  intro i
  -- the scans find the largest identifier, and the reply to the put is the next one
  obtain ⟨scans, hscans, hrun⟩ := run_addition h new (largestId_eq_max? hids) more
  have hcheck : checkKind new = .ok () := by
    have hempty : new.kind.isEmpty = false := by simpa using hkind
    rw [checkKind, hempty]
    rfl
  exact ⟨scans, hscans, by rw [add, hcheck, carry, hreplies, hrun]⟩

theorem get_of_served (h : Served none pages delivered) (hreplies : s.replies = pages ++ more)
    (id : Int) :
    (s.get id).1 =
      match delivered.head? with
      | none => .ok none
      | some item => (item.toIncident.mapError ItemError.toStoreError).map some := by
  rw [get, carry, hreplies]
  exact run_search h id more

end Store

/-! ## §5 The same items, however they are delivered -/

/-- No identifier is that of two items. -/
def Distinct (items : List Item) : Prop :=
  items.Pairwise fun a b => ∀ id, a.id = .ok id → b.id ≠ .ok id

/-- Whether an item has an identifier, and it is this one. -/
def Item.hasId (id : Int) (item : Item) : Bool :=
  match item.id with
  | .ok other => other == id
  | .error _ => false

theorem hasId_iff {item : Item} {id : Int} : item.hasId id = true ↔ item.id = .ok id := by
  unfold Item.hasId
  split
  · next other heq => simp [heq]
  · next e heq => simp [heq]

theorem isWord_of_id {item : Item} {n : Int} (h : item.id = .ok n) :
    Text.Decimal.isWord n = true := by
  unfold Item.id at h
  split at h
  · split at h
    · next m heq =>
      cases h
      exact Text.Decimal.isWord_of_toWord? heq
    · cases h
  · cases h
  · cases h

/-- Incidents of items with distinct identifiers have distinct identifiers. -/
theorem Distinct.incidents (hdistinct : Distinct items) {incidents : List Incident}
    (h : items.map Item.toIncident = incidents.map .ok) :
    incidents.Pairwise fun a b => a.id ≠ b.id := by
  -- distinct items have distinct identifiers, which the incidents take over
  have hresults : (incidents.map (Except.ok (ε := ItemError))).Pairwise fun a b =>
      ∀ i j : Incident, a = .ok i → b = .ok j → i.id ≠ j.id := by
    rw [← h, List.pairwise_map]
    refine hdistinct.imp fun {a b} hab i j hi hj heq => ?_
    exact hab i.id (id_eq_of_toIncident hi) (heq ▸ id_eq_of_toIncident hj)
  rw [List.pairwise_map] at hresults
  exact hresults.imp fun hab => hab _ _ rfl rfl

/-- Sorted, incidents with distinct identifiers are in strictly ascending order. -/
theorem sortById_strictlyAscending {incidents : List Incident}
    (h : incidents.Pairwise fun a b => a.id ≠ b.id) :
    (sortById incidents).Pairwise fun a b => a.id < b.id := by
  have hne : (sortById incidents).Pairwise fun a b => a.id ≠ b.id :=
    ((sortById_perm incidents).pairwise_iff fun hab => Ne.symm hab).mpr h
  exact (hne.and (sortById_ascending incidents)).imp fun hab => by omega

theorem sortById_sortById (incidents : List Incident) :
    sortById (sortById incidents) = sortById incidents :=
  sortById_of_ascending (sortById_ascending incidents)

/-- Of items with distinct identifiers, one at most has a given identifier. -/
theorem Distinct.filter_hasId (hdistinct : Distinct items) {item : Item} {id : Int}
    (hmem : item ∈ items) (hid : item.id = .ok id) : items.filter (Item.hasId id) = [item] := by
  induction items with
  | nil => cases hmem
  | cons first items ih =>
    obtain ⟨hfirst, hrest⟩ := List.pairwise_cons.mp hdistinct
    -- the identifier belongs to the first item or to one behind it, never to both
    rcases List.mem_cons.mp hmem with rfl | hmem
    · have hnone : items.filter (Item.hasId id) = [] :=
        List.filter_eq_nil_iff.mpr fun other hother =>
          mt hasId_iff.mp (hfirst other hother id hid)
      rw [List.filter_cons_of_pos (hasId_iff.mpr hid), hnone]
    · have hne : first.id ≠ .ok id := fun heq => hfirst item hmem id heq hid
      rw [List.filter_cons_of_neg (mt hasId_iff.mp hne)]
      exact ih hrest hmem

/-- What follows the largest identifier is still one. -/
theorem isWord_next {ids : List Int} (hids : items.map Item.id = ids.map .ok)
    (hbound : ∀ id ∈ ids, id < 9223372036854775807) :
    Text.Decimal.isWord (ids.max?.elim 0 (· + 1)) = true := by
  cases hmax : ids.max? with
  | none => decide
  | some largest =>
    -- the largest identifier is that of an item, so it is a word and below the bound
    have hmem : largest ∈ ids := (List.max?_eq_some_iff.mp hmax).1
    obtain ⟨item, -, hid⟩ : ∃ item ∈ items, item.id = .ok largest :=
      List.mem_map.mp (hids ▸ List.mem_map_of_mem hmem)
    have hword := isWord_of_id hid
    have hlt := hbound largest hmem
    rw [Option.elim_some]
    simp only [Text.Decimal.isWord, Bool.and_eq_true, decide_eq_true_eq] at hword ⊢
    omega

/-- An incident that was written as an item is read back. -/
theorem toIncident_ofIncident {i : Incident} (h : Text.Decimal.isWord i.id = true) :
    (Item.ofIncident i).toIncident = .ok i :=
  Item.toIncident_of_respells h (Item.respells_ofIncident i)

namespace Store

/-- What the store answers, when its scan is served in pages, depends on the items that they
    deliver and not on the pages. All items are listed once, in ascending order, or the list is an
    error. What is added is put under the identifier after the largest one, and returned as it
    was put. An incident is found if its item is delivered. -/
theorem answers_of_served (more : List Reply) {items delivered : List Item} {pages : List Reply}
    {s : Store} (hdistinct : Distinct items) (hserved : Served none pages delivered) :
    (∀ filter, Scan.ofFilter s.semantics filter ≠ .nothing → s.replies = pages ++ more →
      delivered.Perm items →
      (repository.service.list filter s).1 = (s.list filter).1 ∧
      (∀ incidents, items.map Item.toIncident = incidents.map .ok →
        ∃ answer, (s.list filter).1 = .ok answer ∧ answer.Perm incidents ∧
          answer.Pairwise fun a b => a.id < b.id) ∧
      ∀ item ∈ items, ∀ e, item.toIncident = .error e →
        ∃ other ∈ items, ∃ e, other.toIncident = .error e ∧
          (s.list filter).1 = .error e.toStoreError) ∧
    (∀ (new : NewIncident) (ids : List Int), new.kind ≠ "" → s.replies = pages ++ .done :: more →
      items.map Item.id = ids.map .ok → (∀ id ∈ ids, id < 9223372036854775807) →
      (delivered.map Item.id).Perm (items.map Item.id) →
      let i := new.withId (ids.max?.elim 0 (· + 1))
      (Item.ofIncident i).toIncident = .ok i ∧
      ∃ scans : List Request, (∀ r ∈ scans, ∃ key, r = .scan .identifiers key) ∧
        s.add new = (.ok i, ⟨s.semantics, more, s.sent ++ (scans ++ [.putNew (.ofIncident i)])⟩)) ∧
    ∀ id, s.replies = pages ++ more →
      delivered.Perm (items.filter (Item.hasId id)) →
      (∀ item ∈ items, item.id = .ok id →
        (s.get id).1 = (item.toIncident.mapError ItemError.toStoreError).map some) ∧
      ((∀ item ∈ items, item.id ≠ .ok id) → (s.get id).1 = .ok none) := by
  refine ⟨fun filter hfilter hreplies hperm => ?_,
    fun new ids hkind hreplies hids hbound hperm => ?_, fun id hreplies hperm => ?_⟩
  · have hlist := list_of_served hserved hreplies hfilter
    refine ⟨?_, fun incidents hincidents => ?_, fun item hmem e he => ?_⟩
    · -- the service sorts once more
      have hservice : (repository.service.list filter s).1 = (s.list filter).1.map sortById := rfl
      rw [hservice, hlist]
      cases readIncidents delivered with
      | error e => rfl
      | ok found => exact congrArg Except.ok (sortById_sortById found)
    · obtain ⟨found, hfound, hfoundPerm⟩ :=
        exists_map_ok_of_perm (hincidents ▸ hperm.map Item.toIncident)
      rw [readIncidents_eq_ok hfound] at hlist
      have hdifferent : found.Pairwise fun a b => a.id ≠ b.id :=
        (hfoundPerm.pairwise_iff fun hab => Ne.symm hab).mpr (hdistinct.incidents hincidents)
      exact ⟨sortById found, hlist, (sortById_perm found).trans hfoundPerm,
        sortById_strictlyAscending hdifferent⟩
    · obtain ⟨other, hother, e, he, hread⟩ :=
        exists_readIncidents_eq_error (hperm.mem_iff.mpr hmem) he
      rw [hread] at hlist
      exact ⟨other, hperm.mem_iff.mp hother, e, he, hlist⟩
  · intro i
    -- the same identifiers have the same maximum, in whatever order they are seen
    obtain ⟨seen, hseen, hseenPerm⟩ := exists_map_ok_of_perm (hids ▸ hperm)
    have hnext : nextId seen.max? = ids.max?.elim 0 (· + 1) := by
      rw [max?_eq_of_perm hseenPerm]
      cases ids.max? <;> rfl
    have hadd := add_of_served hserved hreplies hkind hseen
    rw [hnext] at hadd
    exact ⟨toIncident_ofIncident (isWord_next hids hbound), hadd⟩
  · -- the items that pass the filter of the scan are one or none
    have hget := get_of_served hserved hreplies id
    refine ⟨fun item hmem hid => ?_, fun hnone => ?_⟩
    · rw [hdistinct.filter_hasId hmem hid, List.perm_singleton] at hperm
      simpa [hperm] using hget
    · have hempty : items.filter (Item.hasId id) = [] :=
        List.filter_eq_nil_iff.mpr fun item hmem => mt hasId_iff.mp (hnone item hmem)
      rw [hempty, List.perm_nil] at hperm
      simpa [hperm] using hget

/-- The larger of two incidents comes first, among pages that hold nothing. -/
theorem answers_of_served_reversed :
    let low : Incident := { kind := "Bug", id := 3 }
    let high : Incident := { kind := "Task", id := 5 }
    let new : NewIncident := { kind := "Bug" }
    let key (digits : String) : Key := .ofList [("id", .number digits)]
    let ends : List Reply := [.page [] (some (key "7")), .page [.ofIncident low] none]
    let pages : List Reply :=
      .page [] (some (key "0")) :: .page [.ofIncident high] (some (key "5")) :: ends
    (∃ answer, (list ⟨.consistent, pages, []⟩ none).1 = .ok answer ∧ answer.Perm [low, high] ∧
      answer.Pairwise fun a b => a.id < b.id) ∧
    (add ⟨.consistent, pages ++ [.done], []⟩ new).1 = .ok (new.withId 6) ∧
    (get ⟨.consistent, ends, []⟩ 3).1 = .ok (some low) := by
  intro low high new key ends pages
  have hlow : (Item.ofIncident low).id = .ok 3 := id_ofIncident low
  have hhigh : (Item.ofIncident high).id = .ok 5 := id_ofIncident high
  have hread : (Item.ofIncident low).toIncident = .ok low := toIncident_ofIncident rfl
  have hdistinct : Distinct [.ofIncident low, .ofIncident high] := by
    simp [Distinct, hlow, hhigh]
  have hkey (digits : String) : (key digits).entries ≠ [] := nofun
  -- an empty page may come first, and one that ends the scan
  have hends (start : Option Key) (hstart : some (key "7") ≠ start) :
      Served start ends [.ofIncident low] :=
    .more [] (key "7") (hkey "7") hstart (.last _ _ none nofun)
  have hpages : Served none pages [.ofIncident high, .ofIncident low] :=
    .more [] (key "0") (hkey "0") nofun
      (.more [.ofIncident high] (key "5") (hkey "5") (by decide) (hends _ (by decide)))
  obtain ⟨hlists, -, -⟩ := answers_of_served [] (s := ⟨.consistent, pages, []⟩)
    hdistinct hpages
  obtain ⟨-, hadds, -⟩ := answers_of_served [] (s := ⟨.consistent, pages ++ [.done], []⟩)
    hdistinct hpages
  obtain ⟨-, -, hgets⟩ := answers_of_served [] (s := ⟨.consistent, ends, []⟩)
    hdistinct (hends none nofun)
  refine ⟨?_, ?_, ?_⟩
  · refine (hlists none nofun (List.append_nil pages).symm (.swap _ _ [])).2.1 [low, high] ?_
    simp [hread, toIncident_ofIncident (i := high) rfl]
  · obtain ⟨-, scans, -, hadd⟩ := hadds new [3, 5] (by decide) rfl (by simp [hlow, hhigh])
      (by decide) (.swap _ _ [])
    rw [hadd]
    rfl
  · have hfilter : [Item.ofIncident low, .ofIncident high].filter (Item.hasId 3) =
        [.ofIncident low] := by
      simp [Item.hasId, hlow, hhigh]
    have hget := (hgets 3 rfl (.of_eq hfilter.symm)).1 (.ofIncident low) List.mem_cons_self hlow
    rwa [hread] at hget

end Store

end IncidentTracker.WideColumn
