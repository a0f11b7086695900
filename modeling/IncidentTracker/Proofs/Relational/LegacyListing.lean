import IncidentTracker.Proofs.Filtering.Accepted
import IncidentTracker.Proofs.Relational.Agreement
import IncidentTracker.Proofs.Relational.Answerable
import IncidentTracker.Proofs.Relational.Reachable
import IncidentTracker.Proofs.Text.Numerals
import Mathlib.Data.List.TakeWhile

/-!
# Legacy Listing

Under the legacy semantics a filter is read as the members that its groups of the first level carry
themselves, all of which must hold. A search is membership in a list of one, so it is equality like
a comparison for equality; and the equality is that of a collation which folds ASCII letters. The
collation compares sizes and stops at null characters, and a column of integers is not compared by
its text at all. Where there are no null characters, and integers are compared with decimal texts,
none of that shows.

Main statement: `Store.list_legacy`.
-/

namespace IncidentTracker

open Filtering (Comparison Criterion Request)

/-! ## §1 What is meant -/

/-- What a comparison comes to where a search is for the whole of a text. -/
def Filtering.Comparison.testFolded (c : Comparison) (actual value : String) : Bool :=
  match c with
  | .equals => Text.sameIgnoringAsciiCase actual value
  | .contains => Text.sameIgnoringAsciiCase actual value
  | .notEquals => !Text.sameIgnoringAsciiCase actual value

/-- Whether an incident passes all the members that the groups of the first level carry. -/
def Filtering.Forest.acceptsFolded (r : Request) (i : Incident) : Bool :=
  r.ownMembers.all fun c => c.comparison.testFolded (propertyValue i c.property) c.value

/-- All texts of an incident to be stored. -/
def NewIncident.texts (new : NewIncident) : List String :=
  [new.kind, new.description, new.reporter, new.state] ++
    new.attributes.entries.flatMap fun entry => [entry.1, entry.2]

/-- Whether there is no null character in a text. -/
def Text.isNullFree (s : String) : Bool :=
  !s.toList.contains '\x00'

namespace Relational

/-! ## §2 Texts -/

theorem notMem_of_isNullFree {s : String} (h : Text.isNullFree s = true) : '\x00' ∉ s.toList := by
  simpa [Text.isNullFree] using h

/-- On texts without null characters the collation folds ASCII letters and does nothing else. -/
theorem collatedSame_eq {a b : String} (ha : Text.isNullFree a = true)
    (hb : Text.isNullFree b = true) :
    collatedSame a.toList b.toList = Text.sameIgnoringAsciiCase a b := by
  rw [collatedSame, upToNull_eq_self (notMem_of_isNullFree ha),
    upToNull_eq_self (notMem_of_isNullFree hb), Text.sameIgnoringAsciiCase]
  by_cases hfold : Text.asciiFold a.toList = Text.asciiFold b.toList
  · -- folding keeps the size of a text, so equal folds are of one size
    have hsize : Text.byteSize a.toList = Text.byteSize b.toList := by
      rw [← Text.byteSize_asciiFold a.toList, hfold, Text.byteSize_asciiFold]
    simp [hfold, hsize]
  · simp [hfold]

/-! ## §3 Integers -/

theorem isSpace_of_isDigit {c : Char} (h : c.isDigit = true) : Numeric.isSpace c = false := by
  obtain ⟨hlow, -⟩ := Char.isDigit_iff_toNat.mp h
  have hzero : '0'.toNat = 48 := rfl
  have hblank : c ≠ ' ' := by
    rintro rfl
    exact absurd hlow (by decide)
  simp only [Numeric.isSpace, hblank, decide_false, Bool.false_or, Bool.and_eq_false_iff,
    decide_eq_false_iff_not]
  omega

/-- What has no blanks has none at its ends. -/
theorem trim_eq_self {text : List Char} (h : ∀ c ∈ text, Numeric.isSpace c = false) :
    Numeric.trim text = text := by
  -- nothing is taken from the front, nor from the front of the reverse
  have hkeeps : ∀ cs : List Char, (∀ c ∈ cs, Numeric.isSpace c = false) →
      cs.dropWhile Numeric.isSpace = cs := by
    intro cs hcs
    cases cs with
    | nil => rfl
    | cons c cs => rw [List.dropWhile_cons, hcs c List.mem_cons_self]; rfl
  rw [Numeric.trim, hkeeps _ h, hkeeps _ fun c hc => h c (List.mem_reverse.mp hc),
    List.reverse_reverse]

/-- Of a text, splitting off the sign leaves all but the sign. -/
theorem mem_of_splitSign {text digits : List Char} {negative : Bool}
    (h : Text.Decimal.splitSign text = (negative, digits)) {c : Char} (hc : c ∈ text) :
    c = '-' ∨ c = '+' ∨ c ∈ digits := by
  unfold Text.Decimal.splitSign at h
  -- a text begins with one of the two signs, or with none
  split at h
  · cases h
    rcases List.mem_cons.mp hc with rfl | hc
    · exact .inl rfl
    · exact .inr (.inr hc)
  · cases h
    rcases List.mem_cons.mp hc with rfl | hc
    · exact .inr (.inl rfl)
    · exact .inr (.inr hc)
  · cases h
    exact .inr (.inr hc)

/-- What is read as a word denotes just that integer. -/
theorem ofText?_of_toWord? {text : List Char} {n : Int} (h : Text.Decimal.toWord? text = some n) :
    Numeric.ofText? text = some (.exact n) := by
  rcases hsplit : Text.Decimal.splitSign text with ⟨negative, digits⟩
  simp only [Text.Decimal.toWord?, hsplit, Option.ite_none_right_eq_some, Bool.and_eq_true,
    Text.Decimal.isNumber, Option.some.injEq, Bool.not_eq_true', List.all_eq_true] at h
  obtain ⟨⟨⟨hsome, hdigits⟩, hword⟩, rfl⟩ := h
  -- all that stands behind the sign are digits: no fraction, no exponent, nothing behind
  have hwhole : digits.takeWhile Char.isDigit = digits := List.takeWhile_eq_self_iff.mpr hdigits
  have hrest : digits.dropWhile Char.isDigit = [] := List.dropWhile_eq_nil_iff.mpr hdigits
  have htrim : Numeric.trim text = text := by
    apply trim_eq_self
    intro c hc
    rcases mem_of_splitSign hsplit hc with rfl | rfl | hc
    · decide
    · decide
    · exact isSpace_of_isDigit (hdigits c hc)
  simp only [Numeric.ofText?, htrim, hsplit, hwhole, hrest, hsome, Bool.false_and,
    Bool.false_eq_true, if_false, Numeric.exponent?, hword]
  rfl

/-- A decimal text of an integer in range denotes just that integer. -/
theorem ofText?_ofInt {n : Int} (h : Text.Decimal.isWord n = true) :
    Numeric.ofText? (Text.Decimal.ofInt n) = some (.exact n) :=
  ofText?_of_toWord? (by rw [Text.Decimal.toWord?_ofInt, if_pos h])

/-! ## §4 Rows -/

/-- A row whose incident has no null characters in its texts, under distinct names of attributes. -/
structure Row.IsNullFree (row : Row) : Prop where
  texts : ∀ text ∈ row.toIncident.payload.texts, Text.isNullFree text = true
  distinct : row.toIncident.attributes.AreDistinct
  entries : row.toIncident.attributes.entries = row.attributes

theorem isNullFree_propertyValue {row : Row} (h : row.IsNullFree) (name : String) :
    Text.isNullFree (propertyValue row.toIncident name) = true := by
  rw [propertyValue_eq]
  cases Column.ofProperty? name with
  | some c =>
    cases c with
    | id =>
      -- not a text that is stored, but digits and perhaps a sign
      have hplain := Text.isPlain_iff.mp (Text.isPlain_ofInt row.toIncident.id)
      show Text.isNullFree (idText _) = true
      rw [Text.isNullFree, idText, String.toList_ofList, Bool.not_eq_true', ← Bool.not_eq_true,
        List.contains_iff_mem]
      exact fun hnull => (hplain _ hnull).2 rfl
    | kind => exact h.texts _ (by simp [NewIncident.texts, Incident.payload, Column.text])
    | description => exact h.texts _ (by simp [NewIncident.texts, Incident.payload, Column.text])
    | reporter => exact h.texts _ (by simp [NewIncident.texts, Incident.payload, Column.text])
    | state => exact h.texts _ (by simp [NewIncident.texts, Incident.payload, Column.text])
  | none =>
    show Text.isNullFree ((row.toIncident.attribute? name).getD "") = true
    rw [Incident.attribute?_eq_getIgnoringCase? h.distinct, Dictionary.getIgnoringCase?]
    cases hfound : row.toIncident.attributes.entries.find? fun entry =>
        Text.sameIgnoringAsciiCase entry.1 name with
    | none => rfl
    | some entry =>
      refine h.texts entry.2 (List.mem_append_right _ (List.mem_flatMap.mpr ⟨entry, ?_, ?_⟩))
      · exact List.mem_of_find?_eq_some hfound
      · simp

/-- Only the property of identifiers is read as an integer. -/
theorem ofProperty?_of_cell {row : Row} {name : String} {n : Int}
    (h : (Subject.ofProperty name).cell row = .integer n) : Column.ofProperty? name = some .id := by
  unfold Subject.ofProperty at h
  split at h
  · next c hc =>
    -- the identifier is the one column that holds a number
    cases c with
    | id => exact hc
    | kind | description | reporter | state => cases h
  · cases h

/-- What the collation makes of a property and a value is equality up to the case of ASCII letters,
    provided that an identifier is compared with a decimal text. -/
theorem collatedEqual_ofProperty {row : Row} (hrow : row.IsNullFree) {name value : String}
    (hvalue : Text.isNullFree value = true)
    (hid : Column.ofProperty? name = some .id →
      ∃ n, Text.Decimal.isWord n = true ∧ value = idText n) :
    collatedEqual ((Subject.ofProperty name).cell row) value.toList =
      Text.sameIgnoringAsciiCase (propertyValue row.toIncident name) value := by
  have hread := chars_ofProperty hrow.distinct hrow.entries name
  cases hcell : (Subject.ofProperty name).cell row with
  | text cs =>
    rw [hcell] at hread
    rw [collatedEqual, show cs = _ from hread]
    exact collatedSame_eq (isNullFree_propertyValue hrow name) hvalue
  | integer n =>
    obtain ⟨m, hword, rfl⟩ := hid (ofProperty?_of_cell hcell)
    -- both sides compare the integers, the one as numbers and the other by their decimal texts
    rw [hcell] at hread
    have hfolds : Text.sameIgnoringAsciiCase (propertyValue row.toIncident name) (idText m) =
        decide (n = m) := by
      rw [Text.sameIgnoringAsciiCase, ← show Text.Decimal.ofInt n = _ from hread, idText,
        String.toList_ofList, Text.Decimal.asciiFold_ofInt, Text.Decimal.asciiFold_ofInt]
      simp [Text.Decimal.ofInt_inj, beq_eq_decide]
    rw [hfolds, idText, String.toList_ofList, collatedEqual, ofText?_ofInt hword]
    show (m == n) = decide (n = m)
    rw [Bool.beq_comm]
    rfl

/-- A criterion that can be compared without surprises: its value has no null characters, and is a
    decimal text if identifiers are compared with it. -/
structure IsComparable (c : Criterion) : Prop where
  value : Text.isNullFree c.value = true
  id : Column.ofProperty? c.property = some .id →
    ∃ n, Text.Decimal.isWord n = true ∧ c.value = idText n

theorem Test.holds_ofCriterion_legacy {row : Row} (hrow : row.IsNullFree) {c : Criterion}
    (hc : IsComparable c) :
    (Test.ofCriterion .legacy c).holds row =
      .ok (c.comparison.testFolded (propertyValue row.toIncident c.property) c.value) := by
  have hequal := collatedEqual_ofProperty hrow hc.value hc.id
  obtain ⟨property, comparison, value⟩ := c
  cases comparison with
  | equals => exact congrArg Except.ok hequal
  | notEquals => exact congrArg (fun b => Except.ok !b) hequal
  | contains => exact congrArg Except.ok hequal

/-! ## §5 Stores -/

namespace Database

theorem isNullFree_of_mem_rows {db : Database} (h : db.WellFormed)
    (hstored : ∀ i ∈ db.stored, (∀ text ∈ i.payload.texts, Text.isNullFree text = true) ∧
      i.attributes.AreDistinct) {row : Row} (hrow : row ∈ db.rows) : row.IsNullFree :=
  have ⟨htexts, hdistinct⟩ := hstored row.toIncident (List.mem_map_of_mem hrow)
  ⟨htexts, hdistinct, entries_toIncident h hrow⟩

end Database

/-- On a row without null characters the clause of a filter asks for all that the groups of the
    first level carry. -/
theorem Clause.holds_ofRequest_legacy {row : Row} (hrow : row.IsNullFree) {r : Request}
    (hr : ∀ c ∈ r.ownMembers, IsComparable c) :
    (ofRequest .legacy r).holds row = .ok (r.acceptsFolded row.toIncident) := by
  rw [holds_legacy_eq_all fun c hc => Test.holds_ofCriterion_legacy hrow (hr c hc)]
  rfl

namespace Store

/-- A list with a filter that was accepted consists of the incidents that pass all members of the
    groups on the first level, each once and in ascending order of the identifiers. Junctions and
    the groups below play no part. -/
theorem list_legacy {s : Store} (hs : s.Reachable) (hopen : s.isOpen = true)
    (hsemantics : s.semantics = .legacy)
    (hstored : ∀ i ∈ s.database.stored, (∀ text ∈ i.payload.texts, Text.isNullFree text = true) ∧
      i.attributes.AreDistinct) {text : String} {r : Request}
    (h : (Filtering.parseParam (some text)).result = .ok (some r))
    (hr : ∀ c ∈ r.ownMembers, IsComparable c) :
    let listed := s.database.stored.filter r.acceptsFolded
    (s.list (some r)).1 = .ok listed ∧ (listed.Pairwise fun a b => a.id < b.id) ∧
      ∀ other : Request, other.ownMembers = r.ownMembers →
        (s.list (some other)).1 = .ok listed := by
  intro listed
  have hready := hs.ready
  obtain ⟨-, hsize⟩ := Filtering.parseParam_eq_ok h
  -- the query has two arguments for each criterion at most, and no more depth than criteria
  have hlimits : (Clause.ofRequest .legacy r).checkLimits = .ok () := by
    have hargs := Clause.length_args_ofRequest_le .legacy r
    have hheight := Clause.height_ofRequest_le .legacy r
    rw [Filtering.maxCriteria] at hsize
    rw [Clause.heightBound] at hheight
    rw [Clause.checkLimits_eq_ok_iff, maxHeight, maxArguments]
    omega
  have hselect : s.database.select (Clause.ofRequest .legacy r) = .ok listed :=
    Database.select_eq_filter hready.wellFormed hlimits fun row hrow =>
      Clause.holds_ofRequest_legacy
        (Database.isNullFree_of_mem_rows hready.wellFormed hstored hrow) hr
  have hlist : ∀ other : Request, other.ownMembers = r.ownMembers →
      (s.list (some other)).1 = .ok listed := by
    intro other hother
    have hclause : Clause.ofRequest .legacy other = Clause.ofRequest .legacy r := by
      simp only [Clause.ofRequest, hother]
    rw [list_eq_select hready hopen, hsemantics, Clause.ofFilter_some, hclause, hselect]
  exact ⟨hlist r rfl, (Database.stored_pairwise hready.wellFormed).filter _, hlist⟩

theorem list_legacy_shadowed :
    let news : List NewIncident :=
      [⟨"Bug", "Größe", "ann", "Open", .ofList [("Team", "Core")]⟩,
        ⟨"Task", "", "bob", "Open", .empty⟩]
    let r : Request :=
      ⟨.or,
        [.branch .or [.group .and [⟨"type", .equals, "none"⟩]] [⟨"TEAM", .contains, "CORE"⟩],
          .group .or [⟨"description", .equals, "gRößE"⟩, ⟨"Id", .notEquals, "2"⟩]]⟩
    (((fresh .legacy true 0).addEach news).2.list (some r)).1 =
      .ok [⟨"Bug", 1, "Größe", "ann", "Open", .ofList [("Team", "Core")]⟩] := by
  intro news r
  have htext : (Filtering.parseParam (some (Filtering.Forest.toJson r).compact)).result =
      .ok (some r) :=
    Filtering.parseParam_compact (by decide +kernel) (by decide) (by decide)
  -- the members of its own are comparable; what they hide is not asked for
  have hr : ∀ c ∈ r.ownMembers, IsComparable c := by
    have hmembers : r.ownMembers = [⟨"TEAM", .contains, "CORE"⟩,
      ⟨"description", .equals, "gRößE"⟩, ⟨"Id", .notEquals, "2"⟩] := rfl
    intro c hc
    simp only [hmembers, List.mem_cons, List.not_mem_nil, or_false] at hc
    rcases hc with rfl | rfl | rfl
    · exact ⟨by decide, fun hid => absurd hid (by decide)⟩
    · exact ⟨by decide, fun hid => absurd hid (by decide)⟩
    · exact ⟨by decide, fun _ => ⟨2, by decide, by decide⟩⟩
  have hlist := (list_legacy ((Reachable.begun .legacy true 0).addEach news) rfl rfl (by decide)
    htext hr).1
  exact hlist.trans (congrArg Except.ok (by decide))

end Store

end Relational

end IncidentTracker
