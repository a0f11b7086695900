import IncidentTracker.Entity.Property
import IncidentTracker.Proofs.Relational.Stored
import IncidentTracker.Proofs.Text.LiteralSearch
import IncidentTracker.Proofs.Text.Numerals
import Mathlib.Data.List.TakeWhile

/-!
# Agreement on Plain Texts

The tests that the database makes for a criterion and the comparison that an evaluation makes of
an incident come to the same wherever all texts are plain: ASCII characters without the null
character. What a test reads of a row is what the property stands for in the incident of that row,
provided that no two of its attributes have names that differ only in case.

Main statement: `Test.holds_ofCriterion`.
-/

namespace IncidentTracker

open Filtering (Comparison Criterion)

/-! ## §1 Plain texts -/

namespace Text

/-- Whether every character of a text is ASCII and none is the null character. -/
def isPlain (cs : List Char) : Bool :=
  cs.all fun c => c.toNat < 128 && c != '\x00'

theorem isPlain_iff {cs : List Char} :
    isPlain cs = true ↔ ∀ c ∈ cs, c.toNat < 128 ∧ c ≠ '\x00' := by
  simp [isPlain]

theorem isAscii_of_isPlain {cs : List Char} (h : isPlain cs = true) : isAscii cs = true := by
  refine List.all_eq_true.mpr fun c hc => ?_
  exact decide_eq_true (isPlain_iff.mp h c hc).1

/-- Folding keeps a text plain. -/
theorem isPlain_asciiFold {cs : List Char} (h : isPlain cs = true) :
    isPlain (asciiFold cs) = true := by
  refine isPlain_iff.mpr fun d hd => ?_
  obtain ⟨c, hc, rfl⟩ := List.mem_map.mp hd
  obtain ⟨hascii, hnull⟩ := isPlain_iff.mp h c hc
  refine ⟨?_, mt (toLower_eq_iff (by decide)).mp hnull⟩
  rw [toNat_toLower]
  split <;> omega

/-- The pattern that searches for a plain text is plain. -/
theorem isPlain_containing {cs : List Char} (h : isPlain cs = true) :
    isPlain (Like.containing cs) = true := by
  have hspecial : ∀ c ∈ Like.specials, c.toNat < 128 ∧ c ≠ '\x00' := by simp [Like.specials]
  exact isPlain_iff.mpr fun c hc =>
    (Like.mem_of_mem_containing hc).elim (hspecial c) (isPlain_iff.mp h c)

/-- The decimal text of an integer is plain. -/
theorem isPlain_ofInt (n : Int) : isPlain (Decimal.ofInt n) = true :=
  isPlain_iff.mpr fun _ hc => Decimal.isPlain_of_mem_ofInt hc

end Text

/-- A criterion with a plain property and a plain value. -/
structure Filtering.Criterion.IsPlain (c : Criterion) : Prop where
  property : Text.isPlain c.property.toList = true
  value : Text.isPlain c.value.toList = true

instance (c : Criterion) : Decidable c.IsPlain :=
  decidable_of_iff (Text.isPlain c.property.toList = true ∧ Text.isPlain c.value.toList = true)
    ⟨fun h => ⟨h.1, h.2⟩, fun h => ⟨h.1, h.2⟩⟩

/-- An incident to be stored whose texts are all plain. -/
structure NewIncident.IsPlain (new : NewIncident) : Prop where
  kind : Text.isPlain new.kind.toList = true
  description : Text.isPlain new.description.toList = true
  reporter : Text.isPlain new.reporter.toList = true
  state : Text.isPlain new.state.toList = true
  attributes : ∀ entry ∈ new.attributes.entries,
    Text.isPlain entry.1.toList = true ∧ Text.isPlain entry.2.toList = true

instance (new : NewIncident) : Decidable new.IsPlain :=
  decidable_of_iff
    (Text.isPlain new.kind.toList = true ∧ Text.isPlain new.description.toList = true ∧
      Text.isPlain new.reporter.toList = true ∧ Text.isPlain new.state.toList = true ∧
      ∀ entry ∈ new.attributes.entries,
        Text.isPlain entry.1.toList = true ∧ Text.isPlain entry.2.toList = true)
    ⟨fun h => ⟨h.1, h.2.1, h.2.2.1, h.2.2.2.1, h.2.2.2.2⟩,
      fun h => ⟨h.1, h.2, h.3, h.4, h.5⟩⟩

/-- No two attributes have names that are equal up to the case of ASCII letters. -/
def Attributes.AreDistinct (attributes : Attributes) : Prop :=
  attributes.entries.Pairwise fun a b => Text.sameIgnoringAsciiCase a.1 b.1 = false

instance (attributes : Attributes) : Decidable attributes.AreDistinct :=
  inferInstanceAs (Decidable (attributes.entries.Pairwise _))

/-! ## §2 Attributes and members -/

/-- Where names are distinct, an attribute under exactly the given name is the first that is found
    when case is ignored. -/
theorem Attributes.getIgnoringCase?_of_get? {attributes : Attributes} (h : attributes.AreDistinct)
    {name value : String} (hget : attributes.get? name = some value) :
    attributes.getIgnoringCase? name = some value := by
  obtain ⟨entries, hascending⟩ := attributes
  simp only [Dictionary.get?, Dictionary.getIgnoringCase?, AreDistinct] at h hget ⊢
  clear hascending
  induction entries with
  | nil => cases hget
  | cons entry entries ih =>
    obtain ⟨hentry, hentries⟩ := List.pairwise_cons.mp h
    by_cases heq : entry.1 = name
    · subst heq
      simpa using hget
    · rw [List.find?_cons_of_neg (by simpa using heq)] at hget
      -- the entry found further on has the given name, so this one does not even nearly have it
      obtain ⟨found, hfound, -⟩ := Option.map_eq_some_iff.mp hget
      have hname : found.1 = name := by simpa using List.find?_some hfound
      have hdiffers := hentry found (List.mem_of_find?_eq_some hfound)
      rw [hname] at hdiffers
      rw [List.find?_cons_of_neg (by simp [hdiffers])]
      exact ih hentries hget

theorem Incident.attribute?_eq_getIgnoringCase? {i : Incident} (h : i.attributes.AreDistinct)
    (name : String) : i.attribute? name = i.attributes.getIgnoringCase? name := by
  unfold attribute?
  cases hget : i.attributes.get? name with
  | none => rfl
  | some value => exact (Attributes.getIgnoringCase?_of_get? h hget).symm

namespace Relational

/-- The text of an incident that a column stands for. -/
def Column.text (i : Incident) : Column → String
  | .id => idText i.id
  | .kind => i.kind
  | .description => i.description
  | .reporter => i.reporter
  | .state => i.state

/-- The well-known members of an incident are the columns of its table, under the same names. -/
theorem members_eq_map :
    (HasProperties.members : List (String × (Incident → String))) =
      Column.all.map fun entry => (entry.1, fun i => entry.2.text i) :=
  rfl

/-- A property stands for a column or else for an attribute. -/
theorem propertyValue_eq (i : Incident) (name : String) :
    propertyValue i name =
      match Column.ofProperty? name with
      | some c => c.text i
      | none => (i.attribute? name).getD "" := by
  -- the members of an incident are its columns, under the same names
  have hmember : findMember (ε := Incident) name =
      (Column.all.find? fun entry => Text.sameIgnoringAsciiCase entry.1 name).map
        fun entry => (entry.1, fun i => entry.2.text i) := by
    rw [findMember, members_eq_map, List.find?_map]
    rfl
  rw [propertyValue, hmember, Column.ofProperty?]
  cases Column.all.find? fun entry => Text.sameIgnoringAsciiCase entry.1 name with
  | none => rfl
  | some entry => rfl

/-! ## §3 What tests read -/

/-- A row whose incident has only plain texts, under distinct names of attributes. -/
structure Row.IsPlain (row : Row) : Prop where
  payload : row.toIncident.payload.IsPlain
  distinct : row.toIncident.attributes.AreDistinct
  entries : row.toIncident.attributes.entries = row.attributes

/-- The text of a cell is that of its column. -/
theorem chars_cell (c : Column) (row : Row) :
    (c.cell row.incident).chars = (c.text row.toIncident).toList := by
  cases c with
  | id => exact String.toList_ofList.symm
  | kind | description | reporter | state => rfl

theorem lookUp_eq_getIgnoringCase? (attributes : Attributes) (name : String) :
    lookUp attributes.entries name = (attributes.getIgnoringCase? name).getD "" := by
  have hlower : (attributes.entries.find? fun entry =>
      lower entry.1.toList == lower name.toList) =
        attributes.entries.find? fun entry => Text.sameIgnoringAsciiCase entry.1 name := rfl
  rw [lookUp, Dictionary.getIgnoringCase?, hlower]
  cases attributes.entries.find? fun entry => Text.sameIgnoringAsciiCase entry.1 name with
  | none => rfl
  | some entry => rfl

/-- What the test of a property reads of a row is what the property stands for. -/
theorem chars_ofProperty {row : Row} (hdistinct : row.toIncident.attributes.AreDistinct)
    (hentries : row.toIncident.attributes.entries = row.attributes) (name : String) :
    ((Subject.ofProperty name).cell row).chars =
      (propertyValue row.toIncident name).toList := by
  rw [Subject.ofProperty, propertyValue_eq]
  -- a property is a column, or it is looked up among the attributes in both cases
  cases Column.ofProperty? name with
  | some c => exact chars_cell c row
  | none =>
    show (lookUp row.attributes name).toList = _
    rw [← hentries, lookUp_eq_getIgnoringCase?,
      Incident.attribute?_eq_getIgnoringCase? hdistinct]

/-- What a property stands for is plain. -/
theorem isPlain_propertyValue {row : Row} (h : row.IsPlain) (name : String) :
    Text.isPlain (propertyValue row.toIncident name).toList = true := by
  rw [propertyValue_eq]
  -- a column of the row, or an attribute that is looked up among its entries
  cases Column.ofProperty? name with
  | some c =>
    cases c with
    | id =>
      show Text.isPlain (idText _).toList = true
      rw [idText, String.toList_ofList]
      exact Text.isPlain_ofInt _
    | kind => exact h.payload.kind
    | description => exact h.payload.description
    | reporter => exact h.payload.reporter
    | state => exact h.payload.state
  | none =>
    show Text.isPlain ((row.toIncident.attribute? name).getD "").toList = true
    rw [Incident.attribute?_eq_getIgnoringCase? h.distinct, Dictionary.getIgnoringCase?]
    cases hfound : row.toIncident.attributes.entries.find? fun entry =>
        Text.sameIgnoringAsciiCase entry.1 name with
    | none => rfl
    | some entry => exact (h.payload.attributes entry (List.mem_of_find?_eq_some hfound)).2

/-! ## §4 Tests -/

/-- Nothing is cut off a text without null characters. -/
theorem upToNull_eq_self {cs : List Char} (h : '\x00' ∉ cs) : upToNull cs = cs := by
  refine List.takeWhile_eq_self_iff.mpr fun c hc => decide_eq_true ?_
  rintro rfl
  exact h hc

/-- A pattern match reads all of a text without null characters. -/
theorem matchText_eq_map {cs : List Char} (h : '\x00' ∉ cs) :
    matchText cs = (lower cs).map matchChar := by
  have hlower : '\x00' ∉ lower cs := by
    intro hmem
    obtain ⟨c, hc, hnull⟩ := List.mem_map.mp hmem
    exact h ((Text.toLower_eq_iff (by decide)).mp hnull ▸ hc)
  rw [matchText, upToNull_eq_self hlower]

/-- Of a plain text a pattern match reads every character as it is. -/
theorem matchText_eq_asciiFold {cs : List Char} (h : Text.isPlain cs = true) :
    matchText cs = Text.asciiFold cs := by
  have hplain := Text.isPlain_iff.mp (Text.isPlain_asciiFold h)
  have hchar : ∀ c ∈ Text.asciiFold cs, matchChar c = c := by
    intro c hc
    have hascii := (hplain c hc).1
    unfold matchChar
    refine if_neg ?_
    simp only [Bool.or_eq_true, decide_eq_true_eq]
    -- the two characters that are read as something else lie beyond ASCII
    rintro (rfl | rfl)
    · exact absurd hascii (by decide)
    · exact absurd hascii (by decide)
  rw [matchText_eq_map fun hmem => (Text.isPlain_iff.mp h _ hmem).2 rfl, lower,
    List.map_congr_left hchar, List.map_id']

/-- A pattern match searches a plain text for a plain value. -/
theorem isMatch_matchText {value text : List Char} (hvalue : Text.isPlain value = true)
    (htext : Text.isPlain text = true) :
    Text.Like.isMatch (matchText (Text.Like.containing value)) (matchText text) =
      Text.occursIn (Text.asciiFold value) (Text.asciiFold text) := by
  rw [matchText_eq_asciiFold htext, matchText_eq_asciiFold (Text.isPlain_containing hvalue),
    Text.Like.asciiFold_containing, Text.Like.isMatch_containing, Text.asciiFold_asciiFold,
    Text.asciiFold_asciiFold]

/-- On a plain row the test of a plain criterion comes to what its comparison comes to on the
    incident of the row, unless its pattern is too long. -/
theorem Test.holds_ofCriterion {row : Row} (hrow : row.IsPlain) {c : Criterion} (hc : c.IsPlain)
    (hpattern : c.comparison = .contains →
      Text.byteSize (containsPattern c.value).toList ≤ maxPatternBytes) :
    (Test.ofCriterion .consistent c).holds row =
      .ok (c.comparison.test (propertyValue row.toIncident c.property) c.value) := by
  obtain ⟨property, comparison, value⟩ := c
  have htext := isPlain_propertyValue hrow property
  have hread := chars_ofProperty hrow.distinct hrow.entries property
  -- both comparisons for equality fold the two texts, here and there in the same way
  have hequal : (lower ((Subject.ofProperty property).cell row).chars == lower value.toList) =
      Text.eqIgnoreCase (propertyValue row.toIncident property) value := by
    rw [hread, Text.eqIgnoreCase_of_isAscii (Text.isAscii_of_isPlain htext)
      (Text.isAscii_of_isPlain hc.value)]
    rfl
  cases comparison with
  | equals => exact congrArg Except.ok hequal
  | notEquals => exact congrArg (fun b => Except.ok !b) hequal
  | contains =>
    have hpatternText : (containsPattern value).toList = Text.Like.containing value.toList :=
      String.toList_ofList
    show Operator.lowerLike.holds ((Subject.ofProperty property).cell row)
      (containsPattern value).toList = _
    rw [Operator.holds, if_neg (Nat.not_lt.mpr (hpattern rfl)), hpatternText, hread,
      isMatch_matchText hc.value htext, Comparison.test,
      Text.containsIgnoreCase_of_isAscii (Text.isAscii_of_isPlain htext)
        (Text.isAscii_of_isPlain hc.value)]

end Relational

end IncidentTracker
