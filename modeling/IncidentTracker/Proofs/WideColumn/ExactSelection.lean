import IncidentTracker.Proofs.WideColumn.Service
import IncidentTracker.Proofs.WideColumn.Traffic

/-!
# Exact Selection

Under the consistent semantics the service selects what the tree of a filter says, if texts are
compared as they are and attributes are found under exactly their names. An attribute that an
incident does not have counts as the empty text, as long as the empty text is not what is asked for:
what is not there is not equal to it, does not contain it, and is different from it, though the empty
text would be the first two and not the third.

Main statement: `Scan.selects?_ofIncident`.
-/

namespace IncidentTracker

open Filtering (Comparison Criterion Request)

/-! ## §1 What is meant -/

/-- Whether a text passes a comparison with a value to the letter. -/
def Filtering.Comparison.testExactly (c : Comparison) (actual value : String) : Bool :=
  match c with
  | .equals => actual == value
  | .notEquals => actual != value
  | .contains => Text.occursIn value.toList actual.toList

/-- The text of a property, where attributes are found under exactly their names. -/
def Incident.exactValue (i : Incident) (name : String) : String :=
  match findMember name with
  | some entry => entry.2 i
  | none => (i.attributes.get? name).getD ""

/-- Whether an incident passes a filter to the letter. -/
def Filtering.Forest.acceptsExactly (r : Request) (i : Incident) : Bool :=
  r.eval fun c => c.comparison.testExactly (i.exactValue c.property) c.value

/-- Whether a criterion asks for the empty text in an attribute that an incident does not have. -/
def Incident.lacksEmpty (i : Incident) (c : Criterion) : Bool :=
  !isMember Incident c.property && (i.attributes.get? c.property).isNone && c.value == ""

namespace WideColumn

/-! ## §2 Values in the item of an incident -/

theorem Item.at?_cons (item : Item) (name : String) (path : List String) :
    item.at? (name :: path) = (item.get? name).bind fun value => value.at? path := by
  rw [Item.at?, Value.at?, Dictionary.get?]
  cases item.entries.find? fun entry => entry.1 == name <;> rfl

/-- An attribute is written under its name in the map of attributes. -/
theorem Item.at?_attribute (i : Incident) (name : String) :
    (ofIncident i).at? [attributesName, name] = (i.attributes.get? name).map .text := by
  have hmap : (ofIncident i).get? attributesName = some (attributesValue i.attributes) :=
    get?_attributes_ofIncident i
  rw [at?_cons, hmap, Option.bind_some, attributesValue, Value.at?, List.find?_map, Dictionary.get?]
  have hname : ((fun entry : String × Value => entry.1 == name) ∘
      fun entry : String × String => (entry.1, Value.text entry.2)) =
        fun entry => entry.1 == name := rfl
  rw [hname]
  cases i.attributes.entries.find? fun entry => entry.1 == name <;> rfl

/-- What a criterion on something else than the identifier finds in the item of an incident. -/
theorem Item.at?_pathOf (i : Incident) {c : Criterion}
    (hc : Text.sameIgnoringAsciiCase "id" c.property = false) :
    (ofIncident i).at? (pathOf .consistent c) =
      match findMember (ε := Incident) c.property with
      | some entry => some (.text (entry.2 i))
      | none => (i.attributes.get? c.property).map .text := by
  have hnested : isNested .consistent c = !isMember Incident c.property :=
    isNested_eq_isCustom .consistent c
  rw [pathOf, nameOf, hnested, isMember]
  cases hfind : findMember (ε := Incident) c.property with
  | none =>
    exact at?_attribute i c.property
  | some entry =>
    -- it stands under the name in lower case, and it is a text because it is not the identifier
    obtain ⟨hentry, hlower⟩ := Incident.of_findMember hfind
    have hid : entry.1 ≠ "id" := by
      intro hid
      have hsame : Text.sameIgnoringAsciiCase entry.1 c.property = true := by
        simpa using List.find?_some hfind
      rw [hid, hc] at hsame
      cases hsame
    have hvalue := get?_text_ofIncident i hentry hid
    show (ofIncident i).at? [Text.lowercase c.property] = _
    rw [hlower, at?_cons, hvalue]
    rfl

theorem valueOf_eq_text {c : Criterion} (hc : Text.sameIgnoringAsciiCase "id" c.property = false) :
    valueOf c = .text c.value := by
  have hid : Text.lowercase c.property ≠ "id" := by
    intro hlower
    have hsteady : Text.isSteady "id" = true := by decide
    have hsame := Text.sameIgnoringAsciiCase_lowercase hsteady c.property
    rw [hlower, hc] at hsame
    cases hsame
  simp [valueOf, hid]

/-! ## §3 Selection -/

/-- With a text that is there, the service compares to the letter. -/
theorem Service.compare_text (service : Service) (comparison : Comparison) (s value : String) :
    service.compare comparison (some (.text s)) (.text value) =
      comparison.testExactly s value := by
  cases comparison with
  | equals => exact service.equal_texts s value
  | notEquals => exact congrArg (!·) (service.equal_texts s value)
  | contains => exact service.contains_texts s value

/-- What is not there is compared like the empty text, but for the empty text itself. -/
theorem Service.compare_none (service : Service) (comparison : Comparison) (value : String) :
    service.compare comparison none (.text value) =
      (comparison.testExactly "" value != (value == "")) := by
  -- of nothing, every text but the empty one says the same as of the empty text
  have hequal : ("" == value) = (value == "") := Bool.beq_comm
  have hempty : value.toList.isEmpty = (value == "") := by
    rw [Bool.eq_iff_iff, List.isEmpty_iff, String.toList_eq_nil_iff, beq_iff_eq]
  cases comparison with
  | equals => simp [compare, Comparison.testExactly, hequal]
  | notEquals => simp [compare, Comparison.testExactly, bne, hequal]
  | contains => simp [compare, Comparison.testExactly, Text.occursIn, hempty]

/-- What the service answers to a criterion: what the comparison comes to to the letter, or the
    opposite of it where the empty text is asked for in an attribute that is not there. -/
theorem Service.answer_ofIncident (service : Service) (i : Incident) {c : Criterion}
    (hc : Text.sameIgnoringAsciiCase "id" c.property = false) :
    service.answer .consistent (.ofIncident i) c =
      (c.comparison.testExactly (i.exactValue c.property) c.value != i.lacksEmpty c) := by
  rw [answer, Item.at?_pathOf i hc, valueOf_eq_text hc, Incident.exactValue, Incident.lacksEmpty,
    isMember]
  cases findMember (ε := Incident) c.property with
  | some entry => simp [compare_text]
  | none =>
    -- the two differ only where there is no such attribute
    cases i.attributes.get? c.property with
    | some value => simp [compare_text]
    | none => simp [compare_none]

/-- The scan for a filter that asks for no identifier selects the item of an incident exactly if the
    tree of the filter is true with every leaf compared to the letter, provided that no leaf asks for
    the empty text in an attribute that the incident does not have. A leaf that does so counts for
    the opposite. -/
theorem Scan.selects?_ofIncident (service : Service) (i : Incident) {r : Filtering.Request}
    (hr : ∀ c ∈ r.leaves, Text.sameIgnoringAsciiCase "id" c.property = false) :
    let selected := (Scan.ofRequest .consistent r).selects? service (.ofIncident i)
    selected = some (r.eval fun c =>
        c.comparison.testExactly (i.exactValue c.property) c.value != i.lacksEmpty c) ∧
      ((∀ c ∈ r.leaves, i.lacksEmpty c = false) → selected = some (r.acceptsExactly i)) := by
  intro selected
  -- each leaf that is not about the number tests the exact value, or fails where it is absent
  have hselected : selected = some (r.eval fun c =>
      c.comparison.testExactly (i.exactValue c.property) c.value != i.lacksEmpty c) := by
    show (Scan.ofRequest .consistent r).selects? service (.ofIncident i) = _
    rw [Scan.selects?_consistent]
    exact congrArg some (Filtering.Forest.eval_congr fun c hc => service.answer_ofIncident i (hr c hc))
  refine ⟨hselected, fun hpresent => ?_⟩
  rw [hselected, Filtering.Forest.acceptsExactly]
  refine congrArg some (Filtering.Forest.eval_congr fun c hc => ?_)
  rw [hpresent c hc, Bool.bne_false]

theorem Scan.selects?_ofIncident_other_case :
    let i : Incident :=
      { kind := "Bug", id := 7, state := "Open", attributes := .ofList [("Team", "Core"), ("Ü", "")] }
    let r : Filtering.Request :=
      ⟨.or,
        [.branch .and [.group .or [⟨"TYPE", .contains, "ug"⟩, ⟨"team", .equals, "Core"⟩],
            .group .and []] [⟨"id", .equals, "8"⟩],
          .group .and [⟨"Ü", .equals, ""⟩, ⟨"team", .equals, "Core"⟩, ⟨"Team", .notEquals, "core"⟩]]⟩
    r.acceptsExactly i = true ∧
      (Scan.ofRequest .consistent r).selects? .ofWords (.ofIncident i) = some true := by
  intro i r
  -- no leaf asks for an identifier, and none for the empty text in what is not there
  have hexact : r.acceptsExactly i = true := by decide +kernel
  have hselected := (Scan.selects?_ofIncident .ofWords i (r := r) (by decide)).2 (by decide)
  exact ⟨hexact, hselected.trans (congrArg some hexact)⟩

/-- Every service leaves out an incident of which the severity is asked to be empty, if it has no
    severity at all, though the evaluation accepts it. -/
theorem Scan.selects?_absent :
    let i : Incident := { kind := "Bug", id := 0 }
    let r : Filtering.Request := .single .and .and ⟨"Severity", .equals, ""⟩
    (∀ c ∈ r.leaves, Text.sameIgnoringAsciiCase "id" c.property = false) ∧
      (∀ service, (Scan.ofRequest .consistent r).selects? service (.ofIncident i) = some false) ∧
      r.acceptsExactly i = true ∧ r.accepts i = true := by
  intro i r
  refine ⟨by decide, ?_, rfl, rfl⟩
  intro service
  have habsent : (Item.ofIncident i).at? (pathOf .consistent ⟨"Severity", .equals, ""⟩) = none := by
    decide +kernel
  rw [Scan.selects?_consistent, Filtering.Forest.eval_single, Service.answer, habsent]
  rfl

end WideColumn

end IncidentTracker
