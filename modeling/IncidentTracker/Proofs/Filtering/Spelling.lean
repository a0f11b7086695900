import IncidentTracker.Filtering.Wire
import IncidentTracker.Proofs.Filtering.Settled
import IncidentTracker.Proofs.Json.Record
import IncidentTracker.Proofs.Text.Folding

/-!
# The Spellings of a Filter

There are many ways to write one filter. The members of an object may stand in any order, with
unknown ones among them, whatever their values; a record may be the list of its fields; an empty
list may be left out or be null, an empty text may be left out, and so may the word for `and`, which
is also what any unknown word stands for; words may be in any case. All of them are read as the
filter, provided that no more than 127 of the containers that are read are nested. Nothing limits
the nesting of what is passed over.

Main statement: `Forest.read_of_isSpelledBy`.
-/

namespace IncidentTracker.Filtering

open Json (Decode Decoder Document Phrase Reads isSpaced textOf)

/-! ## §1 Spellings -/

/-- Whether a phrase is a text that passes a test. -/
def isTextSuch (p : String → Bool) : Phrase → Bool
  | .text pieces => (textOf pieces).any p
  | _ => false

/-- Whether a field spells a text: only the empty one may be left out. -/
def isTextSpelledBy (s : String) : Option Phrase → Bool
  | none => s.isEmpty
  | some φ => isTextSuch (· == s) φ

/-- Whether a field spells a comparison. -/
def Comparison.isSpelledBy (c : Comparison) : Option Phrase → Bool
  | none => false
  | some φ => isTextSuch (fun word => Text.sameIgnoringAsciiCase word c.name) φ

/-- Whether a field spells a junction: every word but one stands for `and`, and so does none. -/
def Junction.isSpelledBy (j : Junction) : Option Phrase → Bool
  | none => j == .and
  | some .null => j == .and
  | some φ => isTextSuch (fun word => Text.sameIgnoringAsciiCase word "or" == (j == .or)) φ

/-- The items of a field that is a list, where a list takes one of the containers that there is room
    for. No list is needed for no items. -/
def itemsOf? (room : Nat) : Option Phrase → Option (List Phrase)
  | none => some []
  | some .null => some []
  | some (.list items) => if 0 < room then some items else none
  | some _ => none

/-- Whether a phrase spells a criterion, with room for some containers. -/
def Criterion.isSpelledBy (room : Nat) (c : Criterion) (φ : Phrase) : Bool :=
  0 < room && (φ.members? ["property", "comparison", "value"]).any fun fields =>
    isTextSpelledBy c.property (fields.lookup "property") &&
      c.comparison.isSpelledBy (fields.lookup "comparison") &&
      isTextSpelledBy c.value (fields.lookup "value")

/-- Whether phrases spell criteria one by one. -/
def areCriteriaSpelledBy (room : Nat) : List Criterion → List Phrase → Bool
  | [], [] => true
  | c :: criteria, φ :: phrases => c.isSpelledBy room φ && areCriteriaSpelledBy room criteria phrases
  | _, _ => false

/-- Whether a phrase spells a group with the given junction and members, and with children that pass
    a test. -/
def isGroupSpelledBy (room : Nat) (children : List Phrase → Bool) (members : List Criterion)
    (j : Junction) (φ : Phrase) : Bool :=
  0 < room && (φ.members? ["children", "filters", "junction"]).any fun fields =>
    (itemsOf? (room - 1) (fields.lookup "children")).any children &&
      (itemsOf? (room - 1) (fields.lookup "filters")).any
        (areCriteriaSpelledBy (room - 2) members) &&
      j.isSpelledBy (fields.lookup "junction")

mutual

/-- Whether a phrase spells a group of a filter, with room for some containers. -/
def Tree.isSpelledBy (room : Nat) : Tree Criterion → Phrase → Bool
  | .branch j children shadowed, φ =>
    isGroupSpelledBy room (fun items => Tree.areSpelledBy (room - 2) children items) shadowed j φ
  | .group j members, φ => isGroupSpelledBy room List.isEmpty members j φ

/-- Whether phrases spell groups one by one. -/
def Tree.areSpelledBy (room : Nat) : List (Tree Criterion) → List Phrase → Bool
  | [], [] => true
  | node :: nodes, φ :: phrases =>
    Tree.isSpelledBy room node φ && Tree.areSpelledBy room nodes phrases
  | _, _ => false

end

/-- Whether a phrase spells a filter, with room for some containers. -/
def Forest.isSpelledBy (room : Nat) (r : Request) (φ : Phrase) : Bool :=
  0 < room && (φ.members? ["complexfilters", "union"]).any fun fields =>
    (itemsOf? (room - 1) (fields.lookup "complexfilters")).any
        (Tree.areSpelledBy (room - 2) r.nodes) &&
      r.junction.isSpelledBy (fields.lookup "union")

/-! ## §2 Fields -/

/-- A text is read as what its pieces stand for. -/
theorem exists_of_isTextSuch {p : String → Bool} {φ : Phrase} (h : isTextSuch p φ = true) :
    ∃ s, p s = true ∧ φ.document = .ofText s := by
  -- only a text is such
  cases φ with
  | text pieces =>
    obtain ⟨s, hs, hp⟩ := (Option.any_eq_true ..).mp h
    refine ⟨s, hp, ?_⟩
    rw [Phrase.document, Document.ofPieces, Json.textContent, hs]
    rfl
  | _ => cases h

theorem reads_text {s : String} {φ : Phrase} (h : isTextSpelledBy s (some φ) = true) (depth : Nat) :
    Reads (Json.text depth φ.document : Decode Notice String) s := by
  obtain ⟨other, hother, hdocument⟩ := exists_of_isTextSuch h
  rw [hdocument, eq_of_beq hother]
  exact .pure s

/-- A word that is the name of one comparison up to case is not the name of another. -/
theorem ofText?_of_same {c : Comparison} {word : String}
    (h : Text.sameIgnoringAsciiCase word c.name = true) : Comparison.ofText? word = some c := by
  have hfold := Text.sameIgnoringAsciiCase_iff.mp h
  have hname (d : Comparison) : Text.sameIgnoringAsciiCase word d.name =
      Text.sameIgnoringAsciiCase c.name d.name := by
    simp only [Text.sameIgnoringAsciiCase, hfold]
  simp only [Comparison.ofText?, hname]
  cases c <;> decide

theorem reads_comparison {c : Comparison} {φ : Phrase} (h : c.isSpelledBy (some φ) = true)
    (depth : Nat) : Reads (readComparison depth φ.document) c := by
  obtain ⟨word, hword, hdocument⟩ := exists_of_isTextSuch h
  rw [hdocument]
  apply Reads.bind (.pure word)
  simp only [ofText?_of_same hword]
  exact .pure c

/-- Whatever is remarked upon, a word is read as the junction that it stands for. Null is not a
    word, and stands for the default. -/
theorem reads_junction {j : Junction} {φ : Phrase} (h : j.isSpelledBy (some φ) = true)
    (depth : Nat) : Reads (readJunction depth φ.document) j := by
  by_cases hnull : φ = .null
  · subst hnull
    have hand : j = .and := eq_of_beq h
    subst hand
    exact .bind (.pure none) (.pure _)
  · -- not null, so it is a text, and it is the word "or" exactly for the one junction
    have hsuch : isTextSuch
        (fun word => Text.sameIgnoringAsciiCase word "or" == (j == .or)) φ = true := by
      cases φ with
      | null => exact absurd rfl hnull
      | _ => exact h
    obtain ⟨word, hword, hdocument⟩ := exists_of_isTextSuch hsuch
    have hjunction : Junction.ofText word = j := by
      rw [Junction.ofText, eq_of_beq hword]
      cases j <;> rfl
    rw [hdocument, ← hjunction]
    -- an unknown word reads as "and" with a notice, which reading does not look at
    apply Reads.bind (.pure (some word))
    dsimp only
    split
    · exact .pure _
    · exact .bind (.note _) (.pure _)

/-- A list is read as what its items are read as, and so is what stands for no items. -/
theorem reads_optional {α : Type} {item : Decoder Notice (List α)} {room : Nat}
    {field : Option Phrase} {spelled : List Phrase → Bool} {values : List α}
    (h : (itemsOf? room field).any spelled = true) (hnil : spelled [] = true → values = [])
    (hread : ∀ items, 0 < room → spelled items = true →
      Reads (item room (Phrase.list items).document) values) :
    ∃ found : Option (List α), (field = none → values = []) ∧ found.getD [] = values ∧
      ∀ φ, field = some φ → Reads (Json.optional item room φ.document) found := by
  obtain ⟨items, hitems, hspelled⟩ := (Option.any_eq_true ..).mp h
  -- left out, null and a list are the ways to spell it; the first two need an empty list
  cases field with
  | none =>
    cases hitems
    exact ⟨none, fun _ => hnil hspelled, (hnil hspelled).symm, fun φ hφ => nomatch hφ⟩
  | some φ =>
    cases φ with
    | null =>
      cases hitems
      refine ⟨none, (nomatch ·), (hnil hspelled).symm, ?_⟩
      rintro φ ⟨⟩
      exact .pure none
    | list given =>
      rw [itemsOf?] at hitems
      split at hitems
      case isFalse => cases hitems
      case isTrue hroom =>
        obtain rfl := Option.some.inj hitems
        refine ⟨some values, (nomatch ·), rfl, ?_⟩
        rintro φ ⟨⟩
        have hlist := (hread given hroom hspelled).map some
        rw [Phrase.document] at hlist ⊢
        exact hlist
    | _ => cases hitems

/-- A value that is there if something has been done. -/
def given {α : Type} (done : Bool) (a : α) : Option α :=
  if done then some a else none

@[simp] theorem given_true {α : Type} (a : α) : given true a = some a :=
  rfl

@[simp] theorem isSome_given {α : Type} (done : Bool) (a : α) : (given done a).isSome = done := by
  cases done <;> rfl

/-- A text that is left out is the empty one. -/
theorem getD_given_text {s : String} {field : Option Phrase}
    (h : isTextSpelledBy s field = true) : (given field.isSome s).getD "" = s := by
  cases field with
  | none => exact (String.isEmpty_iff.mp h).symm
  | some φ => rfl

/-- A junction that is left out is `and`. -/
theorem getD_given_junction {j : Junction} {field : Option Phrase}
    (h : j.isSpelledBy field = true) : (given field.isSome j).getD .and = j := by
  cases field with
  | none => exact (eq_of_beq h).symm
  | some φ => rfl

/-- A list that is left out has no items. -/
theorem getD_given_list {α : Type} {values : List α} {found : Option (List α)}
    {field : Option Phrase} (hnone : field = none → values = []) (hfound : found.getD [] = values) :
    ((given field.isSome found).getD none).getD [] = values := by
  cases field with
  | none => exact (hnone rfl).symm
  | some φ => exact hfound

/-! ## §3 Criteria -/

/-- A criterion is read from each of its spellings. -/
theorem reads_criterion {room : Nat} {c : Criterion} {φ : Phrase}
    (h : c.isSpelledBy room φ = true) : Reads (readCriterion room φ.document) c := by
  simp only [Criterion.isSpelledBy, Bool.and_eq_true, decide_eq_true_eq, Option.any_eq_true] at h
  obtain ⟨hroom, fields, hfields, ⟨hproperty, hcomparison⟩, hvalue⟩ := h
  obtain ⟨depth, rfl⟩ := Nat.exists_eq_succ_of_ne_zero (Nat.ne_of_gt hroom)
  have hgiven : (fields.lookup "comparison").isSome = true := by
    cases hlookup : fields.lookup "comparison" with
    | none =>
      rw [hlookup] at hcomparison
      cases hcomparison
    | some φ => rfl
  -- the draft has the value of each field that has been read
  have hinto : criterionRecord.ReadsInto depth fields fun done =>
      ⟨given (done "property") c.property, given (done "comparison") c.comparison,
        given (done "value") c.value⟩ := by
    refine ⟨rfl, ?_, ?_, ?_⟩
    · simp [criterionRecord]
    · simp only [criterionRecord, List.forall_mem_cons]
      refine ⟨fun φ hφ => ?_, fun φ hφ => ?_, fun φ hφ => ?_, fun _ hmem => nomatch hmem⟩
      · rw [hφ] at hproperty
        exact ⟨_, (reads_text hproperty depth).bind (.pure _), fun done => by simp⟩
      · rw [hφ] at hcomparison
        exact ⟨_, (reads_comparison hcomparison depth).bind (.pure _), fun done => by simp⟩
      · rw [hφ] at hvalue
        exact ⟨_, (reads_text hvalue depth).bind (.pure _), fun done => by simp⟩
    · -- only the comparison must be there
      simpa [criterionRecord] using hgiven
  apply (Json.Record.reads hinto (by decide) hfields).bind
  have hproperty := getD_given_text hproperty
  have hvalue := getD_given_text hvalue
  simpa [criterionRecord, Json.Record.names, hgiven, hproperty, hvalue] using Reads.pure c

theorem reads_criteria {room : Nat} :
    ∀ {criteria : List Criterion} {phrases : List Phrase},
      areCriteriaSpelledBy room criteria phrases = true →
      Reads ((Json.phraseDocuments phrases).mapM (readCriterion room)) criteria
  | [], [], _ => .pure []
  | c :: criteria, φ :: phrases, h => by
    simp only [areCriteriaSpelledBy, Bool.and_eq_true] at h
    exact Reads.mapM_cons (reads_criterion h.1) (reads_criteria h.2)

theorem eq_nil_of_areCriteriaSpelledBy {room : Nat} {criteria : List Criterion}
    (h : areCriteriaSpelledBy room criteria [] = true) : criteria = [] := by
  cases criteria with
  | nil => rfl
  | cons c criteria => cases h

/-! ## §4 Groups -/

theorem Tree.eq_nil_of_areSpelledBy {room : Nat} {nodes : List (Tree Criterion)}
    (h : Tree.areSpelledBy room nodes [] = true) : nodes = [] := by
  cases nodes with
  | nil => rfl
  | cons node nodes => simp [Tree.areSpelledBy] at h

/-- A list of groups takes one container. -/
theorem reads_children {room : Nat} {nodes : List (Tree Criterion)} {items : List Phrase}
    (hroom : 0 < room) (h : Reads ((Json.phraseDocuments items).mapM (readTree (room - 1))) nodes) :
    Reads (readTrees room (Phrase.list items).document) nodes := by
  obtain ⟨depth, rfl⟩ := Nat.exists_eq_succ_of_ne_zero (Nat.ne_of_gt hroom)
  rw [readTrees]
  exact .listOf hroom h

@[simp] theorem names_treeRecord (readChildren : Decoder Notice (List (Tree Criterion))) :
    (treeRecord readChildren).names = ["children", "filters", "junction"] :=
  rfl

/-- A group is read from each of its spellings if the list of its children is. -/
theorem reads_group {room : Nat} {spelled : List Phrase → Bool} {nodes : List (Tree Criterion)}
    {members : List Criterion} {j : Junction} {φ : Phrase}
    (h : isGroupSpelledBy room spelled members j φ = true)
    (hnil : spelled [] = true → nodes = [])
    (hread : ∀ items, spelled items = true →
      Reads ((Json.phraseDocuments items).mapM (readTree (room - 2))) nodes) :
    Reads (readTree room φ.document)
      (if nodes.isEmpty then .group j members else .branch j nodes members) := by
  rw [isGroupSpelledBy, Bool.and_eq_true, decide_eq_true_eq, Option.any_eq_true] at h
  obtain ⟨hroom, fields, hfields, hspelled⟩ := h
  simp only [Bool.and_eq_true] at hspelled
  obtain ⟨⟨hchildren, hfilters⟩, hjunction⟩ := hspelled
  obtain ⟨depth, rfl⟩ := Nat.exists_eq_succ_of_ne_zero (Nat.ne_of_gt hroom)
  -- the group is one container, the list of its children or of its members a second
  let readChildren : Decoder Notice (List (Tree Criterion)) := fun _ children =>
    readTrees depth children
  have hreadChildren (items : List Phrase) (hroom : 0 < depth) (hitems : spelled items = true) :
      Reads (readChildren depth (Phrase.list items).document) nodes :=
    reads_children hroom (hread items hitems)
  have hreadFilters (items : List Phrase) (hroom : 0 < depth)
      (hitems : areCriteriaSpelledBy (depth - 1) members items = true) :
      Reads (readCriteria depth (Phrase.list items).document) members :=
    .listOf hroom (reads_criteria hitems)
  obtain ⟨children, hnochildren, hchildren, hchild⟩ := reads_optional hchildren hnil hreadChildren
  obtain ⟨filters, hnofilters, hfilters, hfilter⟩ :=
    reads_optional hfilters eq_nil_of_areCriteriaSpelledBy hreadFilters
  have hinto : (treeRecord readChildren).ReadsInto depth fields fun done =>
      ⟨given (done "children") children, given (done "filters") filters,
        given (done "junction") j⟩ := by
    refine ⟨rfl, ?_, ?_, ?_⟩
    · simp [treeRecord]
    · simp only [treeRecord, List.forall_mem_cons]
      refine ⟨fun φ hφ => ?_, fun φ hφ => ?_, fun φ hφ => ?_, fun _ hmem => nomatch hmem⟩
      · exact ⟨_, (hchild φ hφ).bind (.pure _), fun done => by simp⟩
      · exact ⟨_, (hfilter φ hφ).bind (.pure _), fun done => by simp⟩
      · rw [hφ] at hjunction
        exact ⟨_, (reads_junction hjunction depth).bind (.pure _), fun done => by simp⟩
    · simp [treeRecord]
  have hdraft := (Json.Record.reads hinto (by simp) hfields).map TreeDraft.tree
  have hchildren := getD_given_list hnochildren hchildren
  have hfilters := getD_given_list hnofilters hfilters
  have hjunction := getD_given_junction hjunction
  rw [readTree]
  simpa [TreeDraft.tree, hchildren, hfilters, hjunction] using hdraft

mutual

/-- A group is read from each of its spellings. -/
theorem reads_tree :
    ∀ {node : Tree Criterion} {room : Nat} {φ : Phrase}, node.isFull = true →
      Tree.isSpelledBy room node φ = true → Reads (readTree room φ.document) node
  | .branch j [] shadowed, _, _, hfull, _ => by
    cases hfull
  | .branch j (child :: children) shadowed, room, φ, hfull, h => by
    rw [Tree.isSpelledBy] at h
    rw [Tree.isFull] at hfull
    -- children make it a branch, whatever members are sent along
    have hgroup := reads_group h Tree.eq_nil_of_areSpelledBy fun items hitems =>
      reads_trees hfull hitems
    exact hgroup
  | .group j members, room, φ, _, h => by
    rw [Tree.isSpelledBy] at h
    have hread (items : List Phrase) (hitems : items.isEmpty = true) :
        Reads ((Json.phraseDocuments items).mapM (readTree (room - 2))) [] := by
      obtain rfl := List.isEmpty_iff.mp hitems
      exact .pure []
    have hgroup := reads_group h (fun _ => rfl) hread
    exact hgroup

theorem reads_trees :
    ∀ {nodes : List (Tree Criterion)} {room : Nat} {phrases : List Phrase},
      Tree.areFull nodes = true → Tree.areSpelledBy room nodes phrases = true →
      Reads ((Json.phraseDocuments phrases).mapM (readTree room)) nodes
  | [], _, [], _, _ => .pure []
  | node :: nodes, room, φ :: phrases, hfull, h => by
    rw [Tree.areFull, Bool.and_eq_true] at hfull
    rw [Tree.areSpelledBy, Bool.and_eq_true] at h
    exact Reads.mapM_cons (reads_tree hfull.1 h.1) (reads_trees hfull.2 h.2)

end

/-! ## §5 Filters -/

/-- A filter is read from each of its spellings. -/
theorem reads_request {room : Nat} {r : Request} {φ : Phrase} (hfull : r.isFull = true)
    (h : r.isSpelledBy room φ = true) : Reads (readRequest room φ.document) r := by
  rw [Forest.isSpelledBy, Bool.and_eq_true, decide_eq_true_eq, Option.any_eq_true] at h
  obtain ⟨hroom, fields, hfields, hspelled⟩ := h
  obtain ⟨hnodes, hjunction⟩ := Bool.and_eq_true_iff.mp hspelled
  obtain ⟨depth, rfl⟩ := Nat.exists_eq_succ_of_ne_zero (Nat.ne_of_gt hroom)
  -- the nodes lie one level deeper, so they have one level less to nest
  have hreadNodes (items : List Phrase) (hroom : 0 < depth)
      (hitems : Tree.areSpelledBy (depth - 1) r.nodes items = true) :
      Reads (readTrees depth (Phrase.list items).document) r.nodes :=
    reads_children hroom (reads_trees hfull hitems)
  obtain ⟨nodes, hnonodes, hnodes, hnode⟩ :=
    reads_optional hnodes Tree.eq_nil_of_areSpelledBy hreadNodes
  -- each of the two members, if it is there, is read into its own field
  have hinto : requestRecord.ReadsInto depth fields fun done =>
      ⟨given (done "complexfilters") nodes, given (done "union") r.junction⟩ := by
    refine ⟨rfl, ?_, ?_, ?_⟩
    · simp [requestRecord]
    · simp only [requestRecord, List.forall_mem_cons]
      refine ⟨fun φ hφ => ?_, fun φ hφ => ?_, fun _ hmem => nomatch hmem⟩
      · exact ⟨_, (hnode φ hφ).bind (.pure _), fun done => by simp⟩
      · rw [hφ] at hjunction
        exact ⟨_, (reads_junction hjunction depth).bind (.pure _), fun done => by simp⟩
    · simp [requestRecord]
  apply (Json.Record.reads hinto (by decide) hfields).bind
  have hnodes := getD_given_list hnonodes hnodes
  have hjunction := getD_given_junction hjunction
  simpa [requestRecord, Json.Record.names, hnodes, hjunction] using Reads.pure r

/-- Every text that spells a filter is read as that filter if each of its branches has children.
    The limit to the nesting is the reader's. -/
theorem Forest.read_of_isSpelledBy {r : Request} {φ : Phrase} {text : List Char}
    (hfull : r.isFull = true) (hspells : r.isSpelledBy 127 φ = true)
    (hspaced : isSpaced φ.tokens text = true) : (Json.read readRequest text).result = .ok r :=
  Json.read_of_reads hspaced (reads_request hfull hspells)

/-- The pieces of a text that are written without escapes. -/
def plainly (s : String) : List Json.Piece :=
  s.toList.filterMap fun c =>
    if valid : c ≠ '"' ∧ c ≠ '\\' ∧ ¬c.toNat < 32 then some (.bare c valid) else none

/-- A spelling of a filter with an unknown member that could not be read, members in no particular
    order, two groups and a field without a value that are given as lists, escapes, and a word that
    is no junction. -/
def unlikelySpelling : Phrase :=
  let hugeFigures : Json.Figures :=
    ⟨true, ['0'], some ['5'], some ⟨'E', some false, ['9', '9', '9'], by decide⟩, by decide⟩
  let criterion : Phrase := .object [
    (plainly "value", .text (plainly "a" ++ .named '/' (by decide) :: plainly "b")),
    (plainly "comparison", .text (plainly "CONTAINS"))]
  let branch : Phrase := .object [
    (plainly "junction", .text (plainly "nor")),
    (plainly "children", .list [.list [.null, .list [criterion], .text (plainly "OR")]])]
  .object [
    (plainly "x", .list [.numeral hugeFigures, .text [.unit 'd' '8' '0' '0' (by decide)]]),
    (plainly "un" ++ .unit '0' '0' '6' '9' (by decide) :: plainly "on", .text (plainly "oR")),
    (plainly "complexfilters", .list [branch, .list []])]

def unlikelyText : List Char :=
  " \x7b\"x\":[-0.5E+999, \"\\ud800\"] ,\n".toList ++
    "\"un\\u0069on\": \"oR\", \"complexfilters\":[".toList ++
    "\x7b\"junction\":\"nor\", \"children\":[[null,".toList ++
    "[\x7b\"value\" :\"a\\/b\",\t\"comparison\":\"CONTAINS\"\x7d ]".toList ++
    ",\"OR\"]]\x7d,[]]\x7d\r\n".toList

theorem Forest.read_of_isSpelledBy_unlikely :
    (Json.read readRequest unlikelyText).result =
      .ok ⟨.or, [.branch .and [.group .or [⟨"", .contains, "a/b"⟩]] [], .group .and []]⟩ := by
  have hspaced : isSpaced unlikelySpelling.tokens unlikelyText = true := by decide +kernel
  exact Forest.read_of_isSpelledBy rfl rfl hspaced

end IncidentTracker.Filtering
