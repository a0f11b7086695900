import IncidentTracker.Proofs.Filtering.Accepted
import IncidentTracker.Proofs.Filtering.Evaluation
import IncidentTracker.Proofs.Filtering.Spelling
import IncidentTracker.Proofs.Json.Outcome
import IncidentTracker.Proofs.Json.Recognition

/-!
# Remarks on Junctions

A text for a junction that is not recognized is taken for `and`, and it is remarked upon where it is
read. A filter is read once, from left to right, so there is one remark for each such text, in the
order in which they stand; groups may be objects or lists. What is passed over is not remarked upon.
A junction that has been read is no text any more, so whatever is done with the filter afterwards,
nothing is left to warn of.

Main statement: `notices_parseParam`.
-/

namespace IncidentTracker.Filtering

open Json (Decoder Ensures Phrase Yields isSpaced textOf)

/-! ## §1 The texts for junctions -/

/-- The text of a phrase, if it is one. -/
def ownTexts : Phrase → List String
  | .text pieces => (textOf pieces).toList
  | _ => []

/-- What a member has for junctions: where groups are due those of the groups, and where a junction
    is due its own. Any other member is passed over, or has none. -/
def memberTexts (groups junction : String) (name : Option String) (below own : List String) :
    List String :=
  if name = some groups then below else if name = some junction then own else []

theorem memberTexts_of_ne {groups junction key : String} (hgroups : key ≠ groups)
    (hjunction : key ≠ junction) (below own : List String) :
    memberTexts groups junction key below own = [] := by
  rw [memberTexts, if_neg (by simpa using hgroups), if_neg (by simpa using hjunction)]

mutual

/-- The texts for the junctions of a group, in the order in which they stand. -/
def groupTexts : Phrase → List String
  | .object members => groupMemberTexts members
  | .list items => groupItemTexts ["children", "filters", "junction"] items
  | _ => []

/-- The texts for the junctions of the groups in a list. -/
def childTexts : Phrase → List String
  | .list items => groupTextsEach items
  | _ => []

def groupTextsEach : List Phrase → List String
  | [] => []
  | item :: items => groupTexts item ++ groupTextsEach items

def groupMemberTexts : List (List Json.Piece × Phrase) → List String
  | [] => []
  | (key, φ) :: members =>
    memberTexts "children" "junction" (textOf key) (childTexts φ) (ownTexts φ) ++
      groupMemberTexts members

def groupItemTexts : List String → List Phrase → List String
  | name :: names, φ :: items =>
    memberTexts "children" "junction" name (childTexts φ) (ownTexts φ) ++ groupItemTexts names items
  | _, _ => []

end

/-- The texts for the junctions of a filter. -/
def requestTexts (φ : Phrase) : List String :=
  ((φ.named? ["complexfilters", "union"]).getD []).flatMap fun member =>
    memberTexts "complexfilters" "union" member.1 (childTexts member.2) (ownTexts member.2)

/-- Whether a text is neither empty nor a word for a junction. -/
def isUnrecognized (word : String) : Bool :=
  word != "" && !Text.sameIgnoringAsciiCase word "and" && !Text.sameIgnoringAsciiCase word "or"

/-- The remarks on texts for junctions. -/
def remarks (texts : List String) : List Notice :=
  (texts.filter isUnrecognized).map .unknownJunction

theorem remarks_flatMap {α : Type} (items : List α) (texts : α → List String) :
    remarks (items.flatMap texts) = items.flatMap fun item => remarks (texts item) := by
  simp only [remarks, List.filter_flatMap, List.map_flatMap]

theorem groupTextsEach_eq_flatMap (items : List Phrase) :
    groupTextsEach items = items.flatMap groupTexts := by
  induction items with
  | nil => rfl
  | cons item items ih => rw [groupTextsEach, ih, List.flatMap_cons]

theorem groupMemberTexts_of_keyed {raw : List (List Json.Piece × Phrase)}
    {members : List (String × Phrase)} (h : Json.keyed raw = some members) :
    groupMemberTexts raw = members.flatMap fun member =>
      memberTexts "children" "junction" member.1 (childTexts member.2) (ownTexts member.2) := by
  induction raw generalizing members with
  | nil =>
    cases h
    rfl
  | cons member raw ih =>
    -- the induction is on the members as spelled, each with a key that reads
    obtain ⟨pieces, φ⟩ := member
    rw [Json.keyed] at h
    split at h
    · next key others hkey hothers =>
      cases h
      rw [groupMemberTexts, ih hothers, hkey, List.flatMap_cons]
    · cases h

theorem groupItemTexts_eq_flatMap (names : List String) (items : List Phrase) :
    groupItemTexts names items = (names.zip items).flatMap fun member =>
      memberTexts "children" "junction" member.1 (childTexts member.2) (ownTexts member.2) := by
  induction items generalizing names with
  | nil => cases names <;> rfl
  | cons item items ih =>
    cases names with
    | nil => rfl
    | cons name names => rw [groupItemTexts, ih, List.zip_cons_cons, List.flatMap_cons]

/-- The texts of a group are those of its members, whether it is an object or a list. -/
theorem groupTexts_of_named {φ : Phrase} {members : List (String × Phrase)}
    (h : φ.named? ["children", "filters", "junction"] = some members) :
    groupTexts φ = members.flatMap fun member =>
      memberTexts "children" "junction" member.1 (childTexts member.2) (ownTexts member.2) := by
  cases φ with
  | object raw =>
    rw [groupTexts]
    exact groupMemberTexts_of_keyed h
  -- a list stands for the members in their order, the children first
  | list items =>
    rw [Phrase.named?] at h
    split at h
    · cases h
      rw [groupTexts, groupItemTexts_eq_flatMap]
    · cases h
  | _ => cases h

/-! ## §2 Junctions and criteria -/

theorem isKnown_eq_not_isUnrecognized (word : String) :
    Junction.isKnown word = !isUnrecognized word := by
  have hempty : word.isEmpty = (word == "") := by
    rw [Bool.eq_iff_iff, String.isEmpty_iff, beq_iff_eq]
  rw [Junction.isKnown, isUnrecognized, bne, Bool.not_and, Bool.not_and, Bool.not_not, Bool.not_not,
    Bool.not_not, Bool.or_right_comm, hempty]

/-- A junction is remarked upon if it is a text that is not recognized. -/
theorem ensures_readJunction (depth : Nat) (φ : Phrase) :
    Ensures (readJunction depth φ.document) fun _ left => left = remarks (ownTexts φ) := by
  -- reading the word raises no notice; only looking it up does
  have hoptional : Ensures (Json.optional Json.text depth φ.document) fun word left =>
      left = ([] : List Notice) ∧ ownTexts φ = word.toList := by
    apply Ensures.optional
    · rintro rfl
      exact ⟨rfl, rfl⟩
    · intro _
      apply Ensures.textAs
      rintro pieces s rfl hs
      exact ⟨rfl, by rw [ownTexts, hs]⟩
  apply hoptional.bind
  rintro word _ ⟨rfl, htexts⟩
  rw [htexts]
  cases word with
  | none => exact Ensures.pure rfl
  | some word =>
    -- a word is known to the decoder exactly if the remarks do not list it
    have hremarks : remarks (some word).toList =
        if Junction.isKnown word then [] else [.unknownJunction word] := by
      rw [isKnown_eq_not_isUnrecognized]
      cases hword : isUnrecognized word <;> simp [remarks, hword]
    dsimp only
    rw [hremarks]
    split
    · exact Ensures.pure rfl
    · have hnote : Ensures (Json.note (Notice.unknownJunction word)) fun _ left =>
          left = [.unknownJunction word] := Ensures.note rfl
      apply hnote.bind
      rintro _ _ rfl
      exact Ensures.pure rfl

theorem lawful_criterionRecord : criterionRecord.Lawful := by
  refine ⟨by decide, by simp [criterionRecord], ?_⟩
  simp only [criterionRecord, List.forall_mem_cons]
  refine ⟨fun depth d => ?_, fun depth d => ?_, fun depth d => ?_, List.forall_mem_nil _⟩
  all_goals
    apply Yields.bind_pure
    simp

/-- There are no junctions in a criterion. -/
theorem ensures_readCriterion (room : Nat) (φ : Phrase) :
    Ensures (readCriterion room φ.document) fun _ left => left = [] := by
  have htext (depth : Nat) (φ : Phrase) :
      Ensures (Json.text depth φ.document) fun _ left => left = ([] : List Notice) :=
    Ensures.textAs fun _ _ _ _ => rfl
  have hcomparison (depth : Nat) (φ : Phrase) :
      Ensures (readComparison depth φ.document) fun _ left => left = [] := by
    apply (htext depth φ).bind
    rintro word _ rfl
    cases Comparison.ofText? word with
    | none => exact Ensures.throw _
    | some comparison => exact Ensures.pure rfl
  -- a criterion has three texts as members, so no notice comes from any of them
  have hrecord : Ensures (criterionRecord.read room φ.document) fun _ left => left = [] := by
    cases room with
    | zero => exact Json.Record.ensures_read_zero _ _
    | succ depth =>
      have hfields : ∀ field ∈ criterionRecord.fields, ∀ φ : Phrase,
          Ensures (field.read depth φ.document) fun _ left => left = [] := by
        simp only [criterionRecord, List.forall_mem_cons]
        exact ⟨fun φ => (htext depth φ).bind_pure, fun φ => (hcomparison depth φ).bind_pure,
          fun φ => (htext depth φ).bind_pure, List.forall_mem_nil _⟩
      have hmembers := Json.Record.ensures_notices lawful_criterionRecord (fun _ _ => [])
        (fun _ _ _ => rfl) hfields φ
      apply hmembers.mono
      rintro draft _ ⟨members, -, rfl⟩
      simp
  apply hrecord.bind
  rintro draft _ rfl
  -- without a comparison the record does not finish
  cases draft.comparison with
  | none => exact Ensures.throw _
  | some comparison => exact Ensures.pure rfl

theorem ensures_readCriteria (room : Nat) (φ : Phrase) :
    Ensures (readCriteria room φ.document) fun _ left => left = [] := by
  apply Ensures.listOf
  rintro depth items rfl rfl
  have hitems := Ensures.mapM fun φ (_ : φ ∈ items) => ensures_readCriterion depth φ
  apply hitems.mono
  rintro criteria _ rfl
  simp

/-! ## §3 Groups -/

theorem lawful_treeRecord (readChildren : Decoder Notice (List (Tree Criterion))) :
    (treeRecord readChildren).Lawful := by
  refine ⟨by simp [Json.Record.names, treeRecord], by simp [treeRecord], ?_⟩
  simp only [treeRecord, List.forall_mem_cons]
  refine ⟨fun depth d => ?_, fun depth d => ?_, fun depth d => ?_, List.forall_mem_nil _⟩
  all_goals
    apply Yields.bind_pure
    simp

/-- What a member leaves that is a list of groups, where null is one without any. -/
theorem ensures_optional_groups {readGroups : Decoder Notice (List (Tree Criterion))} {depth : Nat}
    {φ : Phrase}
    (h : Ensures (readGroups depth φ.document) fun _ left => left = remarks (childTexts φ)) :
    Ensures (Json.optional readGroups depth φ.document) fun _ left =>
      left = remarks (childTexts φ) := by
  apply Ensures.optional
  · rintro rfl
    rfl
  · exact fun _ => h

/-- A group is remarked upon as its members are, in the order in which they stand. -/
theorem ensures_group {readChildren : Decoder Notice (List (Tree Criterion))} {depth : Nat}
    (hchildren : ∀ φ, Ensures (readChildren depth φ.document) fun _ left =>
      left = remarks (childTexts φ)) (φ : Phrase) :
    Ensures ((treeRecord readChildren).read (depth + 1) φ.document) fun _ left =>
      left = remarks (groupTexts φ) := by
  -- the children and the junction leave their remarks, the criteria none
  have hfields : ∀ field ∈ (treeRecord readChildren).fields, ∀ φ,
      Ensures (field.read depth φ.document) fun _ left => left =
        remarks (memberTexts "children" "junction" field.name (childTexts φ) (ownTexts φ)) := by
    have hcriteria (φ : Phrase) : Ensures (Json.optional readCriteria depth φ.document)
        fun _ left => left = [] :=
      Ensures.optional (fun _ => rfl) fun _ => ensures_readCriteria depth φ
    simp only [treeRecord, List.forall_mem_cons]
    exact ⟨fun φ => (ensures_optional_groups (hchildren φ)).bind_pure,
      fun φ => (hcriteria φ).bind_pure, fun φ => (ensures_readJunction depth φ).bind_pure,
      List.forall_mem_nil _⟩
  -- an unknown member is skipped, whatever words lie inside
  have hunknown : ∀ key ∉ (treeRecord readChildren).names, ∀ φ,
      remarks (memberTexts "children" "junction" key (childTexts φ) (ownTexts φ)) = [] := by
    intro key hkey φ
    simp only [Json.Record.names, treeRecord, List.map_cons, List.map_nil, List.mem_cons,
      not_or] at hkey
    rw [memberTexts_of_ne hkey.1 hkey.2.2.1]
    rfl
  apply (Json.Record.ensures_notices (lawful_treeRecord readChildren) _ hunknown hfields φ).mono
  rintro draft _ ⟨members, hmembers, rfl⟩
  rw [Phrase.members?, Option.filter_eq_some_iff] at hmembers
  rw [groupTexts_of_named hmembers.1, remarks_flatMap]

mutual

theorem ensures_readTree : ∀ (room : Nat) (φ : Phrase),
    Ensures (readTree room φ.document) fun _ left => left = remarks (groupTexts φ)
  | 0, φ => by
    rw [readTree]
    exact Ensures.map (Json.Record.ensures_read_zero _ _)
  | depth + 1, φ => by
    -- the children are read one level deeper, which is where the recursion goes
    let readChildren : Decoder Notice (List (Tree Criterion)) := fun _ children =>
      readTrees depth children
    have hchildren (φ : Phrase) : Ensures (readChildren depth φ.document) fun _ left =>
        left = remarks (childTexts φ) := ensures_readTrees depth φ
    rw [readTree]
    exact (ensures_group hchildren φ).map

/-- The groups in a list are remarked upon one after the other. -/
theorem ensures_readTrees : ∀ (room : Nat) (φ : Phrase),
    Ensures (readTrees room φ.document) fun _ left => left = remarks (childTexts φ)
  | 0, φ => by
    rw [readTrees]
    exact Ensures.listOf fun _ _ h => nomatch h
  | depth + 1, φ => by
    rw [readTrees]
    apply Ensures.listOf
    rintro _ items - rfl
    have hitems := Ensures.mapM fun φ (_ : φ ∈ items) => ensures_readTree depth φ
    rwa [← remarks_flatMap, ← groupTextsEach_eq_flatMap] at hitems

end

/-! ## §4 Filters -/

theorem lawful_requestRecord : requestRecord.Lawful := by
  refine ⟨by decide, by simp [requestRecord], ?_⟩
  simp only [requestRecord, List.forall_mem_cons]
  refine ⟨fun depth d => ?_, fun depth d => ?_, List.forall_mem_nil _⟩
  all_goals
    apply Yields.bind_pure
    simp

theorem ensures_readRequest (room : Nat) (φ : Phrase) :
    Ensures (readRequest room φ.document) fun _ left => left = remarks (requestTexts φ) := by
  apply Ensures.bind_pure
  cases room with
  | zero => exact Json.Record.ensures_read_zero _ _
  | succ depth =>
    -- as for a group, with the names of the two members of a request
    have hfields : ∀ field ∈ requestRecord.fields, ∀ φ,
        Ensures (field.read depth φ.document) fun _ left => left =
          remarks (memberTexts "complexfilters" "union" field.name (childTexts φ) (ownTexts φ)) := by
      simp only [requestRecord, List.forall_mem_cons]
      exact ⟨fun φ => (ensures_optional_groups (ensures_readTrees depth φ)).bind_pure,
        fun φ => (ensures_readJunction depth φ).bind_pure, List.forall_mem_nil _⟩
    have hunknown : ∀ key ∉ requestRecord.names, ∀ φ,
        remarks (memberTexts "complexfilters" "union" key (childTexts φ) (ownTexts φ)) = [] := by
      intro key hkey φ
      simp only [Json.Record.names, requestRecord, List.map_cons, List.map_nil, List.mem_cons,
        not_or] at hkey
      rw [memberTexts_of_ne hkey.1 hkey.2.1]
      rfl
    apply (Json.Record.ensures_notices lawful_requestRecord _ hunknown hfields φ).mono
    rintro draft _ ⟨members, hmembers, rfl⟩
    rw [Phrase.members?, Option.filter_eq_some_iff] at hmembers
    have hnamed : φ.named? ["complexfilters", "union"] = some members := hmembers.1
    rw [requestTexts, hnamed, Option.getD_some, remarks_flatMap]

theorem warnings_logged {α : Type} (reading : ParamReading α) :
    reading.logged.warnings = reading.notices.map Notice.event := by
  refine List.filter_eq_self.mpr fun event hmem => ?_
  obtain ⟨notice, -, rfl⟩ := List.mem_map.mp hmem
  cases notice
  rfl

/-- A filter that can be read at all is remarked upon once for each text for a junction, among those
    that are read, which is not recognized, in the order in which they stand; and these remarks are
    the warnings that are logged. It makes no difference what the limits make of the filter. Evaluating
    it on an entity, or on all incidents in memory, and compiling it for either kind of store, in
    either semantics, logs no warning at all. -/
theorem notices_parseParam {text : String} {r : Request} (hbytes : text.utf8ByteSize ≤ maxBytes)
    (h : (Json.read readRequest text.toList).result = .ok r) :
    (∃ φ : Phrase, isSpaced φ.tokens text.toList = true) ∧
      (∀ φ : Phrase, isSpaced φ.tokens text.toList = true →
        (parseParam (some text)).notices = remarks (requestTexts φ)) ∧
      (parseParam (some text)).logged.warnings =
        (parseParam (some text)).notices.map Notice.event ∧
      (parseParam (some text)).result = (checkLimits r).map some ∧
      (∀ (ε : Type) [HasProperties ε] (entity : ε),
        (evaluate (some r) entity).value = r.accepts entity ∧
          (evaluate (some r) entity).warnings = []) ∧
      (∀ store : MemoryStore, (store.search (some r)).warnings = []) ∧
      ∀ s : Semantics,
        (Relational.Clause.compile s (some r)).value = .ofRequest s r ∧
          (Relational.Clause.compile s (some r)).warnings = [] ∧
          (WideColumn.Scan.compile s (some r)).value = .ofRequest s r ∧
          (WideColumn.Scan.compile s (some r)).warnings = [] := by
  -- the text is short enough to be read, and it reads
  have hparse : parse text = ⟨(Json.read readRequest text.toList).notices, checkLimits r⟩ := by
    rw [parse, if_neg (Nat.not_lt.mpr hbytes)]
    simp only [h]
  refine ⟨Json.exists_phrase_of_read h, fun φ hspaced => ?_, warnings_logged _, ?_,
    fun ε _ entity => ?_, fun store => ?_, fun s => ⟨rfl, Relational.Clause.warnings_compile s _,
      WideColumn.Scan.ofFilter_some s r, WideColumn.Scan.warnings_compile s _⟩⟩
  · rw [Json.read_phrase hspaced] at h
    rw [parseParam, hparse, Json.read_phrase hspaced]
    dsimp only
    -- reading starts with no notices, so what it leaves is what is left in the end
    cases hread : readRequest Json.nestingLimit φ.document [] with
    | error problem notices =>
      rw [hread] at h
      cases h
    | ok request notices =>
      obtain ⟨left, hleft, hremarks⟩ := ensures_readRequest _ φ [] request notices hread
      dsimp only
      rw [hleft, List.nil_append, hremarks]
  · rw [parseParam, hparse]
  · rw [evaluate_eq]
    exact ⟨rfl, rfl⟩
  · rw [store.search_eq]
    rfl

/-- A spelling of a filter with texts for junctions in groups of either form and in members that are
    passed over, some of them recognized, and with a group that is nested too deeply. -/
def remarkableSpelling : Phrase :=
  let criterion : Phrase := .object [
    (plainly "comparison", .text (plainly "equals")), (plainly "junction", .text (plainly "not"))]
  let branch : Phrase := .object [
    (plainly "junction", .text (plainly "nor")),
    (plainly "filters", .list [criterion]),
    (plainly "children", .list [
      .list [.null, .null, .text (plainly "XOR")],
      .object [(plainly "junction", .text (plainly "And"))],
      .object [(plainly "junction", .text [])]])]
  .object [
    (plainly "x", .object [(plainly "junction", .text (plainly "xor"))]),
    (plainly "union", .text (plainly "nor")),
    (plainly "complexfilters", .list [branch,
      Nat.repeat (fun φ => .list [.list [φ]]) 16 (.list [])])]

def remarkableText : List Char :=
  "\x7b\"x\":\x7b\"junction\":\"xor\"\x7d, \"union\":\"nor\",\n".toList ++
    "\"complexfilters\":[\x7b\"junction\":\"nor\",".toList ++
    "\"filters\":[\x7b\"comparison\":\"equals\",\"junction\":\"not\"\x7d],".toList ++
    "\"children\":[[null,null,\"XOR\"],".toList ++
    "\x7b\"junction\":\"And\"\x7d,\x7b\"junction\":\"\"\x7d]\x7d,".toList ++
    List.replicate 33 '[' ++ List.replicate 33 ']' ++ "]\x7d".toList

/-- The same word is remarked upon wherever it stands, and the one that comes last is not lost when
    the filter is refused. -/
theorem notices_parseParam_too_deep :
    let text := String.ofList remarkableText
    text.utf8ByteSize ≤ maxBytes ∧
      (∃ r, (Json.read readRequest text.toList).result = .ok r ∧ r.depth = 17 ∧
        (Relational.Clause.compile .consistent (some r)).warnings = []) ∧
      (parseParam (some text)).result = .error .tooDeep ∧
      (parseParam (some text)).notices =
        [.unknownJunction "nor", .unknownJunction "nor", .unknownJunction "XOR"] ∧
      (parseParam (some text)).logged.warnings = ["nor", "nor", "XOR"].map fun word =>
        ⟨.warn, "Unrecognized junction, defaulting to and", [("junction", word)]⟩ := by
  intro text
  have hbytes : text.utf8ByteSize ≤ maxBytes := by
    rw [utf8ByteSize_ofList]
    decide +kernel
  have hspaced : isSpaced remarkableSpelling.tokens text.toList = true := by
    rw [String.toList_ofList]
    decide +kernel
  -- the text nests one level more than a request may
  have hread : (Json.read readRequest text.toList).result.toOption.map Forest.depth = some 17 := by
    rw [String.toList_ofList]
    decide +kernel
  obtain ⟨r, hr, hdepth⟩ := Option.map_eq_some_iff.mp hread
  replace hr : (Json.read readRequest text.toList).result = .ok r := by
    cases hresult : (Json.read readRequest text.toList).result with
    | error problem =>
      rw [hresult] at hr
      cases hr
    | ok read =>
      rw [hresult] at hr
      exact congrArg Except.ok (Option.some.inj hr)
  obtain ⟨-, hnotices, hwarnings, hresult, -, -, hcompiled⟩ := notices_parseParam hbytes hr
  have hrefused : checkLimits r = .error .tooDeep := by
    rw [checkLimits, hdepth]
    rfl
  -- the remarks are those of the spelling, from left to right
  have hremarks : (parseParam (some text)).notices =
      [.unknownJunction "nor", .unknownJunction "nor", .unknownJunction "XOR"] := by
    rw [hnotices _ hspaced]
    decide +kernel
  refine ⟨hbytes, ⟨r, hr, hdepth, (hcompiled .consistent).2.1⟩, ?_, hremarks, ?_⟩
  · rw [hresult, hrefused]
    rfl
  · rw [hwarnings, hremarks]
    rfl

end IncidentTracker.Filtering
