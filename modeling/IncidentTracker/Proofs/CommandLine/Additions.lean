import IncidentTracker.Proofs.CommandLine.Keeping
import IncidentTracker.Proofs.CommandLine.Words
import IncidentTracker.Proofs.Entity.RoundTrip
import Mathlib.Data.List.Basic

/-!
# Additions from the Command Line

Incidents are added one run after the other, from the words of a command line to the database in a
file. Whatever the texts are, every run prints the incident that was described, under the next
identifier, and a list in the end prints all of them.

Main statement: `endings_submissions`.
-/

namespace IncidentTracker.CommandLine

open Directory (OnlyAt place)
open Relational (Database Location Store numbered numbered_ascending)

/-! ## §1 Submissions -/

/-- What the words of a run say of an incident to add. -/
structure Submission where
  reporter : String
  state : String
  description : String
  kind : String
  /-- The names and values of attributes, as they are given. -/
  attributes : List (String × String)
  /-- When it is said. -/
  now : Int

namespace Submission

/-- The words that say it. -/
def words (x : Submission) : List String :=
  ["--backend=sqlite", "add", "--reporter=" ++ x.reporter, "--state=" ++ x.state,
    "--description=" ++ x.description, "--type=" ++ x.kind] ++
    x.attributes.map fun entry => "--attr=" ++ entry.1 ++ "=" ++ entry.2

/-- Every attribute has a name, and there is no equals sign in it. -/
def IsNamed (x : Submission) : Prop :=
  ∀ entry ∈ x.attributes, '=' ∉ entry.1.toList ∧ ∃ c ∈ entry.1.toList, Text.isBlank c = false

/-- The name of an attribute without the blanks around it. -/
def trimmed (name : String) : String :=
  String.ofList (Text.trimBlank name.toList)

/-- What is said of an incident holds of it, and it has an identifier. Of several attributes under
    one name, the last counts. -/
structure Describes (x : Submission) (id : Int) (i : Incident) : Prop where
  id : i.id = id
  kind : i.kind = x.kind
  description : i.description = x.description
  reporter : i.reporter = x.reporter
  state : i.state = x.state
  attributes : ∀ name, i.attributes.get? name =
    ((x.attributes.filter fun entry => trimmed entry.1 == name).getLast?).map (·.2)

/-- The incident that is described. -/
def new (x : Submission) : NewIncident where
  kind := x.kind
  description := x.description
  reporter := x.reporter
  state := x.state
  attributes := .ofList (x.attributes.map fun entry => (trimmed entry.1, entry.2))

theorem describes_new (x : Submission) (id : Int) : x.Describes id (x.new.withId id) where
  id := rfl
  kind := rfl
  description := rfl
  reporter := rfl
  state := rfl
  -- of several entries of one name the last one counts, on both sides
  attributes name := by
    show (Dictionary.ofList _).get? name = _
    rw [Dictionary.get?_ofList, List.filter_map, List.getLast?_map, Option.map_map]
    rfl

/-! ## §2 The words are read -/

/-- The parameters that a submission gives. -/
def options (x : Submission) : List (Parameter × String) :=
  [(.reporter, x.reporter), (.state, x.state), (.description, x.description), (.kind, x.kind)] ++
    x.attributes.map fun entry => (.attributeEntry, entry.1 ++ "=" ++ entry.2)

theorem words_eq (x : Submission) :
    x.words = commandLine [(.backend, "sqlite")] "add" x.options := by
  simp [words, commandLine, options, optionWord, Parameter.long, String.append_assoc]

/-- Four texts are given, and attributes. -/
theorem cases_of_mem_options {x : Submission} {option : Parameter × String}
    (h : option ∈ x.options) :
    option.1 ∈ [Parameter.reporter, .state, .description, .kind] ∨
      ∃ entry ∈ x.attributes, option = (.attributeEntry, entry.1 ++ "=" ++ entry.2) := by
  rcases List.mem_append.mp h with htext | hattribute
  · have hparameters : ([(.reporter, x.reporter), (.state, x.state), (.description, x.description),
        (.kind, x.kind)] : List (Parameter × String)).map Prod.fst =
        [.reporter, .state, .description, .kind] := rfl
    exact .inl (hparameters ▸ List.mem_map_of_mem htext)
  · obtain ⟨entry, hentry, rfl⟩ := List.mem_map.mp hattribute
    exact .inr ⟨entry, hentry, rfl⟩

theorem mem_parameters_of_mem_options {x : Submission} {option : Parameter × String}
    (h : option ∈ x.options) : option.1 ∈ Verb.parameters .add := by
  have htexts : ∀ parameter ∈ [Parameter.reporter, .state, .description, .kind],
      parameter ∈ Verb.parameters .add := by decide
  obtain htext | ⟨entry, -, rfl⟩ := cases_of_mem_options h
  · exact htexts _ htext
  · simp [Verb.parameters]

theorem takes_options {x : Submission} (h : x.IsNamed) : Takes (.below .add) x.options where
  known option hmem := List.mem_append_left _ (mem_parameters_of_mem_options hmem)
  check option hmem := by
    obtain ⟨parameter, value⟩ := option
    obtain htext | ⟨entry, hentry, heq⟩ := cases_of_mem_options hmem
    · simp only [List.mem_cons, List.not_mem_nil, or_false] at htext
      rcases htext with rfl | rfl | rfl | rfl <;> rfl
    · obtain ⟨rfl, rfl⟩ := Prod.mk.inj heq
      obtain ⟨hequals, hblank⟩ := h entry hentry
      rw [Parameter.check, keyValue?_append hequals hblank]
      rfl
  once := by
    -- only attributes are given several times
    refine List.pairwise_append.mpr ⟨by simp, ?_, ?_⟩
    · exact List.pairwise_map.mpr (List.pairwise_of_forall fun _ _ _ => rfl)
    · intro a _ b hb _
      obtain ⟨entry, -, rfl⟩ := List.mem_map.mp hb
      rfl

theorem value?_options_common {x : Submission} {parameter : Parameter}
    (h : parameter ∈ Parameter.common) : Progress.value? ⟨x.options, none⟩ parameter = none := by
  have hother : ∀ parameter ∈ Parameter.common, parameter ∉ Verb.parameters .add := by decide
  rw [Progress.value?, Option.map_eq_none_iff, List.find?_eq_none]
  intro option hmem heq
  exact hother parameter h (beq_iff_eq.mp heq ▸ mem_parameters_of_mem_options hmem)

theorem newIncident_options {x : Submission} (h : x.IsNamed) :
    newIncident ⟨x.options, none⟩ = x.new := by
  have hgiven : attributesGiven ⟨x.options, none⟩ =
      x.attributes.map fun entry => (trimmed entry.1, entry.2) := by
    -- the other options give no attributes
    have hvalues : Progress.values ⟨x.options, none⟩ .attributeEntry =
        x.attributes.map fun entry => entry.1 ++ "=" ++ entry.2 := by
      simp [Progress.values, options, List.filter_map, Function.comp_def, List.filter_true]
    rw [attributesGiven, hvalues, List.filterMap_map, List.filterMap_eq_map_iff_forall_eq_some]
    intro entry hmem
    obtain ⟨hequals, hblank⟩ := h entry hmem
    exact keyValue?_append hequals hblank entry.2
  rw [newIncident, hgiven]
  rfl

end Submission

/-- What the words say of settings: which kind of store is used, and nothing else. -/
def onlyBackend : CommandSettings :=
  { layer := { backend := some .relational } }

theorem commandSettings_eq {env : Environment} (henv : IsSilent env) {below : Progress}
    (hbelow : ∀ parameter ∈ Parameter.common, below.value? parameter = none) :
    commandSettings env ⟨[(.backend, "sqlite")], none⟩ below = onlyBackend := by
  -- none of the parameters is given below the verb or by the environment
  have hvalue : ∀ parameter ∈ Parameter.common,
      effective? env ⟨[(.backend, "sqlite")], none⟩ below parameter =
        Progress.value? ⟨[(.backend, "sqlite")], none⟩ parameter := by
    intro parameter hmem
    rw [effective?, hbelow parameter hmem, henv parameter hmem]
    cases Progress.value? ⟨[(.backend, "sqlite")], none⟩ parameter <;> rfl
  simp only [commandSettings, hvalue _ (by decide : Parameter.settingsFile ∈ Parameter.common),
    hvalue _ (by decide : Parameter.backend ∈ Parameter.common),
    hvalue _ (by decide : Parameter.databasePath ∈ Parameter.common),
    hvalue _ (by decide : Parameter.region ∈ Parameter.common),
    hvalue _ (by decide : Parameter.table ∈ Parameter.common),
    hvalue _ (by decide : Parameter.endpoint ∈ Parameter.common),
    hvalue _ (by decide : Parameter.semantics ∈ Parameter.common)]
  rfl

theorem takes_backend : Takes .top [(.backend, "sqlite")] where
  known := by decide
  check := by decide
  once := List.pairwise_singleton _ _

/-- The words of a submission are read as what it says. -/
theorem read_words {env : Environment} (henv : IsSilent env) {x : Submission} (h : x.IsNamed) :
    read env x.words =
      .ok ⟨onlyBackend, .add x.new, attributesGiven ⟨x.options, none⟩⟩ := by
  -- the reporter and the state are always among the options
  have hrequired : ∀ parameter ∈ Verb.required .add, ∃ option ∈ x.options,
      option.1 = parameter := by
    simp [Verb.required, Submission.options]
  have hverb : ("add", Verb.add) ∈ Verb.all := by decide
  rw [x.words_eq, read_commandLine henv hverb takes_backend (Submission.takes_options h) hrequired,
    commandSettings_eq henv fun parameter => Submission.value?_options_common, commandOf,
    Submission.newIncident_options h]

/-- The words that ask for a list. -/
def listWords : List String :=
  ["--backend=sqlite", "list"]

theorem read_listWords {env : Environment} (henv : IsSilent env) :
    read env listWords = .ok ⟨onlyBackend, .list none, []⟩ := by
  have hverb : ("list", Verb.list) ∈ Verb.all := by decide
  have hwords : listWords = commandLine [(.backend, "sqlite")] "list" [] := by decide
  have htakes : Takes (.below .list) [] := ⟨by simp, by simp, .nil⟩
  rw [hwords, read_commandLine henv hverb takes_backend htakes (by simp [Verb.required]),
    commandSettings_eq henv fun _ _ => rfl]
  rfl

/-! ## §3 One run after the other -/

/-- The location at which a database is kept if no path is given. -/
def usualLocation : Location :=
  .ofPath Layer.defaultDatabasePath

/-- A directory that had nothing in it when the first of some incidents was added. -/
def Collected (news : List NewIncident) (d : Directory) : Prop :=
  ∃ db, Kept usualLocation Layer.defaultDatabasePath db d ∧
    Store.Holds { semantics := .legacy, database := db } news ∧
    OnlyAt (place Layer.defaultDatabasePath) .empty d

theorem collected_empty : Collected [] .empty := by
  refine ⟨begun usualLocation, ?_, Store.holds_fresh .legacy true 0, .refl _ _⟩
  refine (kept_or_refused rfl rfl rfl).resolve_right fun hrefused => ?_
  -- the first run can use it
  obtain ⟨e, d', hinit, -⟩ := hrefused .legacy 0
  have hopens : (IncidentStore.initRelational usualLocation .legacy .empty 0).1 =
      .ok (.relational usualLocation (.fresh .legacy true 0)) := rfl
  rw [hinit] at hopens
  cases hopens

variable {news : List NewIncident} {d : Directory} {env : Environment}

theorem environmentIn_of_onlyAt (h : OnlyAt (place Layer.defaultDatabasePath) .empty d)
    (env : Environment) : environmentIn d env = some env := by
  rw [environmentIn_eq h (by decide)]
  rfl

theorem exists_chosen (h : OnlyAt (place Layer.defaultDatabasePath) .empty d) :
    ∃ settings, Chosen d onlyBackend usualLocation settings ∧ settings.semantics = .legacy := by
  refine ⟨⟨⟨.relational, Layer.defaultDatabasePath, none⟩, .legacy⟩, ⟨?_, rfl, rfl⟩, rfl⟩
  rw [settingsFor_eq h (by decide) (by simp [onlyBackend])]
  rfl

/-- A submission is answered with the incident it describes, under the next identifier. -/
theorem run_words (h : Collected news d) (henv : IsSilent env) {x : Submission}
    (hx : x.IsNamed) :
    ∃ d', run d env x.words x.now = (.answered (x.new.withId (news.length + 1)).toJson, d') ∧
      Collected (news ++ [x.new]) d' := by
  obtain ⟨db, hkept, hholds, honly⟩ := h
  obtain ⟨settings, hchosen, -⟩ := exists_chosen honly
  obtain ⟨d', hadd, hkept', honly'⟩ := runAdd_of_kept hkept hchosen x.now x.new
  -- the identifiers follow the number of incidents so far
  have hinsert : (db.insert x.new).1 = x.new.withId (news.length + 1) := by
    rw [← hholds.lastId]
    rfl
  refine ⟨d', ?_, _, hkept', hholds.afterAdd x.new, honly.trans honly'⟩
  simp only [run, environmentIn_of_onlyAt honly, read_words henv hx, runCommand, hadd, hinsert]

/-- A list prints what has been added, in order. -/
theorem run_listWords (h : Collected news d) (henv : IsSilent env) (now : Int) :
    (run d env listWords now).1 = .answered (.list ((numbered 1 news).map Incident.toJson)) := by
  obtain ⟨db, hkept, hholds, honly⟩ := h
  obtain ⟨settings, hchosen, hsemantics⟩ := exists_chosen honly
  have hfilter : (Filtering.parseParam none).result = .ok none := rfl
  obtain ⟨d', hlist, -⟩ := runList_of_kept hkept hchosen now hfilter
  -- the list is in order already, so sorting it once more changes nothing
  have hsorted : sortById (numbered 1 news) = numbered 1 news :=
    sortById_of_ascending ((numbered_ascending 1 news).imp Int.le_of_lt)
  rw [hsemantics, listAnswer, hholds.list_eq] at hlist
  simp only [run, environmentIn_of_onlyAt honly, read_listWords henv, runCommand, hlist]
  simp [Store.whenOpen, Except.mapError, Except.map, hsorted]

/-- The runs that submit some incidents and then ask for a list. -/
def launches (env : Environment) (submissions : List Submission) (now : Int) : List Launch :=
  (submissions.map fun x => ⟨env, x.words, x.now⟩) ++ [⟨env, listWords, now⟩]

theorem endings_launches (h : Collected news d) (henv : IsSilent env)
    {submissions : List Submission} (hnamed : ∀ x ∈ submissions, x.IsNamed) (now : Int) :
    endings d (launches env submissions now) =
      (numbered (news.length + 1) (submissions.map Submission.new)).map
          (fun i => .answered i.toJson) ++
        [.answered (.list
          ((numbered 1 (news ++ submissions.map Submission.new)).map Incident.toJson))] := by
  induction submissions generalizing news d with
  | nil =>
    rw [List.map_nil, List.append_nil, ← run_listWords h henv now]
    rfl
  | cons x submissions ih =>
    -- after the first run, its incident is one of those that are there
    obtain ⟨d', hrun, hcollected⟩ := run_words h henv (hnamed x List.mem_cons_self)
    have hrest := ih hcollected fun other hmem => hnamed other (List.mem_cons_of_mem x hmem)
    have hstep : endings d (launches env (x :: submissions) now) =
        .answered (x.new.withId (news.length + 1)).toJson ::
          endings d' (launches env submissions now) := by
      rw [launches, List.map_cons, List.cons_append, endings, hrun]
      rfl
    rw [hstep, hrest, List.map_cons, numbered, List.append_assoc, List.singleton_append,
      List.length_append]
    rfl

/-! ## §4 What is printed -/

variable {ν : Type}

/-- What a run prints ends with a line feed, which is blank. -/
theorem isSpaced_output (answer : Json.Value) :
    Json.isSpaced answer.phrase.tokens (Ending.answered answer).output.toList = true := by
  rw [Ending.output, String.toList_append]
  exact Json.isSpaced_append_blanks (by decide) (Json.isSpaced_pretty answer)

/-- Any number of incidents are added, one run after the other, in a directory that is empty and an
    environment that says nothing about settings. Every run succeeds. Each prints the incident that
    its words describe, with its place as identifier, as long as there are identifiers; and a list
    prints them all, in order. -/
theorem endings_submissions (henv : IsSilent env) {submissions : List Submission}
    (hnamed : ∀ x ∈ submissions, x.IsNamed)
    (hcount : submissions.length ≤ 9223372036854775807) (now : Int) :
    let ends := endings .empty (launches env submissions now)
    ends.length = submissions.length + 1 ∧ (∀ e ∈ ends, e.code = 0) ∧
    ∃ incidents : List Incident, incidents.length = submissions.length ∧
      (∀ (n : Nat) (x : Submission), submissions[n]? = some x → ∃ (i : Incident) (e : Ending),
        incidents[n]? = some i ∧ ends[n]? = some e ∧
        x.Describes (n + 1) i ∧
        (Json.read readIncident e.output.toList : Json.Reading ν Incident) = ⟨[], .ok i⟩) ∧
      ∃ e : Ending, ends[submissions.length]? = some e ∧
        (Json.read (Json.listOf readIncident) e.output.toList :
          Json.Reading ν (List Incident)) = ⟨[], .ok incidents⟩ := by
  intro ends
  -- the endings as a list: one for each incident that is numbered, then the one of the list
  have hends := endings_launches collected_empty henv hnamed now
  rw [List.nil_append, show ((([] : List NewIncident).length : Int) + 1) = 1 from rfl] at hends
  have hlength : (numbered 1 (submissions.map Submission.new)).length = submissions.length := by
    rw [Relational.length_numbered, List.length_map]
  -- the numbers stay below the bound on the runs, so each of them reads back
  have hwords : ∀ i ∈ numbered 1 (submissions.map Submission.new),
      Text.Decimal.isWord i.id = true := by
    intro i hi
    obtain ⟨hlow, hhigh⟩ := Relational.mem_numbered hi
    rw [List.length_map] at hhigh
    simp only [Text.Decimal.isWord, Bool.and_eq_true, decide_eq_true_eq]
    omega
  refine ⟨by simp [ends, hends, hlength], ?_, _, hlength, fun n x hx => ?_, ?_⟩
  · intro e he
    simp only [ends, hends, List.mem_append, List.mem_map, List.mem_singleton] at he
    obtain ⟨i, -, rfl⟩ | rfl := he <;> rfl
  · -- the incident with a number is the one described in that place
    have hi : (numbered 1 (submissions.map Submission.new))[n]? =
        some (x.new.withId (n + 1)) := by
      rw [Relational.getElem?_numbered, List.getElem?_map, hx, Int.add_comm]
      rfl
    have hn : n < submissions.length := (List.getElem?_eq_some_iff.mp hx).1
    refine ⟨_, _, hi, ?_, x.describes_new (n + 1),
      Incident.read_of_isSpaced (hwords _ (List.mem_of_getElem? hi)) (isSpaced_output _)⟩
    show (endings .empty (launches env submissions now))[n]? = _
    rw [hends, List.getElem?_append_left (by simpa [hlength] using hn), List.getElem?_map, hi]
    rfl
  · -- the list is asked for after all submissions
    refine ⟨_, ?_, readIncidents_of_isSpaced hwords (isSpaced_output _)⟩
    show (endings .empty (launches env submissions now))[submissions.length]? = _
    rw [hends, List.getElem?_append_right (by simp [hlength])]
    simp [hlength]

/-- Equals signs, dashes and quotation marks in texts, and an attribute that is given twice. -/
theorem endings_submissions_twice :
    let x : Submission := ⟨"--state=x", "\"\\\n", "", "Größe=1",
      [(" a b ", "=1"), ("\u00a0a b", "2\u2028"), ("-", "")], 10⟩
    ∃ (i : Incident) (e : Ending),
      (endings .empty (launches .empty [x, x] 20))[1]? = some e ∧ i.id = 2 ∧
      i.attributes.get? "a b" = some "2\u2028" ∧
      (Json.read readIncident e.output.toList : Json.Reading Empty Incident) = ⟨[], .ok i⟩ := by
  intro x
  -- every attribute name has a character that trimming keeps
  have hx : x.IsNamed := by
    intro entry hmem
    simp only [x, List.mem_cons, List.not_mem_nil, or_false] at hmem
    rcases hmem with rfl | rfl | rfl
    · exact ⟨by decide, 'a', by decide, by decide⟩
    · exact ⟨by decide, 'a', by decide, by decide⟩
    · exact ⟨by decide, '-', by decide, by decide⟩
  have hsilent : IsSilent .empty := by
    simp only [IsSilent]
    decide
  have hnamed : ∀ y ∈ [x, x], y.IsNamed := by simp [hx]
  obtain ⟨-, -, incidents, -, hruns, -⟩ :=
    endings_submissions (ν := Empty) hsilent hnamed (by decide) 20
  obtain ⟨i, e, -, he, hdescribes, hread⟩ := hruns 1 x rfl
  refine ⟨i, e, he, hdescribes.id, ?_, hread⟩
  rw [hdescribes.attributes]
  decide

end IncidentTracker.CommandLine
