import IncidentTracker.CommandLine.Command

/-!
# Command Lines Written Out

A parameter can be given in one word with its value, whatever the value is: equals signs, dashes and
blanks in it are part of it. A command line that gives all its parameters that way, some before the
verb and some after it, is read as these parameters.

Main statements: `readWords_optionWords` and `read_commandLine`.
-/

namespace IncidentTracker.CommandLine

/-! ## §1 Words with values -/

/-- The word that gives a parameter a value. -/
def optionWord (option : Parameter × String) : String :=
  "--" ++ option.1.long ++ "=" ++ option.2

/-- A text is split at its first equals sign. -/
private theorem split_equals {name : List Char} (h : '=' ∉ name) (value : List Char) :
    (name ++ '=' :: value).takeWhile (· ≠ '=') = name ∧
      (name ++ '=' :: value).dropWhile (· ≠ '=') = '=' :: value := by
  have hname : ∀ c ∈ name, decide (c ≠ '=') = true := fun c hc =>
    decide_eq_true fun heq => h (heq ▸ hc)
  rw [List.takeWhile_append_of_pos hname, List.dropWhile_append_of_pos hname]
  simp

theorem Word.of_optionWord (parameter : Parameter) (value : String) :
    Word.of (optionWord (parameter, value)) = .long parameter.long (some value) := by
  have hname : '=' ∉ parameter.long.toList := by
    cases parameter <;> decide
  have hchars : (optionWord (parameter, value)).toList =
      '-' :: '-' :: (parameter.long.toList ++ '=' :: value.toList) := by
    simp [optionWord, String.toList_append]
  -- two dashes begin a parameter only if something follows them
  obtain ⟨c, cs, hrest⟩ : ∃ c cs, parameter.long.toList ++ '=' :: value.toList = c :: cs :=
    List.exists_cons_of_ne_nil (by simp)
  obtain ⟨htake, hdrop⟩ := split_equals hname value.toList
  rw [hrest] at hchars htake hdrop
  simp only [Word.of, hchars, htake, hdrop, valueAfterEquals, String.ofList_toList]

/-- The name and the value of an attribute. -/
theorem keyValue?_append {key : String} (hequals : '=' ∉ key.toList)
    (hblank : ∃ c ∈ key.toList, Text.isBlank c = false) (value : String) :
    keyValue? (key ++ "=" ++ value) =
      some (String.ofList (Text.trimBlank key.toList), value) := by
  have hchars : (key ++ "=" ++ value).toList = key.toList ++ '=' :: value.toList := by
    simp [String.toList_append]
  obtain ⟨htake, hdrop⟩ := split_equals hequals value.toList
  -- some character is no blank, so trimming leaves something
  have htrim : (Text.trimBlank key.toList).isEmpty = false := by
    rw [List.isEmpty_eq_false_iff, Ne, Text.trimBlank_eq_nil_iff]
    obtain ⟨c, hc, hnot⟩ := hblank
    exact fun hall => by simp [hall c hc] at hnot
  simp only [keyValue?, hchars, htake, hdrop, htrim]
  simp

/-! ## §2 Levels -/

/-- A parameter that is known on a level is found there by its name. -/
theorem ofLong?_long {level : Level} {parameter : Parameter} (h : parameter ∈ level.parameters) :
    level.ofLong? parameter.long = some parameter := by
  have hall : ∀ level ∈ [Level.top, .below .list, .below .add, .below .explain],
      ∀ parameter ∈ level.parameters, level.ofLong? parameter.long = some parameter := by decide
  cases level with
  | top => exact hall _ (by decide) parameter h
  | below verb => cases verb <;> exact hall _ (by decide) parameter h

variable {level : Level} {given : List (Parameter × String)}

theorem accept_eq {p : Progress} {parameter : Parameter} {value : String}
    (honce : ∀ entry ∈ p.accepted, entry.1 = parameter → parameter.isRepeatable = true)
    (hcheck : parameter.check value = .ok ()) :
    p.accept parameter value = .ok { p with accepted := p.accepted ++ [(parameter, value)] } := by
  -- the option may be repeated, or no value for it has been accepted yet
  have hfree : (!parameter.isRepeatable && (p.value? parameter).isSome) = false := by
    cases hrepeat : parameter.isRepeatable with
    | true => rfl
    | false =>
      have hnone : p.value? parameter = none := by
        rw [Progress.value?, Option.map_eq_none_iff, List.find?_eq_none]
        intro entry hmem heq
        rw [honce entry hmem (by simpa using heq)] at hrepeat
        cases hrepeat
      rw [hnone]
      rfl
  rw [Progress.accept, hfree, hcheck]
  rfl

/-- Parameters that a level takes: it knows them, their values pass, and none is given twice that
    may only be given once. -/
structure Takes (level : Level) (given : List (Parameter × String)) : Prop where
  known : ∀ option ∈ given, option.1 ∈ level.parameters
  check : ∀ option ∈ given, option.1.check option.2 = .ok ()
  once : given.Pairwise fun a b => a.1 = b.1 → b.1.isRepeatable = true

/-- Words that give a level parameters that it takes are read as that. -/
theorem readWords_optionWords (accepted : List (Parameter × String))
    (h : Takes level (accepted ++ given)) (rest : List String) :
    readWords level ⟨accepted, none⟩ (given.map optionWord ++ rest) =
      readWords level ⟨accepted ++ given, none⟩ rest := by
  -- one word after the other joins what has been accepted
  induction given generalizing accepted with
  | nil => simp
  | cons option given ih =>
    obtain ⟨parameter, value⟩ := option
    have hmem : (parameter, value) ∈ accepted ++ (parameter, value) :: given := by simp
    have hjoined : accepted ++ (parameter, value) :: given =
        accepted ++ [(parameter, value)] ++ given := by simp
    have hfirst : ∀ entry ∈ accepted, entry.1 = parameter → parameter.isRepeatable = true :=
      fun entry hentry => (List.pairwise_append.mp h.once).2.2 entry hentry _ List.mem_cons_self
    have htake : Progress.takeLong ⟨accepted, none⟩ level parameter.long (some value) =
        .ok ⟨accepted ++ [(parameter, value)], none⟩ := by
      simp only [Progress.takeLong, ofLong?_long (h.known _ hmem)]
      exact accept_eq hfirst (h.check _ hmem)
    have hstep : readWords level ⟨accepted, none⟩
          (optionWord (parameter, value) :: (given.map optionWord ++ rest)) =
        readWords level ⟨accepted ++ [(parameter, value)], none⟩
          (given.map optionWord ++ rest) := by
      rw [readWords.eq_def]
      simp only [Word.of_optionWord, htake]
      rfl
    rw [hjoined] at h ⊢
    rw [List.map_cons, List.cons_append, hstep, ih _ h]

/-! ## §3 Command lines -/

/-- No variable of an environment says anything about settings. -/
def IsSilent (env : Environment) : Prop :=
  ∀ parameter ∈ Parameter.common, variableValue? env parameter = none

theorem IsSilent.variableValue? {env : Environment} (h : IsSilent env) (parameter : Parameter) :
    variableValue? env parameter = none := by
  by_cases hcommon : parameter ∈ Parameter.common
  · exact h parameter hcommon
  · -- no other parameter has a variable
    have hname : parameter.variableName? = none := by
      revert hcommon
      cases parameter <;> decide
    rw [CommandLine.variableValue?, hname]
    rfl

theorem finish_eq {env : Environment} (h : IsSilent env) (level : Level)
    (accepted : List (Parameter × String)) :
    finish env level ⟨accepted, none⟩ = .ok ⟨accepted, none⟩ := by
  -- no variable says anything, so none can be refused
  have hcheck (p : Progress) (parameters : List Parameter) :
      checkVariables env p parameters = .ok () := by
    induction parameters with
    | nil => rfl
    | cons parameter parameters ih =>
      rw [checkVariables, h.variableValue? parameter, ih]
      cases p.value? parameter <;> rfl
  simp only [finish, Progress.settle, hcheck]
  rfl

/-- The name of a verb is a plain word. -/
theorem readWords_verb {name : String} {verb : Verb} (h : (name, verb) ∈ Verb.all)
    (accepted : List (Parameter × String)) (words : List String) :
    readWords .top ⟨accepted, none⟩ (name :: words) =
      .ok (⟨accepted, none⟩, some (verb, words)) := by
  -- a verb looks like no option and is not the word for help
  have hall : ∀ entry ∈ Verb.all, Word.of entry.1 = .plain ∧ (entry.1 == "help") = false ∧
      Verb.ofName? entry.1 = some entry.2 := by decide
  obtain ⟨hplain, hhelp, hverb⟩ := hall _ h
  rw [readWords.eq_def]
  simp [hplain, hhelp, hverb]

/-- A command line that gives every parameter in one word with its value. -/
def commandLine (above : List (Parameter × String)) (name : String)
    (below : List (Parameter × String)) : List String :=
  above.map optionWord ++ name :: below.map optionWord

/-- A command line that is written out is read as what it says. -/
theorem read_commandLine {env : Environment} (henv : IsSilent env) {name : String} {verb : Verb}
    (hverb : (name, verb) ∈ Verb.all) {above below : List (Parameter × String)}
    (habove : Takes .top above) (hbelow : Takes (.below verb) below)
    (hrequired : ∀ parameter ∈ verb.required, ∃ option ∈ below, option.1 = parameter) :
    read env (commandLine above name below) =
      .ok ⟨commandSettings env ⟨above, none⟩ ⟨below, none⟩, commandOf verb ⟨below, none⟩,
        attributesGiven ⟨below, none⟩⟩ := by
  -- above the verb: the options are taken one by one, then the verb stops the reading
  have htop : readWords .top {} (commandLine above name below) =
      .ok (⟨above, none⟩, some (verb, below.map optionWord)) := by
    rw [commandLine, ← readWords_verb hverb above]
    exact readWords_optionWords [] habove _
  -- below it: the options are all there is
  have hwords : readWords (.below verb) {} (below.map optionWord) = .ok (⟨below, none⟩, none) := by
    have hread := readWords_optionWords [] hbelow []
    rwa [List.append_nil] at hread
  -- every required option is among them, so none is reported as missing
  have hgiven : (verb.required.any fun parameter =>
      ((⟨below, none⟩ : Progress).value? parameter).isNone) = false := by
    rw [List.any_eq_false]
    intro parameter hmem
    obtain ⟨option, hoption, hparameter⟩ := hrequired parameter hmem
    have hfound : ((⟨below, none⟩ : Progress).value? parameter).isSome := by
      rw [Progress.value?, Option.isSome_map, List.find?_isSome]
      exact ⟨option, hoption, by simpa using hparameter⟩
    simp [Option.isSome_iff_ne_none.mp hfound]
  have hlower : readBelow env verb (below.map optionWord) = .ok ⟨below, none⟩ := by
    simp only [readBelow, hwords, finish_eq henv, hgiven, bind, Except.bind]
    rfl
  simp only [read, htop, hlower, finish_eq henv, bind, Except.bind]
  rfl

end IncidentTracker.CommandLine
