import IncidentTracker.CommandLine.Words

/-!
# Commands

The command that the words of a command line and the variables of the environment make up. A word
after the verb counts more than one before it, and any word more than a variable. Yet a variable
is checked wherever a level does without it.
-/

namespace IncidentTracker.CommandLine

/-- Variables with their values. -/
abbrev Environment := Dictionary String

/-- What to do. -/
inductive Command where
  | list (filter : Option String)
  | add (new : NewIncident)
  | explain (filter : String)
  deriving DecidableEq

/-- A command line that has been read. -/
structure Invocation where
  settings : CommandSettings
  command : Command
  /-- The attributes of a new incident, as they were given. -/
  attributes : List (String × String)
  deriving DecidableEq

/-! ## §1 Levels -/

/-- The value that the environment gives a parameter. -/
def variableValue? (env : Environment) (parameter : Parameter) : Option String :=
  parameter.variableName?.bind env.get?

/-- Checks the variables of the parameters that no word gave a value. -/
def checkVariables (env : Environment) (p : Progress) : List Parameter → Except Stop Unit
  | [] => .ok ()
  | parameter :: rest => do
    match p.value? parameter, variableValue? env parameter with
    | none, some value => parameter.check value
    | _, _ => pure ()
    checkVariables env p rest

/-- The end of a level: what is pending is accepted and the variables are checked. -/
def finish (env : Environment) (level : Level) (p : Progress) : Except Stop Progress := do
  let p ← p.settle
  checkVariables env p level.parameters
  return p

/-- Reads the words from a verb on. -/
def readBelow (env : Environment) (verb : Verb) (words : List String) : Except Stop Progress := do
  let (p, _) ← readWords (.below verb) {} words
  let p ← finish env (.below verb) p
  if verb.required.any fun parameter => (p.value? parameter).isNone then throw .requiredMissing
  return p

/-- Why words without a verb are no command. -/
def stopWithoutVerb (env : Environment) (p : Progress) : Stop :=
  if p.accepted.isEmpty && Parameter.common.all fun q => (variableValue? env q).isNone then
    .nothingSaid
  else .verbMissing

/-! ## §2 Commands -/

/-- The value of a parameter: from a word after the verb, or before it, or from a variable. -/
def effective? (env : Environment) (top below : Progress) (parameter : Parameter) :
    Option String :=
  below.value? parameter <|> top.value? parameter <|> variableValue? env parameter

/-- What a command line says about settings, from `--config` to `--filter-semantics`. -/
def commandSettings (env : Environment) (top below : Progress) : CommandSettings :=
  let value := effective? env top below
  { file := value .settingsFile
    layer :=
      { backend := (value .backend).bind Backend.ofWord?
        databasePath := value .databasePath
        region := value .region
        table := value .table
        endpoint := value .endpoint
        semantics := (value .semantics).bind Filtering.Semantics.ofWord? } }

/-- The kind of a new incident if none is given. -/
def defaultKind : String := "Incident"

/-- The attributes given to a new incident, in order. -/
def attributesGiven (p : Progress) : List (String × String) :=
  (p.values .attributeEntry).filterMap keyValue?

/-- The new incident that some words describe; of several attributes of one name the last
    counts. -/
def newIncident (p : Progress) : NewIncident where
  kind := (p.value? .kind).getD defaultKind
  description := (p.value? .description).getD ""
  reporter := (p.value? .reporter).getD ""
  state := (p.value? .state).getD ""
  attributes := .ofList (attributesGiven p)

/-- The command that a verb and the words after it make up. -/
def commandOf (verb : Verb) (p : Progress) : Command :=
  match verb with
  | .list => .list (p.value? .filter)
  | .add => .add (newIncident p)
  | .explain => .explain ((p.value? .filter).getD "")

/-- Reads a command line. -/
def read (env : Environment) (words : List String) : Except Stop Invocation := do
  let (top, chosen) ← readWords .top {} words
  match chosen with
  | some (verb, rest) =>
    -- what is wrong below the verb is reported before what is wrong above it
    let below ← readBelow env verb rest
    let top ← finish env .top top
    return ⟨commandSettings env top below, commandOf verb below, attributesGiven below⟩
  | none =>
    let top ← finish env .top top
    throw (stopWithoutVerb env top)

end IncidentTracker.CommandLine
