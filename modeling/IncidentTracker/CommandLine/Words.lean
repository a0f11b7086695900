import IncidentTracker.CommandLine.Parameter

/-!
# Words of a Command Line

The words of a command line are read from left to right on two levels: up to the verb, and from
the verb on. On each level some parameters are known, and each may be given once, or repeatedly if
it is of that kind.

A value that stands in the same word as its parameter is accepted at once. One that stands in a
word of its own is accepted only when the next parameter comes or the level ends, and the level up
to the verb ends after the other one. So of two mistakes the later one may be the one that is
reported.
-/

namespace IncidentTracker.CommandLine

/-! ## §1 Words -/

/-- A word as it looks. -/
inductive Word where
  /-- The mark after which no parameter is recognised. -/
  | separator
  /-- A long name, perhaps with a value. -/
  | long (name : String) (value : Option String)
  /-- Letters, or one letter with a value. -/
  | letters (first : Char) (rest : List Char)
  /-- Anything else. -/
  | plain
  deriving DecidableEq, Repr

/-- The value that follows an equals sign. -/
def valueAfterEquals : List Char → Option String
  | [] => none
  | _ :: value => some (String.ofList value)

/-- How a word looks. -/
def Word.of (text : String) : Word :=
  match text.toList with
  | ['-', '-'] => .separator
  | '-' :: '-' :: rest =>
    .long (String.ofList (rest.takeWhile (· ≠ '='))) (valueAfterEquals (rest.dropWhile (· ≠ '=')))
  | '-' :: first :: rest => .letters first rest
  | _ => .plain

/-- The value that follows a letter in one word, if there is one; an equals sign in front of it
    is dropped. -/
def attachedValue : List Char → Option String
  | [] => none
  | '=' :: value => some (String.ofList value)
  | value => some (String.ofList value)

/-! ## §2 Levels -/

/-- The levels of a command line. -/
inductive Level where
  /-- Up to the verb. -/
  | top
  /-- From a verb on. -/
  | below (verb : Verb)
  deriving DecidableEq, Repr

/-- The parameters known on a level. -/
def Level.parameters : Level → List Parameter
  | .top => Parameter.common
  | .below verb => verb.parameters ++ Parameter.common

/-- The parameter with a long name on a level. -/
def Level.ofLong? (level : Level) (name : String) : Option Parameter :=
  level.parameters.find? fun parameter => parameter.long == name

/-- The parameter with a one-letter name on a level. -/
def Level.ofLetter? (level : Level) (letter : Char) : Option Parameter :=
  level.parameters.find? fun parameter => parameter.letter? == some letter

/-- What a name that is no parameter asks for. -/
def Level.asked (level : Level) (isHelp isVersion : Bool) : Stop :=
  if isHelp then .help
  else if isVersion && level == .top then .version
  else .wordUnknown

/-! ## §3 Reading a level -/

/-- What has been read of a level. -/
structure Progress where
  /-- The values that are accepted, in order. -/
  accepted : List (Parameter × String) := []
  /-- A parameter whose value has still to be accepted, or still has to come. -/
  pending : Option (Parameter × Option String) := none
  deriving DecidableEq, Repr

namespace Progress

/-- The value accepted for a parameter. -/
def value? (p : Progress) (parameter : Parameter) : Option String :=
  (p.accepted.find? fun entry => entry.1 == parameter).map (·.2)

/-- All values accepted for a parameter. -/
def values (p : Progress) (parameter : Parameter) : List String :=
  (p.accepted.filter fun entry => entry.1 == parameter).map (·.2)

/-- Accepts a value for a parameter. -/
def accept (p : Progress) (parameter : Parameter) (value : String) : Except Stop Progress :=
  if !parameter.isRepeatable && (p.value? parameter).isSome then .error .repeated
  else do
    parameter.check value
    return { p with accepted := p.accepted ++ [(parameter, value)] }

/-- Accepts the value that has still to be accepted. -/
def settle (p : Progress) : Except Stop Progress :=
  match p.pending with
  | none => .ok p
  | some (_, none) => .error .valueMissing
  | some (parameter, some value) => { p with pending := none }.accept parameter value

/-- Goes on with a parameter, whose value may have come in the same word. -/
def take (p : Progress) (parameter : Parameter) (value : Option String) :
    Except Stop Progress := do
  let p ← p.settle
  match value with
  | some value => p.accept parameter value
  | none => return { p with pending := some (parameter, none) }

/-- Goes on with a name that is no parameter. -/
def stopFor (p : Progress) (asked : Stop) : Except Stop Progress := do
  if asked.isWanted then
    let _ ← p.settle
  throw asked

/-- Goes on with a long name. -/
def takeLong (p : Progress) (level : Level) (name : String) (value : Option String) :
    Except Stop Progress :=
  match level.ofLong? name with
  | some parameter => p.take parameter value
  | none =>
    let asked := level.asked (name == "help") (name == "version")
    if asked.isWanted && value.isSome then throw .valueUnwanted else p.stopFor asked

/-- Goes on with a word of letters. -/
def takeLetters (p : Progress) (level : Level) (first : Char) (rest : List Char) :
    Except Stop Progress :=
  match level.ofLetter? first with
  | some parameter => p.take parameter (attachedValue rest)
  | none => p.stopFor (level.asked (first == 'h') (first == 'V'))

end Progress

/-- What comes of a word after the separator. -/
def stopAfterSeparator (level : Level) (word : String) : Stop :=
  if level == .top && (Verb.ofName? word).isNone && word != "help" then .verbUnknown
  else .wordUnknown

/-- What comes of asking for help on some topics. -/
def stopForTopics : List String → Stop
  | [] => .help
  | [topic] => if (Verb.ofName? topic).isSome || topic == "help" then .help else .verbUnknown
  | _ => .verbUnknown

/-- Reads the words of a level, up to the verb if there is one, which is given back with the
    words that follow it. -/
def readWords (level : Level) : Progress → List String →
    Except Stop (Progress × Option (Verb × List String))
  | p, [] => .ok (p, none)
  | p, word :: words =>
    match Word.of word with
    | .separator =>
      -- no level takes a plain word, so nothing can follow
      match words with
      | [] => .ok (p, none)
      | next :: _ => .error (stopAfterSeparator level next)
    | .long name value => do readWords level (← p.takeLong level name value) words
    | .letters first rest => do readWords level (← p.takeLetters level first rest) words
    | .plain =>
      match p.pending with
      -- a parameter waits for its value, even if the word is also the name of a verb
      | some (parameter, none) =>
        readWords level { p with pending := some (parameter, some word) } words
      | _ =>
        match level with
        | .below _ => .error .wordUnknown
        | .top =>
          if word == "help" then .error (stopForTopics words)
          else
            match Verb.ofName? word with
            | some verb => .ok (p, some (verb, words))
            | none => .error .verbUnknown

end IncidentTracker.CommandLine
