import IncidentTracker.CommandLine.Command
import IncidentTracker.Text.Alphanumeric

/-!
# Files of Variables

A file of variables has one variable a line, with a name, an equals sign and a value. A value may
be quoted, may go on over several lines inside quotes, and may refer to other variables; a comment
begins with a number sign. The file adds to an environment and replaces nothing in it. Reading
stops at the first line that makes no sense, and what came before it counts. A value with a null
character cannot be added, and then there is no environment to go on with.
-/

namespace IncidentTracker.CommandLine

/-! ## §1 Lines -/

/-- Where the end of a line leaves the text. -/
inductive LineState where
  | complete
  /-- Behind a blank, where a number sign begins a comment. -/
  | blank
  | escape
  | strong
  | strongEscape
  | weak
  | weakEscape
  | comment
  deriving DecidableEq, Repr

/-- The state that a quotation mark, a backslash or any other character leads to. -/
def LineState.opened (c : Char) : LineState :=
  if c = '\\' then .escape
  else if c = '"' then .weak
  else if c = '\'' then .strong
  else .complete

/-- The state after a character. -/
def LineState.step (state : LineState) (c : Char) : LineState :=
  match state with
  | .complete =>
    if Text.isBlank c && c != '\n' && c != '\r' then .blank else .opened c
  | .blank => if c = '#' then .comment else .opened c
  | .escape => .complete
  | .strong => if c = '\\' then .strongEscape else if c = '\'' then .complete else .strong
  | .strongEscape => .strong
  | .weak => if c = '\\' then .weakEscape else if c = '"' then .complete else .weak
  | .weakEscape => .weak
  | .comment => .comment

/-- The state after a line, and the line up to a comment. -/
def scanLine : LineState → List Char → LineState × List Char
  | state, [] => (state, [])
  | state, c :: rest =>
    match state.step c with
    | .comment => (.comment, [])
    | next =>
      let (final, kept) := scanLine next rest
      (final, c :: kept)

/-- The lines of a text, each with the line feed that ends it. -/
def rawLines : List Char → List (List Char)
  | [] => []
  | '\n' :: rest => ['\n'] :: rawLines rest
  | c :: rest =>
    match rawLines rest with
    | [] => [[c]]
    | line :: lines => (c :: line) :: lines

/-- A line without the end of line it may have. -/
def withoutEnd (line : List Char) : List Char :=
  match line.reverse with
  | '\n' :: '\r' :: rest => rest.reverse
  | '\n' :: rest => rest.reverse
  | _ => line

/-- Whether a line is a comment as a whole. -/
def isComment (line : List Char) : Bool :=
  (line.dropWhile Text.isBlank).head? == some '#'

/-- The lines put together that belong together; a text that ends amid one is marked. -/
def wholeLines : List Char → LineState → List (List Char) → List (Option (List Char))
  | _, .complete, [] => []
  | _, _, [] => [none]
  | begun, state, line :: lines =>
    -- a line that goes on from another begins where that one did
    if isComment (begun ++ line) then some [] :: wholeLines [] .complete lines
    else
      let (final, kept) := scanLine state line
      match final with
      | .complete => some (withoutEnd (begun ++ line)) :: wholeLines [] .complete lines
      | .comment => some (begun ++ kept) :: wholeLines [] .complete lines
      | unfinished => wholeLines (begun ++ line) unfinished lines

/-! ## §2 Values -/

/-- Where the reading of a value stands. -/
inductive ValueState where
  | plain
  | strong
  | weak
  | escaped (inQuotes : Bool)
  /-- Behind the value. -/
  | ended
  /-- In a reference without braces, with the name so far. -/
  | reference (inQuotes : Bool) (name : List Char)
  /-- In a reference with braces, with the name so far. -/
  | braced (inQuotes : Bool) (name : List Char)
  deriving DecidableEq, Repr

/-- The state outside a reference. -/
def ValueState.outside (inQuotes : Bool) : ValueState :=
  if inQuotes then .weak else .plain

/-- Whether a character goes on with the name of a reference: the letters and numbers of every
    script do. -/
def continuesName (c : Char) : Bool :=
  Text.isAlphanumeric c

/-- The characters that stand for themselves behind a backslash. -/
def escapable : List Char :=
  ['\\', '\'', '"', '$', ' ']

/-- The value that a text stands for, where `look` gives the values of other variables. -/
def readValue (look : List Char → List Char) : ValueState → List Char → Option (List Char)
  | .plain, [] => some []
  | .ended, [] => some []
  | .escaped false, [] => some []
  | .reference false name, [] => some (look name)
  | _, [] => none
  | .ended, c :: rest =>
    if c = ' ' || c = '\t' then readValue look .ended rest
    else if c = '#' then some []
    else none
  | .escaped inQuotes, c :: rest =>
    if escapable.contains c then (c :: ·) <$> readValue look (.outside inQuotes) rest
    else if c = 'n' then ('\n' :: ·) <$> readValue look (.outside inQuotes) rest
    else none
  | .strong, c :: rest =>
    if c = '\'' then readValue look .plain rest else (c :: ·) <$> readValue look .strong rest
  | .reference inQuotes name, c :: rest =>
    if continuesName c then readValue look (.reference inQuotes (name ++ [c])) rest
    else if c = '{' && name.isEmpty then readValue look (.braced inQuotes []) rest
    -- one reference may follow another, and any other character ends it
    else if c = '$' then (look name ++ ·) <$> readValue look (.reference inQuotes []) rest
    else (look name ++ [c] ++ ·) <$> readValue look (.outside inQuotes) rest
  | .braced inQuotes name, c :: rest =>
    if c = '}' then (look name ++ ·) <$> readValue look (.outside inQuotes) rest
    else readValue look (.braced inQuotes (name ++ [c])) rest
  | .weak, c :: rest =>
    if c = '$' then readValue look (.reference true []) rest
    else if c = '"' then readValue look .plain rest
    else if c = '\\' then readValue look (.escaped true) rest
    else (c :: ·) <$> readValue look .weak rest
  | .plain, c :: rest =>
    if c = '$' then readValue look (.reference false []) rest
    else if c = '\'' then readValue look .strong rest
    else if c = '"' then readValue look .weak rest
    else if c = '\\' then readValue look (.escaped false) rest
    else if c = ' ' || c = '\t' then readValue look .ended rest
    else (c :: ·) <$> readValue look .plain rest

/-! ## §3 Assignments -/

/-- A text without the blanks it begins with. -/
def skipBlanks (text : List Char) : List Char :=
  text.dropWhile Text.isBlank

/-- Whether a name can begin with a character. -/
def beginsName (c : Char) : Bool :=
  c.isAlpha || c = '_'

/-- Whether a name can contain a character. -/
def isNameChar (c : Char) : Bool :=
  c.isAlphanum || c = '_' || c = '.'

/-- The name that a text begins with, and what follows it and the blanks after it. -/
def readName (text : List Char) : Option (List Char × List Char) :=
  match text with
  | [] => none
  | c :: _ =>
    if beginsName c then
      some (text.takeWhile isNameChar, skipBlanks (text.dropWhile isNameChar))
    else none

/-- What follows an equals sign and the blanks after it. -/
def readEquals : List Char → Option (List Char)
  | '=' :: rest => some (skipBlanks rest)
  | _ => none

/-- The name and the text of the value in a line; a certain word may stand in front. -/
def readTarget (line : List Char) : Option (List Char × List Char) := do
  let (name, rest) ← readName line
  match readEquals rest with
  | some value => return (name, value)
  | none =>
    -- the word is a name like any other where an equals sign follows it
    if String.ofList name = "export" then
      let (name, rest) ← readName rest
      let value ← readEquals rest
      return (name, value)
    else none

/-- What a line says. -/
inductive LineMeaning where
  | nothing
  | nonsense
  | assignment (name value : String)
  deriving DecidableEq, Repr

/-- What a line says, where `look` gives the values of other variables. -/
def readLine (look : List Char → List Char) (line : List Char) : LineMeaning :=
  let line := Text.trimBlank line
  if line.isEmpty || line.head? == some '#' then .nothing
  else
    match readTarget line with
    | none => .nonsense
    | some (name, value) =>
      if value.isEmpty || value.head? == some '#' then .assignment (String.ofList name) ""
      else
        match readValue look .plain value with
        | some value => .assignment (String.ofList name) (String.ofList value)
        | none => .nonsense

/-! ## §4 Files -/

/-- The value of a variable: the environment counts more than what the file said. -/
def lookUpVariable (env said : Environment) (name : List Char) : List Char :=
  ((env.get? (String.ofList name) <|> said.get? (String.ofList name)).getD "").toList

/-- The environment with a variable added that it does not have yet; there is none if the value
    has a null character. -/
def addVariable (env : Environment) (name value : String) : Option Environment :=
  if (env.get? name).isSome then some env
  else if value.toList.contains '\x00' then none
  else some (env.insert name value)

/-- The environment after some lines, when the file has already said something. -/
def addLines (env said : Environment) : List (Option (List Char)) → Option Environment
  | [] => some env
  | none :: _ => some env
  | some line :: lines =>
    match readLine (lookUpVariable env said) line with
    | .nothing => addLines env said lines
    -- what came before a line without sense still counts
    | .nonsense => some env
    | .assignment name value =>
      match addVariable env name value with
      | none => none
      | some extended => addLines extended (said.insert name value) lines

/-- A text without the mark of its byte order. -/
def withoutByteOrderMark : List Char → List Char
  | '\uFEFF' :: rest => rest
  | text => text

/-- The environment with the variables of a file added, if all of them can be. -/
def addVariables (env : Environment) (content : String) : Option Environment :=
  addLines env .empty (wholeLines [] .complete (rawLines (withoutByteOrderMark content.toList)))

/-- The name of the file of variables in a directory. -/
def variableFile : String := ".env"

/-- The environment in a directory, if there can be one. -/
def environmentIn (d : Directory) (env : Environment) : Option Environment :=
  match d.read variableFile with
  | .text content => addVariables env content
  | _ => some env

end IncidentTracker.CommandLine
