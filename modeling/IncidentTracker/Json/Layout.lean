import IncidentTracker.Json.Scan

/-!
# Laying Out a Text

The text of a document is laid out as a tree from left to right, with the open containers on a
stack; nesting is limited by nothing but the text. At a fault every open container is closed with
that fault, so that the tree ends where the text stopped making sense.
-/

namespace IncidentTracker.Json

/-- What the grammar expects next. -/
inductive Due where
  /-- A value. -/
  | item
  /-- The first value of a list, or its end. -/
  | firstItem
  /-- A key. -/
  | key
  /-- The first key of an object, or its end. -/
  | firstKey
  /-- The colon between a key and its value. -/
  | colon
  /-- What follows a value inside a container. -/
  | separator
  deriving DecidableEq, Repr

/-- An open container with what it holds so far, last first. -/
inductive Frame where
  | list (done : List Document)
  | object (done : List (Document × Document))
  /-- An object whose last key still waits for its value. -/
  | member (done : List (Document × Document)) (key : Document)

namespace Frame

/-- Adds a document to an open container. -/
def put (d : Document) : Frame → Frame
  | .list done => .list (d :: done)
  | .object done => .object ((d, .broken .nothing .grammar) :: done)
  | .member done key => .object ((key, d) :: done)

/-- The container as a document, with the fault that broke it off, if any. -/
def close (fault : Option Fault) : Frame → Document
  | .list done => .list done.reverse fault
  | .object done => .object done.reverse fault
  | .member done _ => .object done.reverse fault

end Frame

/-- Closes every open container around a document with a fault. -/
def abandon (fault : Fault) (d : Document) (stack : List Frame) : Document :=
  stack.foldl (fun d frame => (frame.put d).close (some fault)) d

/-- Closes every open container with a fault, the innermost as it stands. -/
def abandonOpen (fault : Fault) : List Frame → Document
  | [] => .broken .nothing fault
  | frame :: stack => abandon fault (frame.close (some fault)) stack

/-- The tree of a text that ends where something is due. -/
def endEarly (due : Due) (stack : List Frame) : Document :=
  match due with
  | .item | .key | .colon => abandon .endOfText (.broken .nothing .endOfText) stack
  | .firstItem | .firstKey | .separator => abandonOpen .endOfText stack

/-- The outcome of reading one token. -/
inductive Step where
  | more (due : Due) (stack : List Frame) (rest : List Char)
  | done (document : Document) (rest : List Char)
  | stopped (document : Document)

/-- Goes on after a complete document. -/
def complete (d : Document) (stack : List Frame) (rest : List Char) : Step :=
  match stack with
  | [] => .done d rest
  | frame :: stack => .more .separator (frame.put d :: stack) rest

/-- Goes on after the end of the innermost container. -/
def completeOpen (stack : List Frame) (rest : List Char) : Step :=
  match stack with
  | [] => .stopped (.broken .other .grammar)
  | frame :: stack => complete (frame.close none) stack rest

/-- A token in the place of a value. -/
def stepItem (due : Due) (stack : List Frame) (c : Char) (rest : List Char) : Step :=
  if c = '[' then .more .firstItem (.list [] :: stack) rest
  else if c = '\x7b' then .more .firstKey (.object [] :: stack) rest
  else if c = ']' && due == .firstItem then completeOpen stack rest
  else
    -- a fault that shows even when a scalar is skipped ends the text; others wait until it is read
    let scanned := scanScalar c rest
    match scanned.document.skipped with
    | some fault => .stopped (abandon fault scanned.document stack)
    | none => complete scanned.document stack scanned.rest

/-- What stands in the place of a key without being a text. -/
def strayKey (c : Char) (rest : List Char) : Document :=
  if c = '[' then .list [] (some .grammar)
  else if c = '\x7b' then .object [] (some .grammar)
  else (scanScalar c rest).document

/-- A token in the place of a key. -/
def stepKey (due : Due) (stack : List Frame) (c : Char) (rest : List Char) : Step :=
  if c = '\x7d' && due == .firstKey then completeOpen stack rest
  else if c = '"' then
    let scanned := scanText rest
    match scanned.document.skipped, stack with
    | some fault, _ => .stopped (abandon fault scanned.document stack)
    | none, .object done :: stack => .more .colon (.member done scanned.document :: stack) scanned.rest
    | none, _ => .stopped (abandonOpen .grammar stack)
  else .stopped (abandon .grammar (strayKey c rest) stack)

/-- A token in the place of a colon. -/
def stepColon (stack : List Frame) (c : Char) (rest : List Char) : Step :=
  if c = ':' then .more .item stack rest
  else .stopped (abandon .grammar (.broken .other .grammar) stack)

/-- A token after a value inside a container. -/
def stepSeparator (stack : List Frame) (c : Char) (rest : List Char) : Step :=
  match stack with
  | .list done :: outer =>
    if c = ',' then .more .item (.list done :: outer) rest
    else if c = ']' then completeOpen stack rest
    else .stopped (abandonOpen .grammar stack)
  | .object done :: outer =>
    if c = ',' then .more .key (.object done :: outer) rest
    else if c = '\x7d' then completeOpen stack rest
    else .stopped (abandonOpen .grammar stack)
  | stack => .stopped (abandonOpen .grammar stack)

/-- Reads one token that begins with a given character. -/
def step (due : Due) (stack : List Frame) (c : Char) (rest : List Char) : Step :=
  match due with
  | .item | .firstItem => stepItem due stack c rest
  | .key | .firstKey => stepKey due stack c rest
  | .colon => stepColon stack c rest
  | .separator => stepSeparator stack c rest

/-- Reads tokens up to the end of the outermost document; every token takes at least one
    character, so as many steps as there are characters are enough. -/
def run : Nat → Due → List Frame → List Char → Document × Option (List Char)
  | 0, due, stack, _ => (endEarly due stack, none)
  | steps + 1, due, stack, text =>
    match text.dropWhile isSpace with
    -- nothing is left but blanks
    | [] => (endEarly due stack, none)
    | c :: rest =>
      match step due stack c rest with
      | .more due stack rest => run steps due stack rest
      | .done d rest => (d, some rest)
      | .stopped d => (d, none)

/-- The tree of a text, and what follows the document if it is complete. -/
def layout (text : List Char) : Document × Option (List Char) :=
  run (text.length + 1) .item [] text

end IncidentTracker.Json
