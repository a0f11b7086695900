import IncidentTracker.Relational.Error
import IncidentTracker.Text.Ascii
import IncidentTracker.Text.Decimal
import IncidentTracker.Text.Percent
import IncidentTracker.Text.Pieces

/-!
# Where Databases Lie

A database is named by the path of its file, or by a URI that begins with `file:`. Such a URI may
name an authority, which must be the local host, and then has a path, parameters behind a question
mark, and a fragment behind a number sign, which counts for nothing. Parameters say how the
database is used; those that are not known count for nothing either.
-/

namespace IncidentTracker.Relational

/-! ## §1 Locations -/

/-- What may be done with a database. -/
inductive Access where
  | read
  | write
  /-- It is also begun where there is none. -/
  | create
  /-- Anything, for it is not kept. -/
  | memory
  deriving DecidableEq, Repr

/-- The kinds of access by name. -/
def Access.choices : List (String × Access) :=
  [("ro", .read), ("rw", .write), ("rwc", .create), ("memory", .memory)]

/-- Whether one kind of access can be narrowed to another. -/
def Access.allows : Access → Access → Bool
  | _, .memory => true
  | .memory, _ => true
  | .create, _ => true
  | .write, wanted => wanted != .create
  | .read, wanted => wanted == .read

/-- The ways to reach files. -/
inductive FileSystem where
  /-- Connections share a log of changes. -/
  | shared
  /-- Every connection is on its own. -/
  | separate
  /-- Nothing is kept. -/
  | memory
  deriving DecidableEq, Repr

/-- The ways to reach files by name. -/
def FileSystem.choices : List (String × FileSystem) :=
  [("unix", .shared), ("unix-excl", .shared), ("unix-none", .separate),
   ("unix-dotfile", .separate), ("memdb", .memory)]

/-- Where a database lies and how it is used. -/
structure Location where
  /-- The path of its file; a database without one is not kept. -/
  file : Option String
  access : Access := .create
  /-- Whether connections share a log of changes. -/
  sharesLog : Bool := true
  /-- Whether the file is taken to be one that nobody changes. -/
  isFrozen : Bool := false
  /-- Whether every connection has a database of its own. -/
  isPrivate : Bool := false
  deriving DecidableEq, Repr

namespace Location

/-- Whether nothing can be written. -/
def isReadOnly (l : Location) : Bool :=
  l.access == .read || l.isFrozen

/-- The path that stands for a database that is not kept, as the empty one does. -/
def memoryPath : String := ":memory:"

/-- The file at a path. -/
def fileAt (path : String) : Option String :=
  if path = "" || path = memoryPath then none else some path

/-- The location with a path. All connections share the one database that is not kept under its
    usual name. -/
def ofPath (path : String) : Location :=
  { file := fileAt path, isPrivate := path = "" }

/-! ## §2 Parameters -/

/-- Names and values of parameters. A parameter without a name is left out. -/
def parameters (query : List Char) : List (String × String) :=
  let entries := (Text.cut '&' query).map fun item =>
    (Text.Percent.decode (item.takeWhile (· ≠ '=')),
      Text.Percent.decode ((item.dropWhile (· ≠ '=')).drop 1))
  entries.filter fun entry => entry.1 ≠ ""

/-- The words that mean yes. -/
def affirmations : List String := ["on", "yes", "true"]

/-- Whether the value of a parameter means yes: one of certain words, or a number that is not a
    multiple of 256 and fits a signed 32-bit word. -/
def meansYes (value : String) : Bool :=
  let digits := value.toList.takeWhile Char.isDigit
  if digits.isEmpty then affirmations.any fun word => Text.sameIgnoringAsciiCase word value
  else
    let number := Text.Decimal.valueFrom 0 digits
    number ≤ 2147483647 && number % 256 != 0

/-- Whether the first parameter of a name means yes. -/
def isSet (parameters : List (String × String)) (name : String) : Bool :=
  match parameters.find? fun entry => entry.1 == name with
  | some (_, value) => meansYes value
  | none => false

/-- The value of the last parameter of a name. -/
def last? (parameters : List (String × String)) (name : String) : Option String :=
  ((parameters.filter fun entry => entry.1 == name).getLast?).map (·.2)

/-- What parameters say of the kind of access: each may narrow what the ones before it left. -/
def narrow (access : Access) : List (String × String) → Except Error Access
  | [] => .ok access
  | (name, value) :: rest =>
    if name = "cache" then
      -- the cache does not matter here, but its name must be one of the two
      if value = "shared" || value = "private" then narrow access rest
      else .error (.unknownMode "cache" value)
    else if name = "mode" then
      match Access.choices.find? fun choice => choice.1 == value with
      | none => .error (.unknownMode "access" value)
      | some (_, wanted) =>
        if access.allows wanted then narrow wanted rest else .error (.modeRuledOut "access" value)
    else narrow access rest

/-- What parameters say of the way to reach files; the last of them counts. -/
def fileSystem (parameters : List (String × String)) : Except Error FileSystem :=
  let name := (last? parameters "vfs").getD "unix"
  match FileSystem.choices.find? fun choice => choice.1 == name with
  | some (_, system) => .ok system
  | none => .error (.unknownFileSystem name)

/-! ## §3 URIs -/

/-- What is left of a URI behind its authority. -/
def withoutAuthority : List Char → Except Error (List Char)
  | '/' :: '/' :: rest =>
    let host := String.ofList (rest.takeWhile (· ≠ '/'))
    if host = "" || host = "localhost" then .ok (rest.dropWhile (· ≠ '/'))
    else .error (.foreignHost host)
  | rest => .ok rest

/-- The location with a path and parameters. -/
def ofParts (path : String) (parameters : List (String × String)) : Except Error Location := do
  let access ← narrow .create parameters
  let system ← fileSystem parameters
  let isFrozen := isSet parameters "immutable"
  let file := if system = .memory || access = .memory then none else fileAt path
  -- a name lets connections share what is in memory
  let isNamed := path ≠ "" && (last? parameters "cache" = some "shared" ||
    (system = .memory && path.toList.head? = some '/'))
  return {
    file := file
    access := access
    sharesLog := system == .shared && !isSet parameters "nolock"
    -- only a file can be taken to be unchanging
    isFrozen := isFrozen && (file.isSome || (system = .memory && access != .memory))
    isPrivate := file.isNone && !isNamed }

/-- The location that a URI names, given without the scheme it begins with. -/
def ofUri (rest : List Char) : Except Error Location := do
  let rest ← withoutAuthority rest
  let rest := rest.takeWhile (· ≠ '#')
  ofParts (Text.Percent.decode (rest.takeWhile (· ≠ '?')))
    (parameters ((rest.dropWhile (· ≠ '?')).drop 1))

/-- The scheme a URI begins with. -/
def scheme : List Char := "file:".toList

/-- The location that a text names. A text that begins with `file:` is a URI, any other one is a
    path. -/
def ofText (text : String) : Except Error Location :=
  let chars := text.toList
  if chars.contains '\x00' then .error .nullInPath
  else if scheme.isPrefixOf chars then ofUri (chars.drop scheme.length)
  else .ok (.ofPath text)

end Location

end IncidentTracker.Relational
