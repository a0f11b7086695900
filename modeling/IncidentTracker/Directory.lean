import IncidentTracker.Dictionary
import IncidentTracker.Relational.Database
import IncidentTracker.Relational.Location
import IncidentTracker.Text.Bytes
import IncidentTracker.Text.Pieces

/-!
# Directories

The directory a command works in: texts and databases under their paths. Paths are relative to
the directory and written with slashes; the folders are those that lie above some file, and those
that are known besides.

A text is found only if every part of its path but the last is a folder. A database is found by
where its path leads; on the way down it may pass through what does not exist, but not through a
file.
-/

namespace IncidentTracker

open Relational (Database Location)

/-- What lies in a directory. A database hides a text under the same path. -/
structure Directory where
  texts : Dictionary String := .empty
  databases : Dictionary Database := .empty
  /-- The places of folders in which nothing else may lie. -/
  folders : List (List String) := []
  deriving DecidableEq

namespace Directory

/-- A directory in which nothing lies. -/
def empty : Directory := {}

/-! ## §1 Paths -/

/-- The parts of a path. -/
def parts (path : String) : List String :=
  (Text.cut '/' path.toList).map String.ofList

/-- The part that stands for the root of all folders. -/
def root : String := "/"

/-- Where a path begins. -/
def start (path : String) : List String :=
  if path.toList.head? == some '/' then [root] else []

/-- Whether a place is known to lie above the directory, or to be the directory itself. -/
def isAbove (place : List String) : Bool :=
  place = [root] || place.all (· = "..")

/-- Where one part leads from a place. There is nothing above the root. -/
def enter (place : List String) (part : String) : List String :=
  if part = "" || part = "." then place
  else if part = ".." && place = [root] then place
  -- from above the directory the way up only leads further away
  else if part = ".." && !isAbove place then place.dropLast
  else place ++ [part]

/-- Where a path leads. -/
def place (path : String) : List String :=
  (parts path).foldl enter (start path)

/-- The path to a place. -/
def pathTo : List String → String
  | [] => "."
  | part :: rest =>
    if part = root then root ++ "/".intercalate rest else "/".intercalate (part :: rest)

/-- Whether a place is a folder: one known to lie above the directory, one that is known besides,
    or one above a file. -/
def isFolder (d : Directory) (here : List String) : Bool :=
  isAbove here || (d.folders.any fun folder => here.isPrefixOf folder) ||
    (d.texts.entries.any fun file => here.isPrefixOf (place file.1).dropLast) ||
    d.databases.entries.any fun file => here.isPrefixOf (place file.1).dropLast

/-- Whether a file lies at a place. -/
def isFile (d : Directory) (here : List String) : Bool :=
  (d.texts.get? (pathTo here)).isSome || (d.databases.get? (pathTo here)).isSome

/-- Where the parts of a path lead, if all but the last are folders. -/
def walk (d : Directory) (here : List String) : List String → Option (List String)
  | [] => some here
  | part :: rest => if d.isFolder here then d.walk (enter here part) rest else none

/-! ## §2 Texts -/

/-- What reading a path finds. -/
inductive Found where
  | nothing
  /-- Something that is no text. -/
  | unreadable
  | text (content : String)
  deriving DecidableEq, Repr

/-- Puts a text into the directory. -/
def putText (d : Directory) (path content : String) : Directory :=
  { d with texts := d.texts.insert (pathTo (place path)) content }

/-- What reading a path finds. -/
def read (d : Directory) (path : String) : Found :=
  if path = "" then .nothing
  else
    match d.walk (start path) (parts path) with
    | none => .nothing
    | some here =>
      -- a database is no text, and a folder cannot be read
      if d.isFolder here || (d.databases.get? (pathTo here)).isSome then .unreadable
      else
        match d.texts.get? (pathTo here) with
        | some content => .text content
        | none => .nothing

/-! ## §3 Databases -/

/-- The most bytes that a part of a path may have. -/
def maxPartBytes : Nat := 255

/-- The most bytes that the path of a database may have. -/
def maxPathBytes : Nat := 504

/-- What is added to the name of a database for the file of its changes. -/
def journalSuffix : String := "-journal"

/-- Where the parts of the path of a database lead, if none is too long and the way down does not
    pass through a file. -/
def descend (d : Directory) (here : List String) : List String → Option (List String)
  | [] => some here
  | part :: rest =>
    let next := enter here part
    if next.length ≤ here.length then d.descend next rest
    else if maxPartBytes < Text.byteSize part.toList || d.isFile here then none
    else d.descend next rest

/-- Whether there is room for the name of a file at a place, that of the file of its changes, and
    the path of both. -/
def hasRoom (here : List String) : Bool :=
  let name := here.getLast?.getD ""
  Text.byteSize (name ++ journalSuffix).toList ≤ maxPartBytes &&
    Text.byteSize (pathTo here).toList ≤ maxPathBytes

/-- The most bytes that a file may have to be taken for a database without anything in it. -/
def maxBlankBytes : Nat := 1

/-- Uses a database that lies at a place. If it turns to the log of changes that connections share,
    that is written to its file at once. -/
def useFile (d : Directory) (l : Location) (here : List String) (db : Database) :
    Except Relational.Error Database × Directory :=
  match db.joinLog l with
  | .error e => (.error e, d)
  | .ok joined =>
    (.ok joined,
      if joined = db then d else { d with databases := d.databases.insert (pathTo here) joined })

/-- Begins an empty file at a place. -/
def beginFile (d : Directory) (here : List String) : Directory :=
  { d with texts := d.texts.insert (pathTo here) "" }

/-- Opens the database in a file at a place, and tells what the directory is like afterwards. Where
    nothing lies yet an empty file is begun, if that is allowed, and an empty file is a blank
    database. -/
def openFile (d : Directory) (l : Location) (here : List String) :
    Except Relational.Error Database × Directory :=
  match d.databases.get? (pathTo here), d.texts.get? (pathTo here) with
  | some db, _ => d.useFile l here db
  | none, some content =>
    -- the first page of a database is looked at, and a file this small has none
    if Text.byteSize content.toList ≤ maxBlankBytes then d.useFile l here .blank
    else (.error .notADatabase, d)
  | none, none =>
    if l.access = .create then
      (d.beginFile here).useFile l here .blank
    else (.error .cannotOpen, d)

/-- Opens the database at a path, and tells what the directory is like afterwards. A folder can be
    opened for reading, but there is nothing to be read from it; and a file that nobody changes
    needs no room for its changes. -/
def openPath (d : Directory) (l : Location) (path : String) :
    Except Relational.Error Database × Directory :=
  match d.descend (start path) (parts path) with
  | none => (.error .cannotOpen, d)
  | some here =>
    if d.isFolder here then
      (.error (if l.access = .read && here ≠ [root] then .cannotRead else .cannotOpen), d)
    -- the file must lie in a folder, and the names of what lies beside it must fit
    else if d.isFolder here.dropLast && (l.isFrozen || hasRoom here) then d.openFile l here
    else (.error .cannotOpen, d)

/-- Opens the database at a location, and tells what the directory is like afterwards. -/
def openDatabase (d : Directory) (l : Location) : Except Relational.Error Database × Directory :=
  match l.file with
  | none => (.ok .blank, d)
  | some path => d.openPath l path

/-- Opens the database at a location over two connections, one after the other. The second one finds
    its own way to what the first one has begun. -/
def connect (d : Directory) (l : Location) : Except Relational.Error Database × Directory :=
  match d.openDatabase l with
  | (.error e, d) => (.error e, d)
  | (.ok _, d) => d.openDatabase l

/-- The directory after the database at a location has been written. -/
def putDatabase (d : Directory) (l : Location) (db : Database) : Directory :=
  match l.file with
  | none => d
  | some path => { d with databases := d.databases.insert (pathTo (place path)) db }

end Directory

end IncidentTracker
