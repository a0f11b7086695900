import IncidentTracker.Proofs.CommandLine.Keeping

/-!
# Runs That Leave No Trace

Of some runs in one directory that all use one database, those that only read and those that fail
may be left out: all others end with the same code and print the same. For this, all that a run sees
of the directory is what it reads there and what it finds at the place of the database; and a run
that does not add leaves both as they are, but for the time at which the tables were created.

Main statement: `endings_without`.
-/

namespace IncidentTracker.CommandLine

open Directory (OnlyAt place)
open Json (Value)
open Relational (Database Location Store)

/-! ## §1 What is seen of runs -/

/-- What is seen of the end of a run: its code and what it prints. -/
def Ending.seen (e : Ending) : Nat × String :=
  (e.code, e.output)

variable {d d' : Directory} {x : Launch} {invocation : Invocation}

/-- Of marked runs, those that are unmarked are left out. -/
def kept (marked : List (Launch × Bool)) : List Launch :=
  (marked.filter Prod.snd).map Prod.fst

/-- What has become of a directory: a database is kept in it, or none can be. -/
def IsOf (l : Location) (file : String) (first : Directory) : Option Database → Directory → Prop
  | some db, d => Kept l file db d ∧ OnlyAt (place file) first d
  | none, d => Refused l file d ∧ OnlyAt (place file) first d

variable {l : Location} {path file : String} {first : Directory} {kind : Option Database}

theorem IsOf.onlyAt (h : IsOf l file first kind d) : OnlyAt (place file) first d := by
  cases kind <;> exact h.2

variable {quiet : Prop} {command : CommandSettings} {now : Int}

end IncidentTracker.CommandLine
