import IncidentTracker.Proofs.Filtering.Leaves
import IncidentTracker.Relational.Condition
import IncidentTracker.Store.Memory
import IncidentTracker.WideColumn.Expression

/-!
# What Is Said of a Filter

A filter is evaluated by asking its leaves from left to right, and a group is left as soon as one part
decides it. Its truth value is that of all answers all the same, and what is said is said of leaves,
in the order in which they are written. On an entity nothing is said of a leaf, so evaluating a filter
says nothing at all; a list in memory says at the end how many incidents there were and how many
passed. Compiling a filter says what it has become. None of that is a warning.

Main statements: `Forest.value_evaluate`, `evaluate_eq`, `MemoryStore.search_eq`,
`Relational.Clause.warnings_compile` and `WideColumn.Scan.warnings_compile`.
-/

namespace IncidentTracker

open Filtering (Request)

namespace Filtering

/-! ## §1 Trees -/

variable {α : Type} {ask : α → Logged Bool}

namespace Tree

theorem value_stopAt {j : Junction} {rest : Logged Bool} {values : List Bool}
    (hrest : rest.value = j.combine values) (first : Bool) :
    (stopAt j first rest).value = j.combine (first :: values) := by
  cases j <;> cases first <;> simp [stopAt, Junction.combine, hrest]

theorem events_stopAt_sublist (j : Junction) (first : Bool) (rest : Logged Bool) :
    (stopAt j first rest).events.Sublist rest.events := by
  cases j <;> cases first <;> simp [stopAt]

theorem value_askMembers (j : Junction) (members : List α) :
    (askMembers ask j members).value = j.combine (members.map fun a => (ask a).value) := by
  induction members with
  | nil => rfl
  | cons a members ih => exact value_stopAt ih (ask a).value

theorem events_askMembers_sublist (j : Junction) (members : List α) :
    (askMembers ask j members).events.Sublist (members.flatMap fun a => (ask a).events) := by
  induction members with
  | nil => exact .refl []
  | cons a members ih =>
    exact (List.Sublist.refl (ask a).events).append ((events_stopAt_sublist j _ _).trans ih)

mutual

/-- A group is worth what the answers of its members make it, though not all of them are asked. -/
theorem value_evaluate : ∀ t : Tree α,
    (t.evaluate ask).value = t.eval fun a => (ask a).value
  | .branch j children _ => value_evaluateEach j children
  | .group j members => value_askMembers j members

theorem value_evaluateEach (j : Junction) : ∀ nodes : List (Tree α),
    (evaluateEach ask j nodes).value = j.combine (evalEach (fun a => (ask a).value) nodes)
  | [] => rfl
  | node :: nodes => by
    rw [evalEach, ← value_evaluate node]
    exact value_stopAt (value_evaluateEach j nodes) (node.evaluate ask).value

end

mutual

/-- What is said of a group is said of its leaves, in their order. -/
theorem events_evaluate_sublist : ∀ t : Tree α,
    (t.evaluate ask).events.Sublist (t.leaves.flatMap fun a => (ask a).events)
  | .branch j children _ => events_evaluateEach_sublist j children
  | .group j members => events_askMembers_sublist j members

theorem events_evaluateEach_sublist (j : Junction) : ∀ nodes : List (Tree α),
    (evaluateEach ask j nodes).events.Sublist ((leavesEach nodes).flatMap fun a => (ask a).events)
  | [] => .refl []
  | node :: nodes => by
    rw [leavesEach, List.flatMap_append]
    exact (events_evaluate_sublist node).append
      ((events_stopAt_sublist j _ _).trans (events_evaluateEach_sublist j nodes))

end

end Tree

namespace Forest

/-- A filter is worth what the answers of its leaves make it. -/
theorem value_evaluate (ask : α → Logged Bool) (f : Forest α) :
    (f.evaluate ask).value = f.eval fun a => (ask a).value :=
  Tree.value_evaluateEach f.junction f.nodes

/-- What is said of a filter is said of its leaves, in their order. -/
theorem events_evaluate_sublist (ask : α → Logged Bool) (f : Forest α) :
    (f.evaluate ask).events.Sublist (f.leaves.flatMap fun a => (ask a).events) :=
  Tree.events_evaluateEach_sublist f.junction f.nodes

end Forest

end Filtering

/-! ## §2 Entities -/

/-- Evaluating a filter on an entity says nothing. -/
theorem evaluate_eq {ε : Type} [HasProperties ε] (filter : Option Request) (entity : ε) :
    evaluate filter entity = ⟨[], passes filter entity⟩ := by
  cases filter with
  | none => rfl
  | some r =>
    refine Logged.ext (List.sublist_nil.mp ?_) (r.value_evaluate _)
    -- nothing is said of a leaf
    have hquiet : (r.leaves.flatMap fun _ => ([] : List Event)) = [] :=
      List.flatMap_eq_nil_iff.mpr fun _ _ => rfl
    rw [← hquiet]
    exact r.events_evaluate_sublist _

namespace MemoryStore

theorem matching_eq (filter : Option Request) (incidents : List Incident) :
    matching filter incidents = ⟨[], incidents.filter fun i => passes filter i⟩ := by
  induction incidents with
  | nil => rfl
  | cons i rest ih =>
    rw [matching, evaluate_eq, ih, List.filter_cons]
    rfl

/-- A list in memory says how many incidents it has looked at and how many passed, and nothing
    else. -/
theorem search_eq (s : MemoryStore) (filter : Option Request) :
    s.search filter =
      ⟨[⟨.trace, "Evaluated filter in memory", [("scanned", toString s.size),
        ("matched", toString (s.incidents.filter fun i => passes filter i).length)]⟩],
        s.incidents.filter fun i => passes filter i⟩ := by
  rw [search, matching_eq]
  rfl

theorem list_eq_filter (s : MemoryStore) (filter : Option Request) :
    s.list filter = s.incidents.filter fun i => passes filter i := by
  rw [list, search_eq]

end MemoryStore

/-! ## §3 Stores -/

theorem Relational.Clause.warnings_compile (s : Filtering.Semantics) (filter : Option Request) :
    (Clause.compile s filter).warnings = [] := by
  cases filter <;> rfl

theorem WideColumn.Scan.warnings_compile (s : Filtering.Semantics) (filter : Option Request) :
    (Scan.compile s filter).warnings = [] := by
  cases filter with
  | none => rfl
  | some r =>
    simp only [Scan.compile]
    split <;> rfl

end IncidentTracker
