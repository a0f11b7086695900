import IncidentTracker.Proofs.Filtering.Evaluation
import IncidentTracker.Proofs.Filtering.Interpretation
import IncidentTracker.Proofs.Text.Folding
import Mathlib.Data.List.Basic

/-!
# Weaker Filters

A filter gets weaker if a comparison for equality becomes a search for the same value, if a part is
taken out of a group all of whose parts must hold, or if one is added where any of them is enough. Any
number of such changes at any depth loses no match: what is equal to a value contains it, in whatever
characters and cases both are written, and junctions are monotone. So the weaker filter lists all that
the other one lists.

Main statement: `accepts_of_weakened`.
-/

namespace IncidentTracker.Filtering

variable {α β : Type}

/-! ## §1 Wider groups -/

/-- Parts of a group that may be replaced with related ones, of which any may be dropped if all must
    hold, and to which any may be added if one is enough. -/
inductive Junction.Widens (R : α → β → Prop) : Junction → List α → List β → Prop
  | nil (j : Junction) : Junction.Widens R j [] []
  | keep {j : Junction} {a : α} {b : β} {as : List α} {bs : List β} :
    R a b → Junction.Widens R j as bs → Junction.Widens R j (a :: as) (b :: bs)
  | drop (a : α) {as : List α} {bs : List β} :
    Junction.Widens R .and as bs → Junction.Widens R .and (a :: as) bs
  | add (b : β) {as : List α} {bs : List β} :
    Junction.Widens R .or as bs → Junction.Widens R .or as (b :: bs)

namespace Junction

variable {γ δ : Type} {R : α → β → Prop} {S : γ → δ → Prop} {j : Junction}

theorem Widens.refl {R : α → α → Prop} (j : Junction) :
    ∀ {as : List α}, (∀ a ∈ as, R a a) → j.Widens R as as
  | [], _ => .nil j
  | a :: _, hR =>
    .keep (hR a List.mem_cons_self) (Widens.refl j fun b hb => hR b (List.mem_cons_of_mem a hb))

theorem Widens.map {f : α → γ} {g : β → δ} (hRS : ∀ a b, R a b → S (f a) (g b)) {as : List α}
    {bs : List β} (h : j.Widens R as bs) : j.Widens S (as.map f) (bs.map g) := by
  induction h with
  | nil j => exact .nil j
  | keep hab _ ih => exact .keep (hRS _ _ hab) ih
  | drop a _ ih => exact .drop (f a) ih
  | add b _ ih => exact .add (g b) ih

/-- A group that holds still holds when it is widened. -/
theorem combine_of_widens {parts parts' : List Bool}
    (h : j.Widens (fun b b' => b = true → b' = true) parts parts') (hparts : j.combine parts = true) :
    j.combine parts' = true := by
  induction h with
  | nil j => exact hparts
  -- a part that is kept still holds where it held, under both junctions
  | @keep j b b' _ _ hb _ ih =>
    cases j with
    | and =>
      obtain ⟨hfirst, hrest⟩ := Bool.and_eq_true_iff.mp hparts
      exact Bool.and_eq_true_iff.mpr ⟨hb hfirst, ih hrest⟩
    | or =>
      rcases Bool.or_eq_true_iff.mp hparts with hfirst | hrest
      · exact Bool.or_eq_true_iff.mpr (.inl (hb hfirst))
      · exact Bool.or_eq_true_iff.mpr (.inr (ih hrest))
  | drop b _ ih => exact ih (Bool.and_eq_true_iff.mp hparts).2
  | add b _ ih => exact Bool.or_eq_true_iff.mpr (.inr (ih hparts))

end Junction

/-- Groups of which one is made of the other by widening groups in it and replacing leaves with
    related ones. Shadowed members may be any. -/
inductive Tree.Widened (R : α → α → Prop) : Tree α → Tree α → Prop
  | branch (j : Junction) {children children' : List (Tree α)} (shadowed shadowed' : List α) :
    j.Widens (Tree.Widened R) children children' →
      Tree.Widened R (.branch j children shadowed) (.branch j children' shadowed')
  | group (j : Junction) {members members' : List α} :
    j.Widens R members members' → Tree.Widened R (.group j members) (.group j members')

section

variable {R : α → α → Prop} {holds : α → Bool}

theorem Tree.Widened.refl (hR : ∀ a, R a a) (t : Tree α) : Tree.Widened R t t := by
  cases t with
  | branch j children shadowed =>
    exact .branch j shadowed shadowed (.refl j fun child _ => Tree.Widened.refl hR child)
  | group j members => exact .group j (.refl j fun a _ => hR a)

mutual

/-- A group that holds still holds when groups in it are widened and leaves replaced with weaker
    ones. -/
theorem Tree.Widened.eval (hR : ∀ a b, R a b → holds a = true → holds b = true) :
    ∀ {t t' : Tree α}, Tree.Widened R t t' → t.eval holds = true → t'.eval holds = true
  | _, _, .branch _ _ _ hchildren, h => by
    rw [Tree.eval] at h ⊢
    exact Junction.combine_of_widens (Tree.widens_evalEach hR hchildren) h
  | _, _, .group _ hmembers, h => by
    rw [Tree.eval] at h ⊢
    exact Junction.combine_of_widens (hmembers.map hR) h

theorem Tree.widens_evalEach (hR : ∀ a b, R a b → holds a = true → holds b = true) :
    ∀ {j : Junction} {nodes nodes' : List (Tree α)}, j.Widens (Tree.Widened R) nodes nodes' →
      j.Widens (fun b b' => b = true → b' = true) (Tree.evalEach holds nodes)
        (Tree.evalEach holds nodes')
  | _, _, _, .nil j => .nil j
  | _, _, _, .keep hnode hnodes =>
    .keep (Tree.Widened.eval hR hnode) (Tree.widens_evalEach hR hnodes)
  | _, _, _, .drop _ hnodes => .drop _ (Tree.widens_evalEach hR hnodes)
  | _, _, _, .add _ hnodes => .add _ (Tree.widens_evalEach hR hnodes)

end

end

/-! ## §2 Weaker filters -/

/-- A criterion, or the search for the value that it compares with. -/
inductive Criterion.Weakened : Criterion → Criterion → Prop
  | same (c : Criterion) : Criterion.Weakened c c
  | searched (property value : String) :
    Criterion.Weakened ⟨property, .equals, value⟩ ⟨property, .contains, value⟩

/-- A property that passes a criterion passes a weaker one. -/
theorem Criterion.Weakened.test {c d : Criterion} (h : c.Weakened d) (actual : String → String)
    (hc : c.comparison.test (actual c.property) c.value = true) :
    d.comparison.test (actual d.property) d.value = true := by
  cases h with
  | same c => exact hc
  | searched property value => exact Text.containsIgnoreCase_of_eqIgnoreCase hc

/-- Filters of which one is made of the other by searching where it compares for equality, dropping
    parts that must hold, and adding parts that are enough. -/
def Forest.Weakened (r r' : Request) : Prop :=
  Tree.Widened Criterion.Weakened r.asBranch r'.asBranch

end IncidentTracker.Filtering

namespace IncidentTracker

open Filtering (Criterion Request)

/-- Whatever passes a filter passes a weaker one, so a list with the weaker filter contains that with
    the other, in the same order. -/
theorem accepts_of_weakened {r r' : Request} (h : r.Weakened r') :
    (∀ (ε : Type) [HasProperties ε] (entity : ε),
      r.accepts entity = true → r'.accepts entity = true) ∧
      ∀ s : MemoryStore, (s.list (some r)).Sublist (s.list (some r')) := by
  -- each criterion that is searched for still holds where it held
  have haccepts (ε : Type) [HasProperties ε] (entity : ε) (hr : r.accepts entity = true) :
      r'.accepts entity = true :=
    Filtering.Tree.Widened.eval (fun _ _ hcd => hcd.test (propertyValue entity)) h hr
  refine ⟨haccepts, ?_⟩
  intro s
  rw [s.list_eq_filter, s.list_eq_filter]
  exact List.monotone_filter_right s.incidents fun i => haccepts Incident i

/-- One comparison becomes a search, a criterion and a group that must hold are dropped, one that is
    enough is added, and the last group is left as it is. -/
theorem accepts_of_weakened_nested :
    let bug : Criterion := ⟨"type", .equals, "Bug"⟩
    let team : Criterion := ⟨"Team", .equals, "core"⟩
    let isOpen : Criterion := ⟨"state", .notEquals, "Closed"⟩
    let last : Filtering.Tree Criterion := .branch .and [.group .or [team, isOpen]] [bug]
    let r : Request := ⟨.and, [.branch .or [.group .and [bug, isOpen]] [team], .group .and [team], last]⟩
    let r' : Request :=
      ⟨.and, [.branch .or [.group .or [team], .group .and [⟨"type", .contains, "Bug"⟩]] [], last]⟩
    let incident : Incident :=
      { id := 0, kind := "BUG", attributes := .ofList [("team", "Core")] }
    r.Weakened r' ∧ r.accepts incident = true ∧ r'.accepts incident = true ∧
      ∀ s : MemoryStore, (s.list (some r)).Sublist (s.list (some r')) := by
  intro bug team isOpen last r r' incident
  -- in the group one criterion is searched for in place of equality, the other is dropped
  have hgroup : Filtering.Tree.Widened Criterion.Weakened (.group .and [bug, isOpen])
      (.group .and [⟨"type", .contains, "Bug"⟩]) :=
    .group .and (.keep (.searched "type" "Bug") (.drop isOpen (.nil .and)))
  -- that group stands below an "or", where another group is added
  have hbranch : Filtering.Tree.Widened Criterion.Weakened (.branch .or [.group .and [bug, isOpen]] [team])
      (.branch .or [.group .or [team], .group .and [⟨"type", .contains, "Bug"⟩]] []) :=
    .branch .or [team] [] (.add _ (.keep hgroup (.nil .or)))
  have hweakened : r.Weakened r' :=
    .branch .and [] [] (.keep hbranch (.drop _ (.keep (.refl .same last) (.nil .and))))
  have haccepts : r.accepts incident = true := by decide +kernel
  obtain ⟨hr', hlists⟩ := accepts_of_weakened hweakened
  exact ⟨hweakened, haccepts, hr' Incident incident haccepts, hlists⟩

end IncidentTracker
