import CertGraph.Proofs.Publication.Targets
import CertGraph.Proofs.Resolution.Grounded

/- Resolving all targets of a publication: either everything recorded is grounded, or one of the
targets breaks. -/
set_option autoImplicit false
set_option relaxedAutoImplicit false

namespace CertGraph

open Relation (ReflTransGen)

variable {σ ε : Type}

/-- The dependency closure of some keys. -/
def Catalog.Closure (catalog : Catalog σ ε) (targets : List String) (key : String) : Prop :=
  ∃ target ∈ targets, ReflTransGen catalog.CanNeed target key

/-- What an asset of a key can need, every asset of that key needs. -/
def Catalog.Certain (catalog : Catalog σ ε) : Prop :=
  ∀ key other, catalog.CanNeed key other → catalog.Needs key other

namespace Session.Made

variable {catalog : Catalog σ ε} {session : Session σ ε}

private theorem canNeed_of_depends (made : session.Made catalog) {key other : String}
    (depends : session.executor.Depends key other) : catalog.CanNeed key other := by
  obtain ⟨node, known, member⟩ := depends
  obtain ⟨asset, makes, holds, -⟩ := made key node known
  rw [holds] at member
  exact ⟨asset, makes, member⟩

theorem generated_of_reached (made : session.Made catalog) (orderly : session.executor.Orderly)
    (certain : catalog.Certain) {key other : String} (generated : key ∈ session.executor.generated)
    (reached : ReflTransGen catalog.CanNeed key other) : other ∈ session.executor.generated := by
  induction reached with
  | refl => exact generated
  | tail _ needed ih => exact made.needs_recorded orderly ih (certain _ _ needed)

end Session.Made

namespace Catalog.Loop

/-- A loop that can come up is one that leads round its root for certain. -/
theorem doomed {catalog : Catalog σ ε} {root : String} {path : List String}
    (loop : catalog.Loop root path) (certain : catalog.Certain) : catalog.Doomed root := by
  obtain ⟨long, closed, -, linked, reached⟩ := loop
  have needs {key other : String} (leads : ReflTransGen catalog.CanNeed key other) :
      ReflTransGen catalog.Needs key other := leads.lift id certain
  match path, long with
  | head :: next :: others, _ =>
    obtain ⟨link, back⟩ := List.isChain_cons_cons.mp linked
    have ends : (next :: others).getLast (List.cons_ne_nil _ _) = head := by
      rw [List.getLast?_cons_cons, List.getLast?_eq_some_getLast (List.cons_ne_nil _ _)] at closed
      exact (Option.some.inj closed).symm
    have leads := List.relationReflTransGen_of_exists_isChain_cons others back ends
    exact ⟨head, needs (reached head List.mem_cons_self), .head' (certain _ _ link) (needs leads)⟩

end Catalog.Loop

namespace Publication

variable {catalog : Catalog σ ε} {allowed : Supply → Prop}

private theorem resolveAll_grounded (keeps : catalog.Keeps allowed) {targets : List String}
    {session after : Session σ ε} (idle : session.Idle) (orderly : session.executor.Orderly)
    (grounded : session.Grounded catalog allowed)
    (resolved : outcome (resolveAll catalog targets) session = (.ok (), after)) :
    after.Grounded catalog allowed := by
  induction targets generalizing session with
  | nil =>
    cases resolved
    exact grounded
  | cons target targets ih =>
    obtain ⟨node, middle, first, rest⟩ := outcome_bind_ok resolved
    have run : Runs catalog _ _ _ _ := Resolution.call_runs (.key target) idle
    have idleMiddle : (Resolution.call catalog _ _).2.Idle := Resolution.call_idle (.key target) idle
    rw [Resolution.call, first] at run idleMiddle
    exact ih idleMiddle (run.orderly idle.steady trivial orderly)
      (run.grounded keeps (.start idle orderly grounded)) rest

private theorem resolveAll_breaks (keeps : catalog.Keeps allowed) {targets : List String}
    {session after : Session σ ε} {failure : Failure} (idle : session.Idle)
    (orderly : session.executor.Orderly) (grounded : session.Grounded catalog allowed)
    (failed : outcome (resolveAll catalog targets) session = (.error failure, after)) :
    ∃ target ∈ targets, catalog.Breaks allowed target failure := by
  induction targets generalizing session with
  | nil => cases failed
  | cons target targets ih =>
    have run : Runs catalog _ _ _ _ := Resolution.call_runs (.key target) idle
    have idleMiddle : (Resolution.call catalog _ _).2.Idle := Resolution.call_idle (.key target) idle
    have underway : Underway catalog allowed target (.target (.key target)) session :=
      .start idle orderly grounded
    simp only [resolveAll, outcome_bind] at failed
    rw [Resolution.call] at run idleMiddle
    rcases first : outcome (Resolution.resolve catalog (.key target)) session with
      ⟨cause | node, middle⟩
    · rw [first] at failed run
      cases failed
      exact ⟨target, List.mem_cons_self, run.breaks keeps underway⟩
    · rw [first] at failed run idleMiddle
      obtain ⟨other, member, breaks⟩ := ih idleMiddle (run.orderly idle.steady trivial orderly)
        (run.grounded keeps underway) failed
      exact ⟨other, List.mem_cons_of_mem _ member, breaks⟩

variable {targets : List String} {site after : Site σ}

/-- Once all targets are resolved, exactly their closure is recorded, each asset from what was recorded
before it. -/
theorem resolveTargets_grounded (keeps : catalog.Keeps allowed) (certain : catalog.Certain)
    (supplied : allowed site.workshop.supply) {executor : Executor ε}
    (resolved : outcome (resolveTargets catalog targets) site = (.ok executor, after)) :
    executor.Orderly ∧ (⟨after.workshop, executor⟩ : Session σ ε).Grounded catalog allowed ∧
      ∀ key, key ∈ executor.generated ↔ catalog.Closure targets key := by
  obtain ⟨orderly, made, members, -⟩ := resolveTargets_ok resolved
  have fresh : (⟨site.workshop, Executor.fresh⟩ : Session σ ε) = .fresh site.workshop := rfl
  simp only [outcome, resolveTargets, fresh] at resolved
  cases ran : resolveAll catalog targets (.fresh site.workshop) with
  | error failure session =>
    rw [ran] at resolved
    cases resolved
  | ok value session =>
    rw [ran] at resolved
    cases resolved
    have ended : outcome (resolveAll catalog targets) (.fresh site.workshop) = (.ok (), session) := by
      rw [outcome, ran]
    refine ⟨orderly, resolveAll_grounded keeps (.fresh site.workshop) .fresh (.fresh supplied) ended,
      fun key => ⟨?_, ?_⟩⟩
    · intro generated
      obtain ⟨target, isTarget, reached⟩ := (members key).mp generated
      exact ⟨target, isTarget, reached.lift id fun _ _ => made.canNeed_of_depends⟩
    · rintro ⟨target, isTarget, reached⟩
      exact made.generated_of_reached orderly certain ((members target).mpr ⟨target, isTarget, .refl⟩)
        reached

/-- Where resolving the targets fails, one of them breaks. -/
theorem resolveTargets_breaks (keeps : catalog.Keeps allowed)
    (supplied : allowed site.workshop.supply) {fault : RunFault}
    (failed : outcome (resolveTargets catalog targets) site = (.error fault, after)) :
    ∃ failure, fault = .failure failure ∧
      ∃ target ∈ targets, catalog.Breaks allowed target failure := by
  have fresh : (⟨site.workshop, Executor.fresh⟩ : Session σ ε) = .fresh site.workshop := rfl
  simp only [outcome, resolveTargets, fresh] at failed
  cases ran : resolveAll catalog targets (.fresh site.workshop) with
  | ok value session =>
    rw [ran] at failed
    cases failed
  | error failure session =>
    rw [ran] at failed
    cases failed
    have ended : outcome (resolveAll catalog targets) (.fresh site.workshop) =
        (.error failure, session) := by
      rw [outcome, ran]
    exact ⟨failure, rfl,
      resolveAll_breaks keeps (.fresh site.workshop) .fresh (.fresh supplied) ended⟩

end Publication

end CertGraph
