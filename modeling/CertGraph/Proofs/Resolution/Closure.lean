import CertGraph.Proofs.Resolution.Made
import CertGraph.Proofs.Resolution.Order
import Mathlib.Logic.Relation

/- Closures: what calls that succeed generate is reached from their targets. -/
set_option autoImplicit false
set_option relaxedAutoImplicit false

namespace CertGraph

open Relation (ReflTransGen)

variable {σ ε : Type}

/-- The asset recorded under one key depends on another. -/
def Executor.Depends (executor : Executor ε) (key other : String) : Prop :=
  ∃ node, executor.parents.get? key = some node ∧ other ∈ node.dependencies

private theorem Session.Grown.depends {before after : Session σ ε} (grown : before.Grown after)
    {key other : String} (depends : before.executor.Depends key other) :
    after.executor.Depends key other :=
  depends.imp fun _ recorded => ⟨grown.get? recorded.1, recorded.2⟩

theorem Session.Grown.reaches {before after : Session σ ε} (grown : before.Grown after)
    {key other : String} (reached : ReflTransGen before.executor.Depends key other) :
    ReflTransGen after.executor.Depends key other :=
  reached.lift id fun _ _ => grown.depends

/-- What is recorded already, or reached from a key. -/
def Session.Reached (before after : Session σ ε) (key other : String) : Prop :=
  other ∈ before.executor.generated ∨ ReflTransGen after.executor.Depends key other

/-- The dependencies that are still to be resolved are some of those of the asset. -/
def Task.Partial : Task σ ε → Prop
  | .target _ => True
  | .finish asset pending => pending ⊆ asset.dependencies

namespace Runs

variable {catalog : Catalog σ ε} {task : Task σ ε} {session after : Session σ ε}
  {result : Except Failure (Node ε)}

/-- An asset that is finished is recorded with the dependencies that it declares. -/
theorem dependencies_of_finish {asset : Asset σ ε} {pending : List String} {node : Node ε}
    (run : Runs catalog task session result after) (isFinish : task = .finish asset pending)
    (succeeded : result = .ok node) : node.dependencies = asset.dependencies := by
  induction run generalizing pending with
  | reuseKey known => cases isFinish
  | reuseAsset known => cases isFinish
  | uncreated absent created => cases isFinish
  | created absent created rest ih => cases isFinish
  | cycle absent stacked => cases isFinish
  | visited absent unstacked rest ih => cases isFinish
  | fetched first rest ihFirst ihRest =>
    cases isFinish
    exact ihRest rfl succeeded
  | unfetched first ih => cases succeeded
  | broken failed => cases succeeded
  | made generated =>
    cases isFinish
    cases succeeded
    rfl

/-- What a run that succeeds generates is reached from the key of its task. -/
theorem reached (run : Runs catalog task session result after) (steady : session.Steady)
    (ready : task.Ready session) (isPartial : task.Partial) {node : Node ε}
    (succeeded : result = .ok node) :
    ∀ other ∈ after.executor.generated, session.Reached after task.key other := by
  induction run generalizing node with
  | reuseKey known => exact fun other member => .inl member
  | reuseAsset known => exact fun other member => .inl member
  | uncreated absent created => cases succeeded
  | created absent created rest ih =>
    have same := (Catalog.makes_of_create created).1
    intro other member
    have reached := ih ⟨steady.own, steady.nodup, steady.absent⟩ trivial trivial succeeded other
      member
    simpa only [Session.Reached, Task.key, same] using reached
  | cycle absent stacked => cases succeeded
  | visited absent unstacked rest ih =>
    exact ih (steady.push absent unstacked) (.pushed _ _) (List.Subset.refl _) succeeded
  | @fetched asset key pending first' session middle after result first rest ihFirst ihRest =>
    obtain ⟨steadyMiddle, kept⟩ := first.steady_and_kept steady trivial
    have readyRest := ready.fetched first.grown first.stack_eq (kept _ rfl)
    have pendingRest : (Task.finish asset pending : Task σ ε).Partial :=
      fun other member => isPartial (List.mem_cons_of_mem _ member)
    have recorded := (rest.steady_and_kept steadyMiddle readyRest).2 node succeeded
    have edge : after.executor.Depends asset.key key := by
      refine ⟨node, recorded, ?_⟩
      rw [rest.dependencies_of_finish rfl succeeded]
      exact isPartial List.mem_cons_self
    intro other member
    -- what the first run generated hangs below the edge, unless it was there before
    rcases ihRest steadyMiddle readyRest pendingRest succeeded other member with inMiddle | further
    · rcases ihFirst steady trivial trivial rfl other inMiddle with old | fromKey
      · exact .inl old
      · exact .inr (.head edge (rest.grown.reaches fromKey))
    · exact .inr further
  | unfetched first ih => cases succeeded
  | broken failed => cases succeeded
  | made generated =>
    intro other member
    rcases List.mem_append.mp member with old | new
    · exact .inl old
    · obtain rfl := List.mem_singleton.mp new
      exact .inr .refl

end Runs

namespace Executor.Orderly

/-- All that a recorded asset leads to is recorded. -/
theorem generated_of_reaches {executor : Executor ε} (orderly : executor.Orderly)
    {key other : String} (generated : key ∈ executor.generated)
    (reaches : ReflTransGen executor.Depends key other) : other ∈ executor.generated := by
  induction reaches with
  | refl => exact generated
  | tail _ depends ih =>
    obtain ⟨node, known, member⟩ := depends
    obtain ⟨before, after, split, inBefore⟩ := orderly.dependencies _ node known _ member
    rw [split]
    exact List.mem_append_left _ inBefore

end Executor.Orderly

end CertGraph
