import CertGraph.Proofs.Resolution.Closure
import CertGraph.Proofs.Resolution.Cycles
import CertGraph.Proofs.Resolution.Nest

/- How calls fail if factories may make assets of other keys than their own, or raise failures: such a
failure, if it is none of the graph, passes all assets on its way unchanged. -/
set_option autoImplicit false
set_option relaxedAutoImplicit false

namespace CertGraph

open Relation (ReflTransGen)

variable {σ ε : Type}

namespace Catalog

/-- A failure none of the graph that a key can lead to: the factory of the key, or of one that is needed
from there on, made an asset of another key, or raised the failure. -/
def Strays (catalog : Catalog σ ε) (key : String) (failure : Failure) : Prop :=
  failure.isOfGraph = false ∧ ∃ far, ReflTransGen catalog.CanNeed key far ∧
    ((∃ built, catalog.Misnames far built ∧ failure = .configuration (.factoryMismatch far built)) ∨
      catalog.Raises far failure)

variable {catalog : Catalog σ ε} {key other : String} {failure : Failure}

private theorem Strays.head (needed : catalog.CanNeed key other)
    (strays : catalog.Strays other failure) :
    catalog.Strays key failure := by
  obtain ⟨notOfGraph, far, reached, made⟩ := strays
  exact ⟨notOfGraph, far, .head needed reached, made⟩

/-- What cannot be made is not registered, or its factory raised a failure of the graph, or the failure
strays. -/
theorem strays_of_create {workshop after : Workshop σ}
    (created : (catalog.create key).outcome workshop = (.error failure, after)) :
    (key ∉ catalog.keys ∧ failure = .unknownAsset key) ∨
      (failure.isOfGraph = true ∧ catalog.Raises key failure) ∨ catalog.Strays key failure := by
  rcases create_error created with ⟨absent, unknown⟩ | ⟨built, misnames, rfl⟩ | raises
  · exact .inl ⟨not_mem_keys_of_lookup absent, unknown⟩
  · exact .inr (.inr ⟨rfl, key, .refl, .inl ⟨built, misnames, rfl⟩⟩)
  · cases ofGraph : failure.isOfGraph with
    | true => exact .inr (.inl ⟨rfl, raises⟩)
    | false => exact .inr (.inr ⟨ofGraph, key, .refl, .inr raises⟩)

end Catalog

/-- How a task fails, whatever factories make or raise: its key is not registered or closes a cycle, or
its factory raised a failure of the graph, or the failure is about the asset of the task, or it is a
stray one of that or of what it depends on. -/
def Task.FailsAnyhow (catalog : Catalog σ ε) (session : Session σ ε) (failure : Failure) :
    Task σ ε → Prop
  | .target (.key key) =>
    (key ∉ catalog.keys ∧ failure = .unknownAsset key) ∨
      (key ∈ session.executor.stack ∧ failure = .cycle (loopOf session.executor.stack key)) ∨
      (failure.isOfGraph = true ∧ catalog.Raises key failure) ∨
      (∃ asset, catalog.Makes key asset ∧ failure.assetName? = some asset.name) ∨
      catalog.Strays key failure
  | .target (.asset asset) =>
    (asset.key ∈ session.executor.stack ∧
        failure = .cycle (loopOf session.executor.stack asset.key)) ∨
      failure.assetName? = some asset.name ∨
      ∃ dependency ∈ asset.dependencies, catalog.Strays dependency failure
  | .finish asset _ => failure.assetName? = some asset.name ∨
      ∃ dependency ∈ asset.dependencies, catalog.Strays dependency failure

namespace Runs

variable {catalog : Catalog σ ε} {task : Task σ ε} {session after : Session σ ε}
  {result : Except Failure (Node ε)}

private theorem failsAnyhow (run : Runs catalog task session result after) (isPartial : task.Partial)
    {failure : Failure} (failed : result = .error failure) :
    task.FailsAnyhow catalog session failure := by
  induction run generalizing failure with
  | reuseKey known => cases failed
  | reuseAsset known => cases failed
  | uncreated absent created =>
    cases failed
    rcases Catalog.strays_of_create created with unknown | raised | strays
    · exact .inl unknown
    · exact .inr (.inr (.inl raised))
    · exact .inr (.inr (.inr (.inr strays)))
  | created absent created rest ih =>
    have makes := Catalog.makes_of_create created
    rcases ih trivial failed with ⟨stacked, closed⟩ | named | ⟨dependency, declared, strays⟩
    · rw [makes.1] at stacked closed
      exact .inr (.inl ⟨stacked, closed⟩)
    · exact .inr (.inr (.inr (.inl ⟨_, makes, named⟩)))
    · exact .inr (.inr (.inr (.inr (strays.head ⟨_, makes, declared⟩))))
  | cycle absent stacked =>
    cases failed
    exact .inl ⟨stacked, rfl⟩
  | visited absent unstacked rest ih => exact .inr (ih (List.Subset.refl _) failed)
  | fetched first rest ihFirst ihRest =>
    exact ihRest (fun key member => isPartial (List.mem_cons_of_mem _ member)) failed
  | @unfetched asset key pending inner session middle first ih =>
    cases failed
    -- every failure of the graph gets a wrapper with the name of the asset; a stray one passes as it is
    have wrapped (ofGraph : inner.isOfGraph = true) :
        (Resolution.fetchFailure asset.name inner).assetName? = some asset.name :=
      (Failure.wraps_fetching ofGraph asset.name).named
    rcases ih trivial rfl with ⟨-, rfl⟩ | ⟨-, rfl⟩ | ⟨ofGraph, -⟩ | ⟨other, -, named⟩ | strays
    · exact .inl (wrapped rfl)
    · exact .inl (wrapped rfl)
    · exact .inl (wrapped ofGraph)
    · exact .inl (wrapped (Failure.isOfGraph_of_assetName? named))
    · rw [Resolution.fetchFailure, strays.1, if_neg Bool.false_ne_true]
      exact .inr ⟨key, isPartial List.mem_cons_self, strays⟩
  | broken raised =>
    cases failed
    exact .inl rfl
  | made generated => cases failed

end Runs

/-- The keys that a target starts at: its own, or what the asset at hand depends on. -/
def Target.StartsAt (key : String) : Target σ ε → Prop
  | .key sought => sought = key
  | .asset given => key ∈ given.dependencies

namespace Resolution

/-- A call that fails, for every catalog and whatever was called for before. Either the failure is one
of the graph: the target is a key that is not registered or whose factory raised it, or the failure is
about the asset of the target, by name. Or it is none of the graph: the factory of a key that the target
starts at, or that is needed from there on, made an asset of another key or raised the failure itself,
and that comes out as it was raised. -/
theorem call_fails_of_graph_or_factory (catalog : Catalog σ ε) (workshop : Workshop σ)
    (targets : List (Target σ ε)) (target : Target σ ε) :
    let before := callAll catalog targets (.fresh workshop)
    ∀ failure, (call catalog target before).1 = .error failure →
      (failure.isOfGraph = true ∧
        ((∃ key, target = .key key ∧
            (key ∉ catalog.keys ∧ failure = .unknownAsset key ∨ catalog.Raises key failure)) ∨
          ∃ asset, target.Denotes catalog asset ∧ failure.assetName? = some asset.name)) ∨
      (failure.isOfGraph = false ∧ ∃ key, target.StartsAt key ∧ catalog.Strays key failure) := by
  intro before failure failed
  have idle : before.Idle := (callAll_induction targets (Session.Idle.fresh workshop)
    (motive := fun _ => True) trivial fun _ _ _ _ _ => trivial).1
  have run : Runs catalog (.target target) before _ _ := call_runs target idle
  have fails := run.failsAnyhow trivial failed
  cases target with
  | key key =>
    simp only [Task.FailsAnyhow, idle.stack_nil] at fails
    rcases fails with unknown | ⟨stacked, -⟩ | ⟨ofGraph, raises⟩ | ⟨asset, makes, named⟩ | strays
    · exact .inl ⟨unknown.2 ▸ rfl, .inl ⟨key, rfl, .inl unknown⟩⟩
    · cases stacked
    · exact .inl ⟨ofGraph, .inl ⟨key, rfl, .inr raises⟩⟩
    · exact .inl ⟨Failure.isOfGraph_of_assetName? named, .inr ⟨asset, makes, named⟩⟩
    · exact .inr ⟨strays.1, key, rfl, strays⟩
  | asset asset =>
    simp only [Task.FailsAnyhow, idle.stack_nil] at fails
    rcases fails with ⟨stacked, -⟩ | named | ⟨dependency, declared, strays⟩
    · cases stacked
    · exact .inl ⟨Failure.isOfGraph_of_assetName? named, .inr ⟨asset, rfl, named⟩⟩
    · exact .inr ⟨strays.1, dependency, declared, strays⟩

/-- An asset that needs another, whose factory makes an asset of a third key. -/
def mislaid : Catalog Unit Unit :=
  ⟨[plain "top" ["base"], ("base", (plain "other" []).2)], by decide⟩

/-- The failure is none of the graph, although the failing key is not the target, and it names no asset.
-/
theorem mislaid_not_of_graph :
    ∃ failure, (call mislaid (.key "top") (.fresh bareWorkshop)).1 = .error failure ∧
      failure.isOfGraph = false ∧ failure.assetName? = none :=
  ⟨.configuration (.factoryMismatch "base" "other"), rfl, rfl, rfl⟩

/-- The failure comes from a key that the target leads to. -/
theorem mislaid_strays :
    ∃ failure, (call mislaid (.key "top") (.fresh bareWorkshop)).1 = .error failure ∧
      mislaid.Strays "top" failure := by
  have failed : (call mislaid (.key "top") (.fresh bareWorkshop)).1 =
      .error (.configuration (.factoryMismatch "base" "other")) := rfl
  refine ⟨_, failed, ?_⟩
  rcases call_fails_of_graph_or_factory mislaid bareWorkshop [] (.key "top") _ failed with
    ⟨ofGraph, -⟩ | ⟨-, key, rfl, strays⟩
  · cases ofGraph
  · exact strays

end Resolution

end CertGraph
