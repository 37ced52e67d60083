import CertGraph.Proofs.Resolution.Made
import CertGraph.Proofs.Resolution.PostOrder
import Mathlib.Logic.Relation

/- How a call fails: one wrapper for each asset on the way to the failure, from the target inwards. -/
set_option autoImplicit false
set_option relaxedAutoImplicit false

namespace CertGraph

open CertGraph.Text (quoted)
open Relation (ReflTransGen)

variable {σ ε : Type}

namespace Failure

/-- What a failure was raised from, if from another. -/
def cause? : Failure → Option Failure
  | .configuration fault => fault.cause?.map .value
  | .cryptography fault => fault.cause?.map .value
  | .because _ cause => some cause
  | .generation _ _ cause => some cause
  | _ => none

/-- The asset that a failed generation is about. -/
def assetName? : Failure → Option String
  | .because failure _ => failure.assetName?
  | .generation _ name _ => some name
  | _ => none

/-- A failure raised from another about an asset of a name, with a wording that goes on with that of
the other. -/
structure Wraps (failure cause : Failure) (opening name : String) : Prop where
  named : failure.assetName? = some name
  caused : failure.cause? = some cause
  worded : failure.message = opening ++ quoted name ++ ": " ++ cause.message

private theorem wraps_generating (name : String) (cause : Failure) :
    (Failure.generation .generating name cause).Wraps cause "failed to generate asset " name :=
  ⟨rfl, rfl, rfl⟩

theorem isOfGraph_of_assetName? {failure : Failure} {name : String}
    (named : failure.assetName? = some name) : failure.isOfGraph = true := by
  induction failure with
  | because failure cause ih => exact ih named
  | generation stage name cause => rfl
  | _ => cases named

theorem wraps_fetching {failure : Failure} (ofGraph : failure.isOfGraph = true) (name : String) :
    (Resolution.fetchFailure name failure).Wraps failure "failed to fetch dependency of " name := by
  rw [Resolution.fetchFailure, if_pos ofGraph]
  exact ⟨rfl, rfl, rfl⟩

/-- One failure was raised from another. -/
def RaisedFrom (failure cause : Failure) : Prop :=
  failure.cause? = some cause

private theorem leads_to_value {failure : Failure} {fault? : Option ValueFault}
    (caused : failure.cause? = fault?.map .value)
    (ends : failure.root = (fault?.map .value).getD failure) :
    ReflTransGen RaisedFrom failure failure.root ∧ failure.root.cause? = none := by
  cases fault? with
  | none =>
    have same : failure.root = failure := ends
    rw [same]
    exact ⟨.refl, caused⟩
  | some fault =>
    have last : failure.root = .value fault := ends
    rw [last]
    exact ⟨.single caused, rfl⟩

/-- Going from a failure to its cause as long as there is one ends at the root. -/
theorem leads_to_root (failure : Failure) :
    ReflTransGen RaisedFrom failure failure.root ∧ failure.root.cause? = none := by
  induction failure with
  | configuration fault => exact leads_to_value rfl rfl
  | cryptography fault => exact leads_to_value rfl rfl
  | because failure cause _ ih => exact ⟨.head rfl ih.1, ih.2⟩
  | generation stage name cause ih => exact ⟨.head rfl ih.1, ih.2⟩
  | _ => exact ⟨.refl, rfl⟩

private theorem Wraps.root_eq {failure cause : Failure} {opening name : String}
    (wraps : failure.Wraps cause opening name) : failure.root = cause.root := by
  have caused := wraps.caused
  cases failure with
  | configuration fault => cases wraps.named
  | cryptography fault => cases wraps.named
  | because failure inner => cases caused; rfl
  | generation stage name inner => cases caused; rfl
  | _ => cases caused

end Failure

namespace Catalog

/-- The factory of each key makes assets, and of that key only. -/
def KeysMatch (catalog : Catalog σ ε) : Prop :=
  ∀ key factory, catalog.entries.lookup key = some factory →
    ∀ app, ∃ asset, (factory app).1 = .ok asset ∧ asset.key = key

theorem not_mem_keys_of_lookup {catalog : Catalog σ ε} {key : String}
    (absent : catalog.entries.lookup key = none) : key ∉ catalog.keys := by
  intro registered
  obtain ⟨entry, member, same⟩ := List.mem_map.mp registered
  have unequal := List.lookup_eq_none_iff.mp absent entry member
  simp [same] at unequal

private theorem KeysMatch.unregistered {catalog : Catalog σ ε} (matching : catalog.KeysMatch)
    {key : String} {failure : Failure} {workshop after : Workshop σ}
    (created : (catalog.create key).outcome workshop = (.error failure, after)) :
    key ∉ catalog.keys ∧ failure = .unknownAsset key := by
  cases found : catalog.entries.lookup key with
  | none =>
    rw [create, found] at created
    cases created
    exact ⟨not_mem_keys_of_lookup found, rfl⟩
  | some factory => exact absurd created (create_ne_error found (matching key factory found))

end Catalog

/-- Wrappers around a failure, one for each asset of a path: each asset depends on the next, and the
last has failed to generate, or depends on a key that is not registered or that stands on the way
to it. The generation that failed saw the recorded assets and left the workshop. -/
inductive Nest (catalog : Catalog σ ε) (parents : Parents ε) (workshop : Workshop σ) :
    List String → List (Asset σ ε) → Failure → Failure → Prop
  | generating {outer : List String} {asset : Asset σ ε} {failure cause : Failure}
      {before : Workshop σ}
      (raised : (asset.generate parents).outcome before = (.error cause, workshop))
      (wraps : failure.Wraps cause "failed to generate asset " asset.name) :
      Nest catalog parents workshop outer [asset] failure cause
  | unknown {outer : List String} {asset : Asset σ ε} {failure : Failure} {key : String}
      (declared : key ∈ asset.dependencies) (unregistered : key ∉ catalog.keys)
      (wraps : failure.Wraps (.unknownAsset key) "failed to fetch dependency of " asset.name) :
      Nest catalog parents workshop outer [asset] failure (.unknownAsset key)
  | cycle {outer : List String} {asset : Asset σ ε} {failure : Failure} {key : String}
      (declared : key ∈ asset.dependencies) (onWay : key ∈ outer ++ [asset.key])
      (wraps : failure.Wraps (.cycle (loopOf (outer ++ [asset.key]) key))
        "failed to fetch dependency of " asset.name) :
      Nest catalog parents workshop outer [asset] failure
        (.cycle (loopOf (outer ++ [asset.key]) key))
  | fetching {outer : List String} {asset other : Asset σ ε} {path : List (Asset σ ε)}
      {failure cause bottom : Failure}
      (declared : other.key ∈ asset.dependencies) (makes : catalog.Makes other.key other)
      (wraps : failure.Wraps cause "failed to fetch dependency of " asset.name)
      (rest : Nest catalog parents workshop (outer ++ [asset.key]) (other :: path) cause bottom) :
      Nest catalog parents workshop outer (asset :: other :: path) failure bottom

namespace Nest

variable {catalog : Catalog σ ε} {parents : Parents ε} {workshop : Workshop σ}
  {outer : List String} {path : List (Asset σ ε)} {failure bottom : Failure}

private theorem isOfGraph (nest : Nest catalog parents workshop outer path failure bottom) :
    failure.isOfGraph = true := by
  cases nest with
  | generating raised wraps => exact Failure.isOfGraph_of_assetName? wraps.named
  | unknown declared unregistered wraps => exact Failure.isOfGraph_of_assetName? wraps.named
  | cycle declared onWay wraps => exact Failure.isOfGraph_of_assetName? wraps.named
  | fetching declared makes wraps rest => exact Failure.isOfGraph_of_assetName? wraps.named

private theorem root_eq (nest : Nest catalog parents workshop outer path failure bottom) :
    failure.root = bottom.root := by
  induction nest with
  | generating raised wraps => exact wraps.root_eq
  | unknown declared unregistered wraps => exact wraps.root_eq
  | cycle declared onWay wraps => exact wraps.root_eq
  | fetching declared makes wraps rest ih => exact wraps.root_eq.trans ih

end Nest

/-- How a task fails: its key is not registered, or closes a cycle, or the failure is a nest whose
path starts at the asset of the task. -/
def Task.FailsBy (catalog : Catalog σ ε) (session after : Session σ ε) (failure : Failure) :
    Task σ ε → Prop
  | .target (.key key) =>
    (key ∉ catalog.keys ∧ failure = .unknownAsset key) ∨
      (key ∈ session.executor.stack ∧ failure = .cycle (loopOf session.executor.stack key)) ∨
      ∃ asset path bottom, catalog.Makes key asset ∧
        Nest catalog after.executor.parents after.workshop session.executor.stack (asset :: path)
          failure bottom
  | .target (.asset asset) =>
    (asset.key ∈ session.executor.stack ∧
        failure = .cycle (loopOf session.executor.stack asset.key)) ∨
      ∃ path bottom,
        Nest catalog after.executor.parents after.workshop session.executor.stack (asset :: path)
          failure bottom
  | .finish asset _ => ∃ path bottom,
      Nest catalog after.executor.parents after.workshop session.executor.stack.dropLast
        (asset :: path) failure bottom

/-- The dependencies that are still to be resolved are some of the asset on top of the stack. -/
def Task.Topped : Task σ ε → Session σ ε → Prop
  | .target _, _ => True
  | .finish asset pending, session =>
    session.executor.stack.getLast? = some asset.key ∧ pending ⊆ asset.dependencies

namespace Runs

variable {catalog : Catalog σ ε} {task : Task σ ε} {session after : Session σ ε}
  {result : Except Failure (Node ε)}

private theorem failsBy (run : Runs catalog task session result after) (matching : catalog.KeysMatch)
    (topped : task.Topped session) {failure : Failure} (failed : result = .error failure) :
    task.FailsBy catalog session after failure := by
  induction run generalizing failure with
  | reuseKey known => cases failed
  | reuseAsset known => cases failed
  | uncreated absent created =>
    cases failed
    exact .inl (matching.unregistered created)
  | created absent created rest ih =>
    have makes := Catalog.makes_of_create created
    rcases ih trivial failed with ⟨stacked, closed⟩ | ⟨path, bottom, nest⟩
    · rw [makes.1] at stacked closed
      exact .inr (.inl ⟨stacked, closed⟩)
    · exact .inr (.inr ⟨_, path, bottom, makes, nest⟩)
  | cycle absent stacked =>
    cases failed
    exact .inl ⟨stacked, rfl⟩
  | @visited asset session after result absent unstacked rest ih =>
    have pushed : (session.push asset.key).executor.stack.getLast? = some asset.key := by
      simp [Session.push]
    obtain ⟨path, bottom, nest⟩ := ih ⟨pushed, List.Subset.refl _⟩ failed
    -- the nest is seen from the stack below the asset, which is the one before it was pushed
    refine .inr ⟨path, bottom, ?_⟩
    simpa [Session.push] using nest
  | @fetched asset key pending node session middle after result first rest ihFirst ihRest =>
    obtain ⟨last, pendingIn⟩ := topped
    have sameStack : middle.executor.stack = session.executor.stack := first.stack_eq
    have others : ∀ key ∈ pending, key ∈ asset.dependencies :=
      fun key member => pendingIn (List.mem_cons_of_mem _ member)
    have below := ihRest ⟨sameStack ▸ last, others⟩ failed
    simpa only [Task.FailsBy, sameStack] using below
  | @unfetched asset key pending inner session middle first ih =>
    obtain ⟨last, pendingIn⟩ := topped
    have declared : key ∈ asset.dependencies := pendingIn List.mem_cons_self
    have whole := List.dropLast_append_getLast? asset.key last
    cases failed
    rcases ih trivial rfl with ⟨unregistered, rfl⟩ | ⟨stacked, rfl⟩ |
      ⟨other, path, bottom, makes, nest⟩
    · exact ⟨[], _, .unknown declared unregistered (Failure.wraps_fetching rfl _)⟩
    · rw [← whole] at stacked ⊢
      exact ⟨[], _, .cycle declared stacked (Failure.wraps_fetching rfl _)⟩
    · obtain rfl := makes.1
      rw [← whole] at nest
      exact ⟨other :: path, bottom,
        .fetching declared makes (Failure.wraps_fetching nest.isOfGraph _) nest⟩
  | broken raised =>
    cases failed
    exact ⟨[], _, .generating raised (Failure.wraps_generating _ _)⟩
  | made generated => cases failed

end Runs

/-- An asset that a target stands for: the one at hand, or one that the factory of the key makes. -/
def Target.Denotes (catalog : Catalog σ ε) (asset : Asset σ ε) : Target σ ε → Prop
  | .key sought => catalog.Makes sought asset
  | .asset given => given = asset

namespace Resolution

/-- A call that fails, whatever was called for before: its target is a key that is not registered,
or the failure is a nest of wrappers around the first failure, with one wrapper for each asset of a
path of dependencies from the target to the asset that failed. The root is where the chain of
causes ends, behind the first failure. -/
theorem call_fails_in_nest (catalog : Catalog σ ε) (matching : catalog.KeysMatch)
    (workshop : Workshop σ) (targets : List (Target σ ε)) (target : Target σ ε) :
    let before := callAll catalog targets (.fresh workshop)
    let result := (call catalog target before).1
    let after := (call catalog target before).2
    ∀ failure, result = .error failure →
      ((∃ key, target = .key key ∧ key ∉ catalog.keys ∧ failure = .unknownAsset key) ∨
        ∃ asset path bottom, target.Denotes catalog asset ∧
          Nest catalog after.executor.parents after.workshop [] (asset :: path) failure bottom ∧
          failure.root = bottom.root) ∧
      ReflTransGen Failure.RaisedFrom failure failure.root ∧ failure.root.cause? = none := by
  intro before result after failure failed
  refine ⟨?_, failure.leads_to_root⟩
  have idle : before.Idle := (callAll_induction targets (Session.Idle.fresh workshop)
    (motive := fun _ => True) trivial fun _ _ _ _ _ => trivial).1
  have run : Runs catalog (.target target) before result after := call_runs target idle
  have fails := run.failsBy matching trivial failed
  cases target with
  | key key =>
    simp only [Task.FailsBy, idle.stack_nil] at fails
    rcases fails with ⟨unregistered, unknown⟩ | ⟨stacked, -⟩ | ⟨asset, path, bottom, makes, nest⟩
    · exact .inl ⟨key, rfl, unregistered, unknown⟩
    · cases stacked
    · exact .inr ⟨asset, path, bottom, makes, nest, nest.root_eq⟩
  | asset asset =>
    simp only [Task.FailsBy, idle.stack_nil] at fails
    rcases fails with ⟨stacked, -⟩ | ⟨path, bottom, nest⟩
    · cases stacked
    · exact .inr ⟨asset, path, bottom, rfl, nest, nest.root_eq⟩

/-- An asset of an application that never generates, and one that needs it. -/
def stuck : Catalog Unit Unit :=
  ⟨[plain "base" [],
    ("broken", .always (.custom ⟨"broken", "Broken", ["base"], none, (), fun _ =>
      Work.fail (.because (.application "RuntimeError" "no luck") (.value .keySizeMissing))⟩)),
    plain "top" ["base", "broken"]], by decide⟩

private theorem stuck_keysMatch : stuck.KeysMatch := by
  intro key factory found app
  have member : (key, factory) ∈ stuck.entries := Catalog.lookup_eq_some_iff.mp found
  simp only [stuck, plain, List.mem_cons, Prod.mk.injEq, List.not_mem_nil, or_false] at member
  rcases member with ⟨rfl, rfl⟩ | ⟨rfl, rfl⟩ | ⟨rfl, rfl⟩ <;>
    exact ⟨_, rfl, rfl⟩

/-- What a call failed with, if it failed. -/
def failure? : Except Failure (Node ε) → Option Failure
  | .error failure => some failure
  | .ok _ => none

/-- After a call that generates the base, and a first attempt that fails, the wrappers name the two
assets from the target to the one that never generates. -/
theorem stuck_fails_in_nest :
    let before := callAll stuck [.key "base", .key "top"] (.fresh bareWorkshop)
    let result := (call stuck (.key "top") before).1
    let after := (call stuck (.key "top") before).2
    stuck.KeysMatch ∧ ∃ failure, result = .error failure ∧
      failure.message = "failed to fetch dependency of 'top': " ++
        "failed to generate asset 'Broken': no luck" ∧
      failure.root.message = "'<' not supported between instances of 'list' and 'int'" ∧
      ∃ asset path bottom, stuck.Makes "top" asset ∧
        Nest stuck after.executor.parents after.workshop [] (asset :: path) failure bottom ∧
        failure.root = bottom.root := by
  have main := call_fails_in_nest stuck stuck_keysMatch bareWorkshop [.key "base", .key "top"]
    (.key "top")
  have ends : (failure? (call stuck (.key "top")
      (callAll stuck [.key "base", .key "top"] (.fresh bareWorkshop))).1).map
        (fun failure => (failure.message, failure.root.message)) =
      some ("failed to fetch dependency of 'top': failed to generate asset 'Broken': no luck",
        "'<' not supported between instances of 'list' and 'int'") := by
    decide +kernel
  dsimp only at main ends ⊢
  -- only what the two facts say of the call is used; unfolding it would run it
  generalize call stuck (.key "top")
    (callAll stuck [.key "base", .key "top"] (.fresh bareWorkshop)) = ended at main ends ⊢
  obtain ⟨failure, failed, messages⟩ := Option.map_eq_some_iff.mp ends
  obtain ⟨worded, rootWorded⟩ := Prod.mk.inj messages
  cases isResult : ended.1 with
  | ok node =>
    rw [isResult] at failed
    cases failed
  | error actual =>
    rw [isResult] at failed
    obtain rfl : actual = failure := Option.some.inj failed
    refine ⟨stuck_keysMatch, actual, rfl, worded, rootWorded, ?_⟩
    rcases (main actual isResult).1 with ⟨key, same, unregistered, -⟩ |
      ⟨asset, path, bottom, makes, nest, root⟩
    · cases same
      exact absurd (by decide : "top" ∈ stuck.keys) unregistered
    · exact ⟨asset, path, bottom, makes, nest, root⟩

end Resolution

end CertGraph
