import CertGraph.Proofs.Resolution.Cycles
import CertGraph.Proofs.Resolution.Moments

/- What recorded assets were generated from, and what holds wherever a call stops: the assets at hand
are reached from the target, and what they were generated from is recorded still. -/
set_option autoImplicit false
set_option relaxedAutoImplicit false

namespace CertGraph

open Relation (ReflTransGen TransGen)

variable {σ ε : Type}

/-- An asset was generated in a workshop with an allowed supply, from assets among which are all that
it depends on. -/
structure Asset.GeneratedFrom (asset : Asset σ ε) (allowed : Supply → Prop) (parents : Parents ε)
    (product : Product ε) : Prop where
  prepared : ∀ dependency ∈ asset.dependencies, ∃ node, parents.get? dependency = some node
  generated : ∃ workshop after, allowed workshop.supply ∧
    (asset.generate parents).outcome workshop = (.ok product, after)

/-- Every recorded asset was generated from some that were recorded before it. -/
structure Session.Grounded (catalog : Catalog σ ε) (allowed : Supply → Prop) (session : Session σ ε) :
    Prop where
  supplied : allowed session.workshop.supply
  grounds : ∀ key node, session.executor.parents.get? key = some node →
    ∃ asset parents, catalog.Makes key asset ∧ node = asset.holding node.product ∧
      parents.entries <+: session.executor.parents.entries ∧
      asset.GeneratedFrom allowed parents node.product

namespace Session.Grounded

variable {catalog : Catalog σ ε} {allowed : Supply → Prop} {session : Session σ ε}

theorem fresh {workshop : Workshop σ} (supplied : allowed workshop.supply) :
    (Session.fresh workshop : Session σ ε).Grounded catalog allowed :=
  ⟨supplied, by rintro _ _ ⟨⟩⟩

theorem made (grounded : session.Grounded catalog allowed) : session.Made catalog := by
  intro key node known
  obtain ⟨asset, parents, makes, holds, -, -, workshop, after, -, generated⟩ :=
    grounded.grounds key node known
  exact ⟨asset, makes, holds, parents, workshop, after, generated⟩

/-- Keeping an asset right after its generation. -/
private theorem keeping {asset : Asset σ ε} {product : Product ε} {after : Session σ ε}
    (grounded : session.Grounded catalog allowed) (makes : catalog.Makes asset.key asset)
    (generated : asset.GeneratedFrom allowed session.executor.parents product)
    (supplied : allowed after.workshop.supply)
    (kept : after.executor.parents.entries =
      session.executor.parents.entries ++ [(asset.key, asset.holding product)]) :
    after.Grounded catalog allowed := by
  refine ⟨supplied, ?_⟩
  intro key node known
  have known' : (⟨session.executor.parents.entries ++
      [(asset.key, asset.holding product)]⟩ : Parents ε).get? key = some node := by
    rw [← kept]
    exact known
  rw [kept]
  rcases Parents.get?_concat_cases known' with old | ⟨rfl, rfl⟩
  · obtain ⟨other, parents, makesOther, holds, earlier, before⟩ :=
      grounded.grounds key node old
    exact ⟨other, parents, makesOther, holds, earlier.trans (List.prefix_append _ _), before⟩
  · exact ⟨asset, session.executor.parents, makes, rfl, List.prefix_append _ _, generated⟩

end Session.Grounded

/-- A task that a call comes to: its stack is a trail from the target, and recorded assets are
grounded. -/
structure Underway (catalog : Catalog σ ε) (allowed : Supply → Prop) (root : String)
    (task : Task σ ε) (session : Session σ ε) : Prop where
  steady : session.Steady
  ready : task.Ready session
  orderly : session.executor.Orderly
  declared : task.Declared catalog
  traced : task.Traced catalog root session
  grounded : session.Grounded catalog allowed

namespace Underway

variable {catalog : Catalog σ ε} {allowed : Supply → Prop} {root : String}
  {session middle : Session σ ε}

theorem start {key : String} (idle : session.Idle) (orderly : session.executor.Orderly)
    (grounded : session.Grounded catalog allowed) :
    Underway catalog allowed key (.target (.key key)) session := by
  refine ⟨idle.steady, trivial, orderly, trivial, ?_, grounded⟩
  rw [Task.Traced, idle.stack_nil]
  exact ⟨rfl, List.isChain_singleton _⟩

private theorem create {key : String} {asset : Asset σ ε} {workshop : Workshop σ}
    (underway : Underway catalog allowed root (.target (.key key)) session)
    (created : (catalog.create key).outcome session.workshop = (.ok asset, workshop)) :
    Underway catalog allowed root (.target (.asset asset)) { session with workshop } := by
  have declared := Task.declared_of_create created
  obtain ⟨factory, -, -, rfl, rfl⟩ := Catalog.create_ok created
  exact ⟨⟨underway.steady.own, underway.steady.nodup, underway.steady.absent⟩, trivial,
    underway.orderly, declared, underway.traced, underway.grounded.supplied, underway.grounded.grounds⟩

private theorem visit {asset : Asset σ ε}
    (underway : Underway catalog allowed root (.target (.asset asset)) session)
    (absent : session.executor.parents.get? asset.key = none)
    (unstacked : asset.key ∉ session.executor.stack) :
    Underway catalog allowed root (.finish asset asset.dependencies) (session.push asset.key) where
  steady := underway.steady.push absent unstacked
  ready := .pushed asset session
  orderly := ⟨underway.orderly.nodup, underway.orderly.generated_eq, underway.orderly.own,
    underway.orderly.dependencies⟩
  declared := underway.declared
  traced := ⟨underway.traced, by simp [Session.push], fun _ member => member⟩
  grounded := ⟨underway.grounded.supplied, underway.grounded.grounds⟩

private theorem first {asset : Asset σ ε} {key : String} {pending : List String}
    (underway : Underway catalog allowed root (.finish asset (key :: pending)) session) :
    Underway catalog allowed root (.target (.key key)) session := by
  obtain ⟨trail, last, inDependencies⟩ := underway.traced
  have needed : catalog.CanNeed asset.key key :=
    ⟨asset, underway.declared, inDependencies key List.mem_cons_self⟩
  exact ⟨underway.steady, trivial, underway.orderly, trivial, trail.concat last needed,
    underway.grounded⟩

private theorem rest {asset : Asset σ ε} {key : String} {pending : List String} {node : Node ε}
    (underway : Underway catalog allowed root (.finish asset (key :: pending)) session)
    (run : Runs catalog (.target (.key key)) session (.ok node) middle)
    (grounded : middle.Grounded catalog allowed) :
    Underway catalog allowed root (.finish asset pending) middle := by
  obtain ⟨trail, last, inDependencies⟩ := underway.traced
  obtain ⟨steady, kept⟩ := run.steady_and_kept underway.steady trivial
  have sameStack : middle.executor.stack = session.executor.stack := run.stack_eq
  exact ⟨steady, underway.ready.fetched run.grown sameStack (kept node rfl),
    run.orderly underway.steady trivial underway.orderly, underway.declared,
    ⟨sameStack ▸ trail, sameStack ▸ last,
      fun key member => inDependencies key (List.mem_cons_of_mem _ member)⟩, grounded⟩

/-- The key at hand is reached from the target. -/
theorem reached {task : Task σ ε} (underway : Underway catalog allowed root task session) :
    ReflTransGen catalog.CanNeed root task.key := by
  cases task with
  | target target =>
    exact underway.traced.reached (List.mem_append_right _ (List.mem_singleton.mpr rfl))
  | finish asset pending =>
    exact underway.traced.1.reached (List.mem_of_getLast? underway.traced.2.1)

/-- All that an asset depends on is recorded when it is generated. -/
theorem prepared {asset : Asset σ ε}
    (underway : Underway catalog allowed root (.finish asset []) session) :
    ∀ dependency ∈ asset.dependencies,
      ∃ node, session.executor.parents.get? dependency = some node := by
  intro dependency member
  rcases underway.ready.2 dependency member with waiting | kept
  · cases waiting
  · exact kept

end Underway

/-- Wherever an asset is generated, the supply stays as it is allowed to be. -/
def Catalog.Keeps (catalog : Catalog σ ε) (allowed : Supply → Prop) : Prop :=
  ∀ root asset session, Underway catalog allowed root (.finish asset []) session →
    allowed ((asset.generate session.executor.parents).outcome
      (session.starting asset).workshop).2.supply

namespace Runs

variable {catalog : Catalog σ ε} {allowed : Supply → Prop} {root : String} {task : Task σ ε}
  {session after : Session σ ε} {result : Except Failure (Node ε)}

/-- Whatever a run comes to, recorded assets are grounded. -/
theorem grounded (run : Runs catalog task session result after) (keeps : catalog.Keeps allowed)
    (underway : Underway catalog allowed root task session) : after.Grounded catalog allowed := by
  induction run generalizing root with
  | reuseKey known => exact ⟨underway.grounded.supplied, underway.grounded.grounds⟩
  | reuseAsset known => exact ⟨underway.grounded.supplied, underway.grounded.grounds⟩
  | uncreated absent created =>
    obtain ⟨app, rfl⟩ := Catalog.create_workshop created
    exact ⟨underway.grounded.supplied, underway.grounded.grounds⟩
  | created absent created rest ih => exact ih (underway.create created)
  | cycle absent stacked => exact underway.grounded
  | visited absent unstacked rest ih => exact ih (underway.visit absent unstacked)
  | fetched first rest ihFirst ihRest => exact ihRest (underway.rest first (ihFirst underway.first))
  | unfetched first ih =>
    have middle := ih underway.first
    exact ⟨middle.supplied, middle.grounds⟩
  | @broken asset failure session workshop raised =>
    have kept := keeps root asset session underway
    rw [raised] at kept
    exact ⟨kept, underway.grounded.grounds⟩
  | @made asset product session workshop generated =>
    have kept := keeps root asset session underway
    rw [generated] at kept
    exact underway.grounded.keeping underway.declared
      ⟨underway.prepared, (session.starting asset).workshop, workshop,
        underway.grounded.supplied, generated⟩ kept rfl

end Runs

private theorem Comes.underway {catalog : Catalog σ ε} {allowed : Supply → Prop} {root : String}
    {task later : Task σ ε} {session moment : Session σ ε}
    (comes : Comes catalog task session later moment) (keeps : catalog.Keeps allowed)
    (underway : Underway catalog allowed root task session) :
    Underway catalog allowed root later moment := by
  induction comes with
  | here => exact underway
  | created absent created rest ih => exact ih (underway.create created)
  | visited absent unstacked rest ih => exact ih (underway.visit absent unstacked)
  | fetching first ih => exact ih underway.first
  | fetched first rest ih => exact ih (underway.rest first (first.grounded keeps underway.first))

/-- After any calls for keys, whatever came of each, recorded assets are grounded. -/
theorem Resolution.callAll_grounded {catalog : Catalog σ ε} {allowed : Supply → Prop}
    (keeps : catalog.Keeps allowed) {workshop : Workshop σ} (supplied : allowed workshop.supply)
    (targets : List String) :
    (callAll catalog (targets.map .key) (.fresh workshop)).Grounded catalog allowed := by
  have both := callAll_induction
    (motive := fun session : Session σ ε => session.executor.Orderly ∧ session.Grounded catalog allowed)
    (targets.map .key) (.fresh workshop) ⟨.fresh, .fresh supplied⟩
    fun target member session idle ⟨orderly, grounded⟩ => (by
      obtain ⟨key, -, rfl⟩ := List.mem_map.mp member
      have run : Runs catalog _ _ _ _ := call_runs (.key key) idle
      exact ⟨run.orderly idle.steady trivial orderly,
        run.grounded keeps (.start idle orderly grounded)⟩)
  exact both.2.2

/-- A call for a root can fail like this: what it comes to fails of itself, and so does the call, with
the same root of the failure. -/
def Catalog.Breaks (catalog : Catalog σ ε) (allowed : Supply → Prop) (root : String)
    (failure : Failure) : Prop :=
  ∃ task moment cause stopped, Underway catalog allowed root task moment ∧
    Stops catalog task moment cause stopped ∧ failure.root = cause.root

theorem Runs.breaks {catalog : Catalog σ ε} {allowed : Supply → Prop} {root : String}
    {task : Task σ ε} {session after : Session σ ε} {failure : Failure}
    (run : Runs catalog task session (.error failure) after) (keeps : catalog.Keeps allowed)
    (underway : Underway catalog allowed root task session) : catalog.Breaks allowed root failure := by
  obtain ⟨later, moment, cause, stopped, comes, stops, root, -⟩ := run.stops rfl
  exact ⟨later, moment, cause, stopped, comes.underway keeps underway, stops, root⟩

end CertGraph
