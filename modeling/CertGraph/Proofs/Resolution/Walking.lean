import CertGraph.Proofs.Resolution.Order
import CertGraph.Proofs.Resolution.Walk

/- Runs that follow a declared graph: where nothing is missing and nothing goes round, a run can only
fail in a generation. -/
set_option autoImplicit false
set_option relaxedAutoImplicit false

namespace CertGraph

open Relation (ReflTransGen TransGen)

variable {σ ε : Type}

/-- A key is registered, and its factory always makes an asset of that key with the dependencies that
the graph tells. -/
def Catalog.Declares (catalog : Catalog σ ε) (graph : KeyGraph) (key : String) : Prop :=
  ∃ factory, catalog.entries.lookup key = some factory ∧
    ∀ app, ∃ asset, (factory app).1 = .ok asset ∧ asset.key = key ∧ asset.dependencies = graph key

namespace Catalog.Declares

variable {catalog : Catalog σ ε} {graph : KeyGraph} {key : String}

theorem mem_keys (declares : catalog.Declares graph key) : key ∈ catalog.keys := by
  obtain ⟨factory, found, -⟩ := declares
  exact mem_keys_of_lookup found

theorem dependencies_eq (declares : catalog.Declares graph key) {asset : Asset σ ε}
    {workshop after : Workshop σ}
    (created : (catalog.create key).outcome workshop = (.ok asset, after)) :
    asset.dependencies = graph key := by
  obtain ⟨factory, found, made, -, -⟩ := create_ok created
  obtain ⟨declared, found', always⟩ := declares
  cases found.symm.trans found'
  obtain ⟨other, made', -, same⟩ := always workshop.app
  cases made.symm.trans made'
  exact same

theorem not_error (declares : catalog.Declares graph key) {failure : Failure}
    {workshop after : Workshop σ} :
    (catalog.create key).outcome workshop ≠ (.error failure, after) := by
  obtain ⟨factory, found, always⟩ := declares
  refine create_ne_error found fun app => ?_
  obtain ⟨asset, made, own, -⟩ := always app
  exact ⟨asset, made, own⟩

end Catalog.Declares

/-- If a key is to be walked then the root needs it, and all keys on the stack lead to it. -/
def Session.LeadsTo (graph : KeyGraph) (done : List String) (root key : String)
    (session : Session σ ε) : Prop :=
  key ∉ done → graph.Needed done root key ∧
    ∀ other ∈ session.executor.stack, TransGen (graph.Open done) other key

/-- A task that comes up in the walk of a root. -/
def Task.Within (graph : KeyGraph) (done : List String) (root : String) :
    Task σ ε → Session σ ε → Prop
  | .target (.key key), session => session.LeadsTo graph done root key
  | .target (.asset asset), session =>
    asset.dependencies = graph asset.key ∧ session.LeadsTo graph done root asset.key
  | .finish asset pending, session =>
    asset.dependencies = graph asset.key ∧ graph.Needed done root asset.key ∧
      (∀ other ∈ session.executor.stack, ReflTransGen (graph.Open done) other asset.key) ∧
      ∀ key ∈ pending, key ∈ graph asset.key

/-- A task of the walk, in a session that the walk has come to. -/
structure Walking (graph : KeyGraph) (done : List String) (root : String) (task : Task σ ε)
    (session : Session σ ε) : Prop where
  steady : session.Steady
  ready : task.Ready session
  orderly : session.executor.Orderly
  since : done <+: session.executor.generated
  within : task.Within graph done root session

namespace Walking

variable {catalog : Catalog σ ε} {graph : KeyGraph} {done : List String} {root : String}
  {session middle : Session σ ε}

theorem not_done {task : Task σ ε} {key : String} (walking : Walking graph done root task session)
    (absent : session.executor.parents.get? key = none) : key ∉ done := by
  intro isDone
  obtain ⟨node, known⟩ := walking.orderly.mem_generated_iff.mp (walking.since.subset isDone)
  cases absent.symm.trans known

theorem create {key : String} {asset : Asset σ ε} {workshop : Workshop σ}
    (walking : Walking graph done root (.target (.key key)) session)
    (absent : session.executor.parents.get? key = none)
    (registered : ∀ key, graph.Needed done root key → catalog.Declares graph key)
    (created : (catalog.create key).outcome session.workshop = (.ok asset, workshop)) :
    Walking graph done root (.target (.asset asset)) { session with workshop } := by
  have needed := (walking.within (walking.not_done absent)).1
  have same := (registered key needed).dependencies_eq created
  obtain ⟨factory, -, -, rfl, -⟩ := Catalog.create_ok created
  exact ⟨⟨walking.steady.own, walking.steady.nodup, walking.steady.absent⟩, trivial,
    walking.orderly, walking.since, same, walking.within⟩

theorem visit {asset : Asset σ ε} (walking : Walking graph done root (.target (.asset asset)) session)
    (absent : session.executor.parents.get? asset.key = none)
    (unstacked : asset.key ∉ session.executor.stack) :
    Walking graph done root (.finish asset asset.dependencies) (session.push asset.key) := by
  obtain ⟨declared, leads⟩ := walking.within
  obtain ⟨needed, fromStack⟩ := leads (walking.not_done absent)
  refine ⟨walking.steady.push absent unstacked, .pushed _ _,
    ⟨walking.orderly.nodup, walking.orderly.generated_eq, walking.orderly.own,
      walking.orderly.dependencies⟩, walking.since, declared, needed, ?_, ?_⟩
  · intro other member
    rcases List.mem_append.mp member with old | new
    · exact (fromStack other old).to_reflTransGen
    · obtain rfl := List.mem_singleton.mp new
      exact .refl
  · intro key member
    exact declared ▸ member

theorem first {asset : Asset σ ε} {key : String} {pending : List String}
    (walking : Walking graph done root (.finish asset (key :: pending)) session) :
    Walking graph done root (.target (.key key)) session := by
  obtain ⟨declared, needed, fromStack, inGraph⟩ := walking.within
  refine ⟨walking.steady, trivial, walking.orderly, walking.since, ?_⟩
  intro notDone
  have next : graph.Open done asset.key key := ⟨inGraph key List.mem_cons_self, notDone⟩
  exact ⟨needed.tail next, fun other member => .tail' (fromStack other member) next⟩

theorem rest {asset : Asset σ ε} {key : String} {pending : List String} {node : Node ε}
    (walking : Walking graph done root (.finish asset (key :: pending)) session)
    (run : Runs catalog (.target (.key key)) session (.ok node) middle) :
    Walking graph done root (.finish asset pending) middle := by
  obtain ⟨declared, needed, fromStack, inGraph⟩ := walking.within
  obtain ⟨steady, kept⟩ := run.steady_and_kept walking.steady trivial
  have sameStack : middle.executor.stack = session.executor.stack := run.stack_eq
  exact ⟨steady, walking.ready.fetched run.grown sameStack (kept node rfl),
    run.orderly walking.steady trivial walking.orderly, walking.since.trans run.grown.generated,
    declared, needed, fun other member => fromStack other (sameStack ▸ member),
    fun key member => inGraph key (List.mem_cons_of_mem _ member)⟩

/-- A walk starts at its root, with nothing on the stack. -/
theorem start {key : String} (idle : session.Idle) (orderly : session.executor.Orderly) :
    Walking graph session.executor.generated key (.target (.key key)) session :=
  ⟨idle.steady, trivial, orderly, List.prefix_rfl,
    fun notDone => ⟨⟨notDone, .refl⟩, by simp [idle.stack_nil]⟩⟩

end Walking

/-- An asset was begun since, and is not kept. -/
def Session.Missed (before after : Session σ ε) : Prop :=
  ∃ key events, after.executor.history = before.executor.history ++ events ∧
    Event.started key ∈ events ∧ after.executor.parents.get? key = none

theorem Session.Missed.earlier {before middle after : Session σ ε}
    (missed : middle.Missed after)
    (extended : before.executor.history <+: middle.executor.history) : before.Missed after := by
  obtain ⟨key, events, history, started, absent⟩ := missed
  obtain ⟨more, longer⟩ := extended
  exact ⟨key, more ++ events, by rw [history, ← longer, List.append_assoc],
    List.mem_append_right _ started, absent⟩

namespace Runs

variable {catalog : Catalog σ ε} {graph : KeyGraph} {done : List String} {root : String}
  {task : Task σ ε} {session after : Session σ ε} {result : Except Failure (Node ε)}

/-- Where every needed key is registered and on no cycle, a run fails only for an asset that was begun
and not finished. -/
theorem missed_of_error (run : Runs catalog task session result after)
    (walking : Walking graph done root task session)
    (registered : ∀ key, graph.Needed done root key → catalog.Declares graph key)
    (acyclic : ∀ key, graph.Needed done root key → ¬ TransGen (graph.Open done) key key)
    {failure : Failure} (failed : result = .error failure) : session.Missed after := by
  induction run generalizing failure with
  | reuseKey known => cases failed
  | reuseAsset known => cases failed
  | uncreated absent created =>
    have needed := (walking.within (walking.not_done absent)).1
    exact absurd created (registered _ needed).not_error
  | created absent created rest ih =>
    exact ih (walking.create absent registered created) failed
  | cycle absent stacked =>
    obtain ⟨needed, fromStack⟩ := walking.within.2 (walking.not_done absent)
    exact absurd (fromStack _ stacked) (acyclic _ needed)
  | visited absent unstacked rest ih =>
    exact (ih (walking.visit absent unstacked) failed).earlier (List.prefix_append _ _)
  | fetched first rest ihFirst ihRest =>
    exact (ihRest (walking.rest first) failed).earlier first.grown.history
  | unfetched first ih => exact ih walking.first rfl
  | @broken asset failure session workshop generated =>
    have absent : session.executor.parents.get? asset.key = none :=
      walking.steady.absent _ (List.mem_of_getLast? walking.ready.1)
    refine ⟨asset.key, [.reported ⟨.info, "Generating " ++ asset.name, some asset.key⟩,
      .started asset.key], ?_, by simp, absent⟩
    simp [Session.pop, Session.starting, Session.told, Session.noted]
  | made generated => cases failed

/-- What was finished is generated. -/
theorem finished_generated (run : Runs catalog task session result after)
    (before : ∀ key, Event.finished key ∈ session.executor.history →
      key ∈ session.executor.generated) :
    ∀ key, Event.finished key ∈ after.executor.history → key ∈ after.executor.generated := by
  induction run with
  | reuseKey known => simpa [Session.reusing, Session.told, Session.noted] using before
  | reuseAsset known => simpa [Session.reusing, Session.told, Session.noted] using before
  | uncreated absent created => exact before
  | created absent created rest ih => exact ih before
  | cycle absent stacked => exact before
  | visited absent unstacked rest ih =>
    refine ih ?_
    simpa [Session.push] using before
  | fetched first rest ihFirst ihRest => exact ihRest (ihFirst before)
  | unfetched first ih => exact ih before
  | broken failed =>
    simpa [Session.pop, Session.starting, Session.told, Session.noted] using before
  | @made asset product session workshop generated =>
    intro key member
    have cases : Event.finished key ∈ session.executor.history ∨ key = asset.key := by
      simpa [Session.pop, Session.keeping, Session.starting, Session.told, Session.noted]
        using member
    rcases cases with old | rfl
    · exact List.mem_append_left _ (before key old)
    · exact List.mem_append_right _ (List.mem_singleton.mpr rfl)

end Runs

end CertGraph
