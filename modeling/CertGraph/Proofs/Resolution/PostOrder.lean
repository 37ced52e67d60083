import CertGraph.Proofs.Resolution.Walking

/- What a call generates: the keys that are needed and not generated yet, in post-order. -/
set_option autoImplicit false
set_option relaxedAutoImplicit false

namespace CertGraph

open Relation (TransGen)

variable {σ ε : Type}

/-- Listed keys and more after them, each at its first occurrence. -/
def listing (listed keys : List String) : List String :=
  keys.foldl (fun listed key => if key ∈ listed then listed else listed ++ [key]) listed

theorem listing_append (listed keys more : List String) :
    listing listed (keys ++ more) = listing (listing listed keys) more :=
  List.foldl_append

theorem listing_of_subset {listed keys : List String} (known : ∀ key ∈ keys, key ∈ listed) :
    listing listed keys = listed := by
  induction keys with
  | nil => rfl
  | cons key keys ih =>
    simp only [listing, List.foldl_cons, known key List.mem_cons_self, if_true]
    exact ih fun other member => known other (List.mem_cons_of_mem _ member)

theorem listing_eq_append (listed keys : List String) :
    listing listed keys = listed ++ (keys.filter (· ∉ listed)).eraseDups := by
  induction keys generalizing listed with
  | nil => simp [listing]
  | cons key keys ih =>
    simp only [listing, List.foldl_cons]
    by_cases known : key ∈ listed
    · simp only [known, if_true]
      rw [List.filter_cons_of_neg (by simpa using known)]
      exact ih listed
    · simp only [known, if_false]
      rw [List.filter_cons_of_pos (by simpa using known), List.eraseDups_cons, List.filter_filter]
      refine (ih (listed ++ [key])).trans ?_
      simp only [List.append_assoc, List.singleton_append, List.append_cancel_left_eq,
        List.cons.injEq, true_and]
      congr 2
      funext other
      simp [not_or, Bool.beq_eq_decide_eq, Bool.and_comm]

/-- The keys that a task still has to walk. -/
def Task.todo : Task σ ε → List String
  | .target (.key key) => [key]
  | .target (.asset asset) => [asset.key]
  | .finish _ pending => pending

/-- The key that a task generates last, if it is bound to generate one. -/
def Task.last : Task σ ε → List String
  | .target _ => []
  | .finish asset _ => [asset.key]

/-- With each key generated since, all that it depends on is generated. -/
def Executor.Closed (graph : KeyGraph) (done : List String) (executor : Executor ε) : Prop :=
  ∀ key ∈ executor.generated, key ∉ done → ∀ other ∈ graph key, other ∈ executor.generated

namespace Walking

variable {graph : KeyGraph} {done order : List String} {root : String} {session : Session σ ε}

/-- Nothing is left to generate for a kept key. -/
private theorem listing_of_kept {key : String} {node : Node ε} {task : Task σ ε}
    (walking : Walking graph done root task session) (closed : session.executor.Closed graph done)
    (completes : graph.Completes done [key] order)
    (known : session.executor.parents.get? key = some node) :
    listing session.executor.generated order = session.executor.generated := by
  have kept : key ∈ session.executor.generated := walking.orderly.mem_generated_iff.mpr ⟨node, known⟩
  refine listing_of_subset (completes.subset_of_closed closed ?_)
  intro other member
  obtain rfl := List.mem_singleton.mp member
  exact kept

/-- Generating an asset after its dependencies. -/
private theorem closed_keeping {asset : Asset σ ε} {product : Product ε}
    (walking : Walking graph done root (.finish asset []) session)
    (closed : session.executor.Closed graph done) :
    (session.keeping (asset.holding product)).executor.Closed graph done := by
  intro key member notDone other next
  refine List.mem_append_left _ ?_
  rcases List.mem_append.mp member with old | new
  · exact closed key old notDone other next
  · obtain rfl := List.mem_singleton.mp new
    rcases walking.ready.2 other (walking.within.1 ▸ next) with waiting | kept
    · cases waiting
    · exact walking.orderly.mem_generated_iff.mpr kept

end Walking

namespace Runs

variable {catalog : Catalog σ ε} {graph : KeyGraph} {done : List String} {root : String}
  {task : Task σ ε} {session after : Session σ ε} {result : Except Failure (Node ε)}

/-- A run that succeeds lists what completes on the walk of its task, each key at its first
completion. -/
theorem generated_eq_listing (run : Runs catalog task session result after)
    (walking : Walking graph done root task session)
    (registered : ∀ key, graph.Needed done root key → catalog.Declares graph key)
    (closed : session.executor.Closed graph done) {node : Node ε} (succeeded : result = .ok node)
    {order : List String} (completes : graph.Completes done task.todo order) :
    after.executor.generated = listing session.executor.generated (order ++ task.last) ∧
      after.executor.Closed graph done := by
  induction run generalizing node order with
  | reuseKey known =>
    rw [Task.last, List.append_nil]
    exact ⟨(walking.listing_of_kept closed completes known).symm, closed⟩
  | reuseAsset known =>
    rw [Task.last, List.append_nil]
    exact ⟨(walking.listing_of_kept closed completes known).symm, closed⟩
  | uncreated absent created => cases succeeded
  | created absent created rest ih =>
    have walking' := walking.create absent registered created
    obtain ⟨factory, -, -, rfl, -⟩ := Catalog.create_ok created
    exact ih walking' closed succeeded completes
  | cycle absent stacked => cases succeeded
  | visited absent unstacked rest ih =>
    obtain ⟨inner, rfl, inside⟩ := completes.singleton_inv (walking.not_done absent)
    rw [← walking.within.1] at inside
    rw [Task.last, List.append_nil]
    exact ih (walking.visit absent unstacked) closed succeeded inside
  | fetched first rest ihFirst ihRest =>
    obtain ⟨before, later, rfl, completesFirst, completesRest⟩ := completes.cons_inv
    obtain ⟨listedFirst, closedMiddle⟩ := ihFirst walking.first closed rfl completesFirst
    obtain ⟨listedRest, closedAfter⟩ :=
      ihRest (walking.rest first) closedMiddle succeeded completesRest
    rw [Task.last, List.append_nil] at listedFirst
    refine ⟨?_, closedAfter⟩
    rw [listedRest, listedFirst, List.append_assoc, listing_append _ before]
    rfl
  | unfetched first ih => cases succeeded
  | broken failed => cases succeeded
  | @made asset product session workshop generated =>
    cases completes
    have absent : asset.key ∉ session.executor.generated := by
      rw [walking.orderly.generated_eq]
      exact Parents.get?_eq_none_iff.mp
        (walking.steady.absent _ (List.mem_of_getLast? walking.ready.1))
    refine ⟨?_, walking.closed_keeping closed⟩
    simp only [Task.last, List.nil_append, listing, List.foldl_cons, List.foldl_nil, absent,
      if_false]
    rfl

end Runs

/-- The key of the asset whose generation is started by an event. -/
def Event.begun? : Event → Option String
  | .started key => some key
  | _ => none

/-- What happened from one session to another. -/
def Session.eventsUntil (before after : Session σ ε) : List Event :=
  after.executor.history.drop before.executor.history.length

/-- Every generation begun between two sessions ended without a failure. -/
def Session.AllFinished (before after : Session σ ε) : Prop :=
  ∀ key ∈ (before.eventsUntil after).filterMap Event.begun?,
    Event.finished key ∈ before.eventsUntil after

instance (before after : Session σ ε) : Decidable (before.AllFinished after) :=
  inferInstanceAs (Decidable (∀ key ∈ _, _))

theorem Session.Missed.not_allFinished {before after : Session σ ε} (missed : before.Missed after)
    (orderly : after.executor.Orderly)
    (kept : ∀ key, Event.finished key ∈ after.executor.history → key ∈ after.executor.generated) :
    ¬ before.AllFinished after := by
  obtain ⟨key, events, history, started, absent⟩ := missed
  intro allFinished
  have since : before.eventsUntil after = events := by simp [Session.eventsUntil, history]
  have begun : key ∈ (before.eventsUntil after).filterMap Event.begun? :=
    List.mem_filterMap.mpr ⟨.started key, since ▸ started, rfl⟩
  have generated := kept key (List.mem_of_mem_drop (allFinished key begun))
  rw [orderly.generated_eq] at generated
  exact Parents.get?_eq_none_iff.mp absent generated

namespace Resolution

theorem callAll_finished_generated (catalog : Catalog σ ε) (workshop : Workshop σ)
    (targets : List (Target σ ε)) :
    ∀ key, Event.finished key ∈ (callAll catalog targets (.fresh workshop)).executor.history →
      key ∈ (callAll catalog targets (.fresh workshop)).executor.generated :=
  (callAll_induction
    (motive := fun session : Session σ ε => ∀ key,
      Event.finished key ∈ session.executor.history → key ∈ session.executor.generated)
    targets (.fresh workshop) (by rintro _ ⟨⟩)
    fun target _ _ idle kept => (call_runs target idle).finished_generated kept).2

/-- Let every key that a target needs be registered with a factory of that key, on no cycle, and let
every generation end without a failure, whatever calls were made before and whatever came of them.
Then the call returns the asset kept under the target. What it generates are the needed keys, in
post-order: dependencies in their order, each key at its first completion, and none that was
generated already. -/
theorem call_generates_postorder (catalog : Catalog σ ε) (graph : KeyGraph) (workshop : Workshop σ)
    (targets : List (Target σ ε)) (key : String) :
    let before := callAll catalog targets (.fresh workshop)
    let done := before.executor.generated
    let result := (call catalog (.key key) before).1
    let after := (call catalog (.key key) before).2
    (∀ other, graph.Needed done key other → catalog.Declares graph other) →
    (∀ other, graph.Needed done key other → ¬ TransGen (graph.Open done) other other) →
    before.AllFinished after →
    ∃ node order, result = .ok node ∧ after.executor.parents.get? key = some node ∧
      graph.Completes done [key] order ∧
      after.executor.generated = done ++ order.eraseDups ∧
      ∀ other, other ∈ order ↔ graph.Needed done key other := by
  intro before done result after registered acyclic allFinished
  obtain ⟨idle, orderly⟩ := callAll_orderly catalog workshop targets
  have run : Runs catalog (.target (.key key)) before result after := call_runs (.key key) idle
  have walking : Walking graph done key (.target (.key key)) before := .start idle orderly
  have orderlyAfter := run.orderly idle.steady trivial orderly
  rcases outcome : result with failure | node
  · have missed := run.missed_of_error walking registered acyclic outcome
    refine absurd allFinished (missed.not_allFinished orderlyAfter ?_)
    exact run.finished_generated (callAll_finished_generated catalog workshop targets)
  · obtain ⟨order, completes⟩ := KeyGraph.exists_completes catalog.keys
      (fun other needed => (registered other needed).mem_keys) acyclic
    have members (other : String) : other ∈ order ↔ graph.Needed done key other := by
      simpa using completes.mem_iff other
    have closed : before.executor.Closed graph done :=
      fun other member notDone => absurd member notDone
    have listed := (run.generated_eq_listing walking registered closed outcome completes).1
    refine ⟨node, order, rfl, (run.steady_and_kept idle.steady trivial).2 node outcome, completes,
      ?_, members⟩
    have fresh : order.filter (· ∉ done) = order := by
      refine List.filter_eq_self.mpr fun other member => ?_
      simpa using ((members other).mp member).not_mem
    rw [listed, Task.last, List.append_nil, listing_eq_append, fresh]

/-- An asset that holds nothing, under its key, with what it depends on. -/
def plain (key : String) (dependencies : List String) : String × Factory Unit Unit :=
  (key, .always (.custom ⟨key, key, dependencies, none, (), fun _ => pure (none, ())⟩))

/-- Assets some of which are needed along several ways, or declared twice. -/
def diamond : Catalog Unit Unit :=
  ⟨[plain "base" [], plain "left" ["base"], plain "right" ["base", "left"],
    plain "top" ["left", "right", "left"]], by decide⟩

/-- The dependencies that the diamond declares. -/
def diamondGraph : KeyGraph
  | "left" => ["base"]
  | "right" => ["base", "left"]
  | "top" => ["left", "right", "left"]
  | _ => []

/-- A workshop in which nothing has happened, with no keys to take. -/
def bareWorkshop : Workshop Unit :=
  ⟨.fresh ⟨fun _ => .error (.refused ""), fun _ => 0⟩ ⟨0⟩, [], ()⟩

private theorem diamond_needed {done : List String} {other : String}
    (needed : diamondGraph.Needed done "top" other) :
    other ∈ ["base", "left", "right", "top"] := by
  induction needed.2 with
  | refl => simp
  | tail _ next _ =>
    have member := next.1
    unfold diamondGraph at member
    split at member <;> simp at member ⊢ <;> tauto

private theorem diamond_declares {done : List String} {other : String}
    (needed : diamondGraph.Needed done "top" other) : diamond.Declares diamondGraph other := by
  have member := diamond_needed needed
  simp only [List.mem_cons, List.not_mem_nil, or_false] at member
  rcases member with rfl | rfl | rfl | rfl <;>
    exact ⟨_, rfl, fun _ => ⟨_, rfl, rfl, rfl⟩⟩

private theorem diamond_acyclic {done : List String} (key : String) :
    ¬ TransGen (diamondGraph.Open done) key key := by
  refine KeyGraph.not_cyclic_of_rank (fun key => ["base", "left", "right", "top"].idxOf key) ?_ key
  rintro key other ⟨member, -⟩
  unfold diamondGraph at member
  split at member <;> simp at member
  · subst member; decide
  · rcases member with rfl | rfl <;> decide
  · rcases member with rfl | rfl | rfl <;> decide

/-- After a call that fails and one that generates the base, the top of the diamond is generated on
its left, on its right, and then itself. -/
theorem diamond_generates_postorder :
    let before := callAll diamond [.key "missing", .key "base"] (.fresh bareWorkshop)
    let after := (call diamond (.key "top") before).2
    after.executor.generated = ["base", "left", "right", "top"] ∧
    ∃ node order, (call diamond (.key "top") before).1 = .ok node ∧
      after.executor.parents.get? "top" = some node ∧
      diamondGraph.Completes before.executor.generated ["top"] order ∧
      after.executor.generated = before.executor.generated ++ order.eraseDups ∧
      ∀ other, other ∈ order ↔ diamondGraph.Needed before.executor.generated "top" other :=
  ⟨by decide +kernel, call_generates_postorder diamond diamondGraph bareWorkshop
    [.key "missing", .key "base"] "top" (fun _ => diamond_declares) (fun other _ => diamond_acyclic other)
    (by decide +kernel)⟩

end Resolution

end CertGraph
