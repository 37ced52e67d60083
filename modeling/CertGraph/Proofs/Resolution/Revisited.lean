import CertGraph.Proofs.Resolution.Closure
import CertGraph.Proofs.Resolution.Cycles
import CertGraph.Proofs.Resolution.Misnamed
import CertGraph.Proofs.Resolution.Moments

/- Assets at hand whose key is met again behind them. The asset on the stack need not come from the
catalog, and a key is looked up there before the stack is searched for it. -/
set_option autoImplicit false
set_option relaxedAutoImplicit false

namespace CertGraph

open Relation (ReflTransGen TransGen)

variable {σ ε : Type}

namespace KeyGraph

variable {graph : KeyGraph} {root key : String} {stack : List String}

/-- A way round from a root: each key depends on the next, and no key comes twice but the root at its
ends. -/
structure Circuit (graph : KeyGraph) (root : String) (path : List String) : Prop where
  long : 2 ≤ path.length
  starts : path.head? = some root
  ends : path.getLast? = some root
  linked : path.IsChain (graph.Open [])
  distinct : path.dropLast.Nodup

private theorem transGen_of_isChain {done between : List String} {first last : String}
    (linked : (first :: (between ++ [last])).IsChain (graph.Open done)) :
    TransGen (graph.Open done) first last := by
  induction between generalizing first with
  | nil => exact .single (List.isChain_pair.mp linked)
  | cons next between ih =>
    obtain ⟨step, further⟩ := List.isChain_cons_cons.mp linked
    exact .head step (ih further)

/-- A key that a chain from the root leads to is needed. -/
private theorem needed_of_isChain (starts : stack.head? = some root)
    (linked : (stack ++ [key]).IsChain (graph.Open [])) : graph.Needed [] root key := by
  obtain ⟨others, rfl⟩ := List.head?_eq_some_iff.mp starts
  exact ⟨List.not_mem_nil, (transGen_of_isChain linked).to_reflTransGen⟩

/-- A chain that comes back to one of its keys, but not to the root, goes round without the root. -/
private theorem cyclic_of_isChain (starts : stack.head? = some root) (nodup : stack.Nodup)
    (linked : (stack ++ [key]).IsChain (graph.Open [])) (stacked : key ∈ stack) (apart : key ≠ root) :
    TransGen (graph.Open [root]) key key := by
  obtain ⟨before, after, rfl, -⟩ := List.eq_append_cons_of_mem stacked
  have outside : root ∉ key :: after := by
    cases before with
    | nil => exact absurd (Option.some.inj starts) apart
    | cons first before =>
      obtain rfl := Option.some.inj starts
      intro again
      exact (List.nodup_cons.mp nodup).1 (List.mem_append_right _ again)
  have around : (key :: (after ++ [key])).IsChain (graph.Open []) := linked.suffix ⟨before, by simp⟩
  refine transGen_of_isChain (around.imp_of_mem_imp ?_)
  rintro first second - onChain ⟨next, -⟩
  refine ⟨next, ?_⟩
  rw [List.mem_singleton]
  rintro rfl
  have onStack : second ∈ key :: after := by simpa [apart.symm] using onChain
  exact outside onStack

/-- A chain from the root that comes back to the root is a way round. -/
private theorem circuit_of_isChain (starts : stack.head? = some root) (nodup : stack.Nodup)
    (linked : (stack ++ [root]).IsChain (graph.Open [])) : graph.Circuit root (loopOf stack root) := by
  obtain ⟨others, rfl⟩ := List.head?_eq_some_iff.mp starts
  have whole : loopOf (root :: others) root = root :: others ++ [root] := by simp [loopOf]
  rw [whole]
  refine ⟨by simp, rfl, List.getLast?_concat, linked, ?_⟩
  rw [List.dropLast_concat]
  exact nodup

end KeyGraph

/-- Every recorded asset depends on what the graph tells. -/
def Session.Agrees (graph : KeyGraph) (session : Session σ ε) : Prop :=
  ∀ key node, session.executor.parents.get? key = some node → node.dependencies = graph key

private theorem Session.Agrees.fresh (graph : KeyGraph) (workshop : Workshop σ) :
    (Session.fresh workshop : Session σ ε).Agrees graph := by
  rintro _ _ ⟨⟩

private theorem Session.Agrees.depends {graph : KeyGraph} {session : Session σ ε}
    (agrees : session.Agrees graph)
    (orderly : session.executor.Orderly) (first second : String)
    (recorded : first ∈ session.executor.generated) (next : graph.Open [] first second) :
    session.executor.Depends first second := by
  obtain ⟨node, known⟩ := orderly.mem_generated_iff.mp recorded
  exact ⟨node, known, agrees first node known ▸ next.1⟩

/-- The stack is a chain from the root to the task at hand. Only an asset with the key of the root may
differ from the graph. -/
def Task.Chained (catalog : Catalog σ ε) (graph : KeyGraph) (root : String) :
    Task σ ε → Session σ ε → Prop
  | .target (.key key), session => (session.executor.stack ++ [key]).IsChain (graph.Open [])
  | .target (.asset asset), session =>
    (session.executor.stack ++ [asset.key]).IsChain (graph.Open []) ∧
      catalog.Makes asset.key asset ∧ (asset.key ≠ root → asset.dependencies = graph asset.key)
  | .finish asset pending, session =>
    session.executor.stack.IsChain (graph.Open []) ∧ asset.dependencies = graph asset.key ∧
      pending ⊆ asset.dependencies

/-- A task that comes up behind an asset at hand, in a session that has come to it. -/
structure Behind (catalog : Catalog σ ε) (graph : KeyGraph) (root : String) (task : Task σ ε)
    (session : Session σ ε) : Prop where
  steady : session.Steady
  ready : task.Ready session
  agrees : session.Agrees graph
  starts : session.executor.stack.head? = some root
  chained : task.Chained catalog graph root session

namespace Behind

variable {catalog : Catalog σ ε} {graph : KeyGraph} {root : String} {session middle : Session σ ε}

private theorem create {key : String} {asset : Asset σ ε} {workshop : Workshop σ}
    (behind : Behind catalog graph root (.target (.key key)) session)
    (registered : ∀ key, key ≠ root → graph.Needed [] root key → catalog.Declares graph key)
    (created : (catalog.create key).outcome session.workshop = (.ok asset, workshop)) :
    Behind catalog graph root (.target (.asset asset)) { session with workshop } := by
  have makes := Catalog.makes_of_create created
  obtain rfl := makes.1
  refine ⟨⟨behind.steady.own, behind.steady.nodup, behind.steady.absent⟩, trivial, behind.agrees,
    behind.starts, behind.chained, makes, fun apart => ?_⟩
  have needed := KeyGraph.needed_of_isChain behind.starts behind.chained
  exact (registered _ apart needed).dependencies_eq created

private theorem visit {asset : Asset σ ε}
    (behind : Behind catalog graph root (.target (.asset asset)) session)
    (absent : session.executor.parents.get? asset.key = none)
    (unstacked : asset.key ∉ session.executor.stack) :
    Behind catalog graph root (.finish asset asset.dependencies) (session.push asset.key) := by
  obtain ⟨linked, -, declared⟩ := behind.chained
  have apart : asset.key ≠ root := fun same =>
    unstacked (same ▸ List.mem_of_mem_head? behind.starts)
  refine ⟨behind.steady.push absent unstacked, .pushed _ _, behind.agrees, ?_, linked, declared apart,
    List.Subset.refl _⟩
  simp [Session.push, List.head?_append, behind.starts]

private theorem first {asset : Asset σ ε} {key : String} {pending : List String}
    (behind : Behind catalog graph root (.finish asset (key :: pending)) session) :
    Behind catalog graph root (.target (.key key)) session := by
  obtain ⟨linked, declared, inAsset⟩ := behind.chained
  have next : graph.Open [] asset.key key := ⟨declared ▸ inAsset List.mem_cons_self, List.not_mem_nil⟩
  refine ⟨behind.steady, trivial, behind.agrees, behind.starts, ?_⟩
  refine List.isChain_append.mpr ⟨linked, List.isChain_singleton key, ?_⟩
  intro last isLast first isFirst
  obtain rfl := Option.some.inj (behind.ready.1.symm.trans isLast)
  obtain rfl := Option.some.inj isFirst
  exact next

private theorem rest {asset : Asset σ ε} {key : String} {pending : List String} {node : Node ε}
    (behind : Behind catalog graph root (.finish asset (key :: pending)) session)
    (run : Runs catalog (.target (.key key)) session (.ok node) middle) (agrees : middle.Agrees graph) :
    Behind catalog graph root (.finish asset pending) middle := by
  obtain ⟨linked, declared, inAsset⟩ := behind.chained
  obtain ⟨steady, kept⟩ := run.steady_and_kept behind.steady trivial
  have sameStack : middle.executor.stack = session.executor.stack := run.stack_eq
  refine ⟨steady, behind.ready.fetched run.grown sameStack (kept node rfl), agrees,
    sameStack ▸ behind.starts, ?_, declared, fun other member => inAsset (List.mem_cons_of_mem _ member)⟩
  rw [sameStack]
  exact linked

end Behind

namespace Runs

variable {catalog : Catalog σ ε} {graph : KeyGraph} {root : String} {task : Task σ ε}
  {session after : Session σ ε} {result : Except Failure (Node ε)}

private theorem agrees (run : Runs catalog task session result after)
    (behind : Behind catalog graph root task session)
    (registered : ∀ key, key ≠ root → graph.Needed [] root key → catalog.Declares graph key) :
    after.Agrees graph := by
  induction run with
  | reuseKey known => exact behind.agrees
  | reuseAsset known => exact behind.agrees
  | uncreated absent created => exact behind.agrees
  | created absent created rest ih => exact ih (behind.create registered created)
  | cycle absent stacked => exact behind.agrees
  | visited absent unstacked rest ih => exact ih (behind.visit absent unstacked)
  | fetched first rest ihFirst ihRest => exact ihRest (behind.rest first (ihFirst behind.first))
  | unfetched first ih => exact ih behind.first
  | broken failed => exact behind.agrees
  | made generated =>
    intro key node known
    rcases Parents.get?_concat_cases known with old | ⟨rfl, rfl⟩
    · exact behind.agrees key node old
    · exact behind.chained.2.1

/-- A first call for an asset at hand begins to work on it. -/
theorem visited_of_fresh {asset : Asset σ ε} {workshop : Workshop σ}
    (run : Runs catalog (.target (.asset asset)) (.fresh workshop) result after) :
    Runs catalog (.finish asset asset.dependencies) ((Session.fresh workshop).push asset.key) result
      after := by
  cases run with
  | reuseAsset known => cases known
  | cycle absent stacked => cases stacked
  | visited absent unstacked rest => exact rest

end Runs

private theorem Comes.behind {catalog : Catalog σ ε} {graph : KeyGraph} {root : String}
    {task later : Task σ ε} {session moment : Session σ ε}
    (comes : Comes catalog task session later moment) (behind : Behind catalog graph root task session)
    (registered : ∀ key, key ≠ root → graph.Needed [] root key → catalog.Declares graph key) :
    Behind catalog graph root later moment := by
  induction comes with
  | here => exact behind
  | created absent created rest ih => exact ih (behind.create registered created)
  | visited absent unstacked rest ih => exact ih (behind.visit absent unstacked)
  | fetching first ih => exact ih behind.first
  | fetched first rest ih => exact ih (behind.rest first (first.agrees behind.first registered))

namespace Resolution

/-- How a key that is met again behind an asset at hand ends the call. An asset that the factory of the
key makes closes a cycle. But the key may not be registered, and its factory may make an asset of
another key, or fail: the stack is not searched then. -/
def Meets (catalog : Catalog σ ε) (graph : KeyGraph) (key : String) (cause : Failure) : Prop :=
  (∃ asset path, catalog.Makes key asset ∧ graph.Circuit key path ∧ cause = .cycle path) ∨
    (key ∉ catalog.keys ∧ cause = .unknownAsset key) ∨
    (∃ built, catalog.Misnames key built ∧ cause = .configuration (.factoryMismatch key built)) ∨
    ∃ failure, catalog.Raises key failure ∧ cause = failure.root

/-- Behind the root every run that fails without a failing generation meets the root again. -/
private theorem meets_of_stops {catalog : Catalog σ ε} {graph : KeyGraph} {root : String}
    {task : Task σ ε}
    {moment stopped : Session σ ε} {cause : Failure}
    (behind : Behind catalog graph root task moment) (stops : Stops catalog task moment cause stopped)
    (registered : ∀ key, key ≠ root → graph.Needed [] root key → catalog.Declares graph key)
    (acyclic : ∀ key, key ≠ root → graph.Needed [] root key → ¬ TransGen (graph.Open [root]) key key) :
    Meets catalog graph root cause.root ∨ moment.Missed stopped := by
  cases stops with
  | @uncreated key failure session workshop absent created =>
    have needed := KeyGraph.needed_of_isChain behind.starts behind.chained
    by_cases again : key = root
    · subst again
      refine .inl (.inr ?_)
      rcases Catalog.create_error created with ⟨missing, rfl⟩ | ⟨built, misnames, rfl⟩ | raises
      · exact .inl ⟨Catalog.not_mem_keys_of_lookup missing, rfl⟩
      · exact .inr (.inl ⟨built, misnames, rfl⟩)
      · exact .inr (.inr ⟨_, raises, rfl⟩)
    · exact absurd created (registered key again needed).not_error
  | @cycle asset session absent stacked =>
    obtain ⟨linked, makes, -⟩ := behind.chained
    by_cases again : asset.key = root
    · rw [again] at linked makes ⊢
      have circuit := KeyGraph.circuit_of_isChain behind.starts behind.steady.nodup linked
      exact .inl (.inl ⟨asset, _, makes, circuit, rfl⟩)
    · have needed := KeyGraph.needed_of_isChain behind.starts linked
      exact absurd (KeyGraph.cyclic_of_isChain behind.starts behind.steady.nodup linked stacked again)
        (acyclic _ again needed)
  | @broken asset failure session workshop failed =>
    refine .inr ⟨asset.key, [.reported ⟨.info, "Generating " ++ asset.name, some asset.key⟩,
      .started asset.key], ?_, by simp, ?_⟩
    · simp [Session.starting, Session.told, Session.noted]
    · exact behind.steady.absent _ (List.mem_of_getLast? behind.ready.1)

/-- An asset at hand is called for first, registered or not. Let every other key that it leads to be
registered with a factory of that key, on no cycle that avoids the asset, and let every generation end
without a failure. If the key of the asset is met again among what it depends on, directly or through
others, then the call fails; the root of the failure is a cycle, which starts and ends with the key, if
the factory of the key makes an asset of that key there. Otherwise it is that the key is not registered,
or that its factory makes an asset of another key or fails. -/
theorem call_meets_again (catalog : Catalog σ ε) (graph : KeyGraph) (workshop : Workshop σ)
    (asset : Asset σ ε) :
    let before := Session.fresh workshop
    let result := (call catalog (.asset asset) before).1
    let after := (call catalog (.asset asset) before).2
    graph asset.key = asset.dependencies →
    (∀ key, key ≠ asset.key → graph.Needed [] asset.key key → catalog.Declares graph key) →
    (∀ key, key ≠ asset.key → graph.Needed [] asset.key key →
      ¬ TransGen (graph.Open [asset.key]) key key) →
    before.AllFinished after →
    TransGen (graph.Open []) asset.key asset.key →
    ∃ failure, result = .error failure ∧ Meets catalog graph asset.key failure.root := by
  intro before result after declared registered acyclic allFinished again
  have idle : before.Idle := .fresh workshop
  have run : Runs catalog (.target (.asset asset)) before result after := call_runs (.asset asset) idle
  have orderly : after.executor.Orderly := run.orderly idle.steady trivial .fresh
  have inner : Runs catalog (.finish asset asset.dependencies) (before.push asset.key) result after :=
    run.visited_of_fresh
  have behind : Behind catalog graph asset.key (.finish asset asset.dependencies)
      (before.push asset.key) :=
    ⟨idle.steady.push rfl List.not_mem_nil, .pushed _ _, .fresh graph workshop, rfl, List.isChain_singleton _,
      declared.symm, List.Subset.refl _⟩
  cases ended : result with
  | ok node =>
    -- all that is recorded agrees with the graph, where nothing recorded comes back to itself
    have kept := (run.steady_and_kept idle.steady trivial).2 node ended
    have generated := orderly.mem_generated_iff.mpr ⟨node, kept⟩
    exact absurd again (orderly.not_round ((inner.agrees behind registered).depends orderly) generated)
  | error failure =>
    obtain ⟨later, moment, cause, stopped, comes, stops, root, unwound⟩ := inner.stops ended
    refine ⟨failure, rfl, ?_⟩
    rcases meets_of_stops (comes.behind behind registered) stops registered acyclic with meets | missed
    · rw [root]
      exact meets
    · have missedAfter : moment.Missed after := unwound ▸ missed
      have extended : before.executor.history <+: moment.executor.history :=
        (List.prefix_append _ _).trans comes.grown.history
      refine absurd allFinished ((missedAfter.earlier extended).not_allFinished orderly ?_)
      exact run.finished_generated (callAll_finished_generated catalog workshop [])

/-- An asset at hand that needs a base, and a link that needs the asset again. -/
def linkGraph : KeyGraph
  | "self" => ["base", "link"]
  | "link" => ["self"]
  | _ => []

private theorem linkGraph_needed {done : List String} {key : String}
    (needed : linkGraph.Needed done "self" key) :
    key ∈ ["self", "base", "link"] := by
  induction needed.2 with
  | refl => simp
  | tail _ next _ =>
    have member := next.1
    unfold linkGraph at member
    split at member <;> simp at member ⊢ <;> tauto

private theorem linkGraph_acyclic (key : String) : ¬ TransGen (linkGraph.Open ["self"]) key key := by
  refine KeyGraph.not_cyclic_of_rank (fun key => if key = "self" then 1 else 0) ?_ key
  rintro key other ⟨member, apart⟩
  unfold linkGraph at member
  split at member <;> simp at member apart
  · simp [apart]
  · exact absurd member apart

private theorem linkGraph_again : TransGen (linkGraph.Open []) "self" "self" :=
  .tail (.single (show linkGraph.Open [] "self" "link" from ⟨by decide, List.not_mem_nil⟩))
    ⟨by decide, List.not_mem_nil⟩

/-- The asset at hand, as the graph tells. -/
def selfAtHand : Asset Unit Unit :=
  .custom ⟨"self", "self", ["base", "link"], none, (), fun _ => pure (none, ())⟩

/-- A catalog with an asset of the key of the one at hand. -/
def namesake : Catalog Unit Unit :=
  ⟨[plain "base" [], plain "link" ["self"], plain "self" []], by decide⟩

/-- The same without it. -/
def nameless : Catalog Unit Unit :=
  ⟨[plain "base" [], plain "link" ["self"]], by decide⟩

private theorem linkGraph_declares {catalog : Catalog Unit Unit} {key : String}
    (extended : nameless.entries <+: catalog.entries) (apart : key ≠ "self")
    (needed : linkGraph.Needed [] "self" key) : catalog.Declares linkGraph key := by
  have member := linkGraph_needed needed
  simp only [List.mem_cons, apart, List.not_mem_nil, or_false, false_or] at member
  rcases member with rfl | rfl <;>
    exact ⟨_, extended.lookup_eq_some rfl, fun _ => ⟨_, rfl, rfl, rfl⟩⟩

/-- The factory of the key makes another asset of that key, which closes the cycle. -/
theorem namesake_meets_again :
    let before := Session.fresh bareWorkshop
    let ended := call namesake (.asset selfAtHand) before
    TransGen (linkGraph.Open []) selfAtHand.key selfAtHand.key ∧ before.AllFinished ended.2 ∧
    ∃ failure, ended.1 = .error failure ∧ failure.root = .cycle ["self", "link", "self"] ∧
      Meets namesake linkGraph "self" failure.root := by
  have finished : (Session.fresh bareWorkshop).AllFinished
      (call namesake (.asset selfAtHand) (Session.fresh bareWorkshop)).2 := by
    decide +kernel
  obtain ⟨failure, failed, meets⟩ := call_meets_again namesake linkGraph bareWorkshop selfAtHand rfl
    (fun _ => linkGraph_declares (List.prefix_append _ _)) (fun key _ _ => linkGraph_acyclic key) finished
    linkGraph_again
  have closes : loop? (call namesake (.asset selfAtHand) (Session.fresh bareWorkshop)).1 =
      some ["self", "link", "self"] := by
    decide +kernel
  obtain ⟨other, failed', origin⟩ := exists_of_loop? closes
  cases failed.symm.trans failed'
  refine ⟨linkGraph_again, finished, failure, failed, ?_, meets⟩
  rw [← failure.root_origin, origin]
  rfl

/-- Where the key is not registered, the failure is not a cycle although the key is met again on the
stack. -/
theorem nameless_not_cycle :
    let before := Session.fresh bareWorkshop
    let ended := call nameless (.asset selfAtHand) before
    linkGraph selfAtHand.key = selfAtHand.dependencies ∧
    (∀ key, key ≠ selfAtHand.key → linkGraph.Needed [] selfAtHand.key key →
      nameless.Declares linkGraph key ∧ ¬ TransGen (linkGraph.Open [selfAtHand.key]) key key) ∧
    before.AllFinished ended.2 ∧ TransGen (linkGraph.Open []) selfAtHand.key selfAtHand.key ∧
    ∃ failure, ended.1 = .error failure ∧ failure.root = .unknownAsset "self" :=
  ⟨rfl, fun key apart needed =>
    ⟨linkGraph_declares List.prefix_rfl apart needed, linkGraph_acyclic key⟩, by decide +kernel,
    linkGraph_again, _, rfl, rfl⟩

end Resolution

end CertGraph
