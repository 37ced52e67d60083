import CertGraph.Proofs.Resolution.Closure
import CertGraph.Proofs.Resolution.PostOrder
import Mathlib.Data.List.Chain
import Mathlib.Logic.Relation

/- Cycles of dependencies: what an executor reports is one, and what leads to one is never recorded. -/
set_option autoImplicit false
set_option relaxedAutoImplicit false

namespace CertGraph

open Relation (ReflTransGen TransGen)

variable {σ ε : Type}

/-- What the fetching of dependencies came upon: the failure without the wrappers for those that
depend on it. A failure of a generation keeps the wrapper of that generation. -/
def Failure.origin : Failure → Failure
  | .generation .fetching _ cause => cause.origin
  | failure => failure

private theorem Failure.origin_fetchFailure (name : String) (failure : Failure) :
    (Resolution.fetchFailure name failure).origin = failure.origin := by
  unfold Resolution.fetchFailure
  split <;> rfl

theorem Failure.root_origin (failure : Failure) : failure.origin.root = failure.root := by
  induction failure using Failure.origin.induct with
  | case1 name cause ih => exact ih
  | case2 failure notFetching => rw [origin]; exact notFetching

namespace Catalog

/-- Some asset that the factory of a key makes depends on another key. -/
def CanNeed (catalog : Catalog σ ε) (key other : String) : Prop :=
  ∃ asset, catalog.Makes key asset ∧ other ∈ asset.dependencies

/-- Every asset that the factory of a key makes depends on another key. -/
def Needs (catalog : Catalog σ ε) (key other : String) : Prop :=
  ∃ factory, catalog.entries.lookup key = some factory ∧
    ∀ app asset, (factory app).1 = .ok asset → other ∈ asset.dependencies

/-- Keys from a root on, each of which the one before it can need. -/
structure Trail (catalog : Catalog σ ε) (root : String) (keys : List String) : Prop where
  starts : keys.head? = some root
  linked : keys.IsChain catalog.CanNeed

/-- A loop of keys: the last is the first again, no other key comes twice, each can need the next, and
the first is reached from a root. -/
structure Loop (catalog : Catalog σ ε) (root : String) (path : List String) : Prop where
  long : 2 ≤ path.length
  closed : path.head? = path.getLast?
  distinct : path.dropLast.Nodup
  linked : path.IsChain catalog.CanNeed
  reached : ∀ key ∈ path, ReflTransGen catalog.CanNeed root key

/-- The factory of a key raises a cycle that it came upon itself, which no executor has found. -/
def RaisesCycle (catalog : Catalog σ ε) (path : List String) : Prop :=
  ∃ key raised, catalog.Raises key raised ∧ raised.origin = .cycle path

/-- A key from which a cycle of needs is reached, perhaps one that it lies on. -/
def Doomed (catalog : Catalog σ ε) (key : String) : Prop :=
  ∃ looped, ReflTransGen catalog.Needs key looped ∧ TransGen catalog.Needs looped looped

theorem Trail.concat {catalog : Catalog σ ε} {root last key : String} {keys : List String}
    (trail : catalog.Trail root keys) (ends : keys.getLast? = some last)
    (needed : catalog.CanNeed last key) : catalog.Trail root (keys ++ [key]) := by
  refine ⟨?_, ?_⟩
  · rw [List.head?_append, trail.starts, Option.some_or]
  · refine List.isChain_append.mpr ⟨trail.linked, List.isChain_singleton key, ?_⟩
    intro before isLast after isFirst
    have sameLast : last = before := Option.some.inj (ends.symm.trans isLast)
    have sameKey : key = after := Option.some.inj isFirst
    exact sameLast ▸ sameKey ▸ needed

theorem Trail.reached {catalog : Catalog σ ε} {root key : String} {keys : List String}
    (trail : catalog.Trail root keys) (member : key ∈ keys) :
    ReflTransGen catalog.CanNeed root key := by
  refine trail.linked.induction (ReflTransGen catalog.CanNeed root) keys ?_ ?_ key member
  · intro before after needed reached
    exact reached.tail needed
  · intro nonempty
    have first : keys.head nonempty = root :=
      Option.some.inj ((List.head?_eq_some_head nonempty).symm.trans trail.starts)
    rw [first]

/-- A key that stands on a trail already closes a loop. -/
theorem Trail.loop {catalog : Catalog σ ε} {root key : String} {stack : List String}
    (trail : catalog.Trail root (stack ++ [key])) (nodup : stack.Nodup) (stacked : key ∈ stack) :
    catalog.Loop root (loopOf stack key) := by
  obtain ⟨before, after, rfl, unmet⟩ := List.eq_append_cons_of_mem stacked
  have loop : loopOf (before ++ key :: after) key = key :: after ++ [key] := by
    rw [loopOf, List.dropWhile_append_of_pos]
    · simp
    · intro other member
      simpa using fun same : other = key => unmet (same ▸ member)
  have onTrail : key :: after ++ [key] <:+ before ++ key :: after ++ [key] :=
    ⟨before, by simp⟩
  rw [loop]
  refine ⟨by simp, ?_, ?_, trail.linked.suffix onTrail, ?_⟩
  · rw [List.getLast?_concat]
    rfl
  · rw [List.dropLast_concat]
    exact (List.nodup_append.mp nodup).2.1
  · intro other member
    exact trail.reached (onTrail.subset member)

end Catalog

/-- The stack is a trail from the root of a call to the task at hand. -/
def Task.Traced (catalog : Catalog σ ε) (root : String) : Task σ ε → Session σ ε → Prop
  | .target sought, session =>
    catalog.Trail root (session.executor.stack ++ [(Task.target sought).key])
  | .finish asset pending, session =>
    catalog.Trail root session.executor.stack ∧
      session.executor.stack.getLast? = some asset.key ∧
      ∀ key ∈ pending, key ∈ asset.dependencies

namespace Runs

variable {catalog : Catalog σ ε} {root : String} {task : Task σ ε} {session after : Session σ ε}
  {result : Except Failure (Node ε)}

/-- A cycle that a run comes upon is a loop that is reached from the root, unless a factory raised it. -/
theorem loop_of_cycle (run : Runs catalog task session result after) (steady : session.Steady)
    (declared : task.Declared catalog) (traced : task.Traced catalog root session)
    {failure : Failure} {path : List String} (failed : result = .error failure)
    (found : failure.origin = .cycle path) :
    catalog.Loop root path ∨ catalog.RaisesCycle path := by
  induction run generalizing failure with
  | reuseKey known => cases failed
  | reuseAsset known => cases failed
  | uncreated absent created =>
    cases failed
    rcases Catalog.create_error created with ⟨-, rfl⟩ | ⟨built, -, rfl⟩ | raises
    · cases found
    · cases found
    · exact .inr ⟨_, _, raises, found⟩
  | created absent created rest ih =>
    have same := (Catalog.makes_of_create created).1
    refine ih ⟨steady.own, steady.nodup, steady.absent⟩ (Task.declared_of_create created) ?_ failed
      found
    simpa only [Task.Traced, Task.key, same] using traced
  | cycle absent stacked =>
    cases failed
    cases found
    exact .inl (traced.loop steady.nodup stacked)
  | visited absent unstacked rest ih =>
    refine ih (steady.push absent unstacked) declared ⟨traced, ?_, fun _ member => member⟩ failed
      found
    simp [Session.push]
  | fetched first rest ihFirst ihRest =>
    obtain ⟨trail, last, pending⟩ := traced
    have sameStack := first.stack_eq
    refine ihRest (first.steady_and_kept steady trivial).1 declared ?_ failed found
    refine ⟨?_, ?_, fun key member => pending key (List.mem_cons_of_mem _ member)⟩
    · rw [sameStack]
      exact trail
    · rw [sameStack]
      exact last
  | @unfetched asset key pending failure session middle first ih =>
    obtain ⟨trail, last, inDependencies⟩ := traced
    have needed : catalog.CanNeed asset.key key :=
      ⟨asset, declared, inDependencies key List.mem_cons_self⟩
    cases failed
    rw [Failure.origin_fetchFailure] at found
    exact ih steady trivial (trail.concat last needed) rfl found
  | broken failed' =>
    cases failed
    cases found
  | made generated => cases failed

end Runs

namespace Executor.Orderly

/-- What a recorded asset depends on stands before it. -/
theorem idxOf_lt {executor : Executor ε} (orderly : executor.Orderly) {key dependency : String}
    {node : Node ε} (known : executor.parents.get? key = some node)
    (needed : dependency ∈ node.dependencies) :
    executor.generated.idxOf dependency < executor.generated.idxOf key := by
  obtain ⟨before, after, split, member⟩ := orderly.dependencies key node known dependency needed
  have nodup := orderly.nodup
  rw [split] at nodup ⊢
  have fresh : key ∉ before := fun twice =>
    (List.nodup_append.mp nodup).2.2 key twice key List.mem_cons_self rfl
  rw [List.idxOf_append_of_mem member, List.idxOf_append_of_notMem fresh, List.idxOf_cons_self]
  exact List.idxOf_lt_length_of_mem member

private theorem earlier {executor : Executor ε} (orderly : executor.Orderly) {key other : String}
    (depends : executor.Depends key other) :
    other ∈ executor.generated ∧ executor.generated.idxOf other < executor.generated.idxOf key := by
  obtain ⟨node, known, needed⟩ := depends
  refine ⟨?_, orderly.idxOf_lt known needed⟩
  obtain ⟨before, after, split, member⟩ := orderly.dependencies key node known other needed
  rw [split]
  exact List.mem_append_left _ member

/-- A way that follows dependencies as long as it is at recorded keys leads none of them back to itself.
-/
theorem not_round {executor : Executor ε} (orderly : executor.Orderly) {way : String → String → Prop}
    (depends : ∀ first second, first ∈ executor.generated → way first second →
      executor.Depends first second) {key : String} (generated : key ∈ executor.generated) :
    ¬ TransGen way key key := by
  -- what is needed is recorded earlier, so the index falls along the way
  have descends : ∀ other, TransGen way key other → other ∈ executor.generated ∧
      executor.generated.idxOf other < executor.generated.idxOf key := by
    intro other further
    induction further with
    | single next => exact orderly.earlier (depends _ _ generated next)
    | tail _ next ih =>
      obtain ⟨recorded, less⟩ := orderly.earlier (depends _ _ ih.1 next)
      exact ⟨recorded, less.trans ih.2⟩
  exact fun cycle => Nat.lt_irrefl _ (descends key cycle).2

end Executor.Orderly

namespace Session.Made

variable {catalog : Catalog σ ε} {session : Session σ ε}

private theorem depends (made : session.Made catalog) (orderly : session.executor.Orderly)
    {key other : String} (generated : key ∈ session.executor.generated)
    (needs : catalog.Needs key other) : session.executor.Depends key other := by
  obtain ⟨node, known⟩ := orderly.mem_generated_iff.mp generated
  obtain ⟨asset, ⟨-, factory, app, found, makes⟩, holds, -⟩ := made key node known
  obtain ⟨declared, found', always⟩ := needs
  cases found.symm.trans found'
  refine ⟨node, known, ?_⟩
  rw [holds]
  exact always app asset makes

theorem needs_recorded (made : session.Made catalog) (orderly : session.executor.Orderly)
    {key other : String} (generated : key ∈ session.executor.generated)
    (needs : catalog.Needs key other) : other ∈ session.executor.generated :=
  (orderly.earlier (made.depends orderly generated needs)).1

/-- Recorded keys descend along needs, so that none of them comes back to itself. -/
theorem not_doomed (made : session.Made catalog) (orderly : session.executor.Orderly)
    {key : String} (generated : key ∈ session.executor.generated) : ¬ catalog.Doomed key := by
  rintro ⟨looped, leads, cycle⟩
  have recorded : looped ∈ session.executor.generated := by
    clear cycle
    induction leads with
    | refl => exact generated
    | tail _ next ih => exact made.needs_recorded orderly ih next
  exact orderly.not_round (fun _ _ => made.depends orderly) recorded cycle

end Session.Made

namespace Resolution

/-- Whatever keys were asked for before: a cycle that a call comes upon is a loop of keys, each of which
can need the next, reached from the target, unless a factory raised it itself. If every cycle of needs
counts, a call for a key from which one is reached fails, and no such key is ever recorded. -/
theorem call_finds_cycles (catalog : Catalog σ ε) (workshop : Workshop σ) (targets : List String)
    (key : String) :
    let before := callAll catalog (targets.map .key) (.fresh workshop)
    let result := (call catalog (.key key) before).1
    let after := (call catalog (.key key) before).2
    (∀ failure path, result = .error failure → failure.origin = .cycle path →
      failure.root = .cycle path ∧ (catalog.Loop key path ∨ catalog.RaisesCycle path)) ∧
    (catalog.Doomed key → ∃ failure, result = .error failure) ∧
    ∀ doomed, catalog.Doomed doomed → after.executor.parents.get? doomed = none := by
  intro before result after
  obtain ⟨idle, orderly⟩ := callAll_orderly catalog workshop (targets.map .key)
  have made : before.Made catalog := callAll_made catalog workshop targets
  have run : Runs catalog (.target (.key key)) before result after := call_runs (.key key) idle
  have unrecorded : ∀ doomed, catalog.Doomed doomed →
      after.executor.parents.get? doomed = none := by
    intro doomed isDoomed
    rw [Parents.get?_eq_none_iff, ← (run.orderly idle.steady trivial orderly).generated_eq]
    intro generated
    exact (run.made_of_declared trivial made).not_doomed
      (run.orderly idle.steady trivial orderly) generated isDoomed
  refine ⟨?_, ?_, unrecorded⟩
  · intro failure path failed found
    have root : failure.root = .cycle path := by
      rw [← failure.root_origin, found]
      rfl
    refine ⟨root, ?_⟩
    refine run.loop_of_cycle idle.steady trivial ?_ failed found
    rw [Task.Traced, idle.stack_nil]
    exact ⟨rfl, List.isChain_singleton _⟩
  · intro isDoomed
    cases ended : result with
    | error failure => exact ⟨failure, rfl⟩
    | ok node =>
      have kept := (run.steady_and_kept idle.steady trivial).2 node ended
      cases (unrecorded key isDoomed).symm.trans kept

/-- Two assets that need each other, one that leads to them, and one that does not. -/
def ring : Catalog Unit Unit :=
  ⟨[plain "base" [], plain "start" ["base", "left"], plain "left" ["right"],
    plain "right" ["base", "left"]], by decide⟩

private theorem ring_doomed : ring.Doomed "start" := by
  have start : ring.Needs "start" "left" := ⟨_, rfl, by rintro app _ ⟨⟩; simp [Asset.dependencies]⟩
  have left : ring.Needs "left" "right" := ⟨_, rfl, by rintro app _ ⟨⟩; simp [Asset.dependencies]⟩
  have right : ring.Needs "right" "left" := ⟨_, rfl, by rintro app _ ⟨⟩; simp [Asset.dependencies]⟩
  exact ⟨"left", .single start, .tail (.single left) right⟩

private theorem ring_not_raises {key : String} {failure : Failure} : ¬ ring.Raises key failure := by
  rintro ⟨factory, app, found, raised⟩
  have member : (key, factory) ∈ ring.entries := Catalog.lookup_eq_some_iff.mp found
  simp only [ring, plain, List.mem_cons, Prod.mk.injEq, List.not_mem_nil, or_false] at member
  rcases member with ⟨-, rfl⟩ | ⟨-, rfl⟩ | ⟨-, rfl⟩ | ⟨-, rfl⟩ <;> cases raised

/-- The path of the cycle that a call came upon, if it came upon one. -/
def loop? : Except Failure (Node ε) → Option (List String)
  | .error failure =>
    match failure.origin with
    | .cycle path => some path
    | _ => none
  | .ok _ => none

theorem exists_of_loop? {result : Except Failure (Node ε)} {path : List String}
    (found : loop? result = some path) :
    ∃ failure, result = .error failure ∧ failure.origin = .cycle path := by
  unfold loop? at found
  split at found
  · rename_i failure
    split at found
    · rename_i other origin
      cases found
      exact ⟨failure, rfl, origin⟩
    · cases found
  · cases found

/-- After a call that generates the base, and a first attempt that fails, the loop is found behind
the start, and the start is not recorded. -/
theorem ring_finds_cycle :
    let before := callAll ring (["base", "start"].map .key) (.fresh bareWorkshop)
    let result := (call ring (.key "start") before).1
    let after := (call ring (.key "start") before).2
    (∃ failure, result = .error failure ∧ failure.origin = .cycle ["left", "right", "left"] ∧
      failure.root = .cycle ["left", "right", "left"] ∧
      ring.Loop "start" ["left", "right", "left"]) ∧
    ring.Doomed "start" ∧ after.executor.parents.get? "start" = none := by
  have main := call_finds_cycles ring bareWorkshop ["base", "start"] "start"
  have closes : loop? (call ring (.key "start")
      (callAll ring (["base", "start"].map .key) (.fresh bareWorkshop))).1 =
        some ["left", "right", "left"] := by
    decide +kernel
  dsimp only at main closes ⊢
  -- only what the two facts say of the call is used; unfolding it would run it
  generalize call ring (.key "start")
    (callAll ring (["base", "start"].map .key) (.fresh bareWorkshop)) = ended at main closes ⊢
  obtain ⟨failure, failed, origin⟩ := exists_of_loop? closes
  obtain ⟨root, loop | ⟨key, raised, raises, -⟩⟩ := main.1 failure _ failed origin
  · exact ⟨⟨failure, failed, origin, root, loop⟩, ring_doomed, main.2.2 "start" ring_doomed⟩
  · exact absurd raises ring_not_raises

end Resolution

end CertGraph
