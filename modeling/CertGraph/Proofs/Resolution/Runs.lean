import CertGraph.Proofs.Resolution.Outcome
import Mathlib.Data.List.Basic

/- Runs of an executor, told without a bound on how deep calls are nested: what a call comes to is
derived from what the calls inside it come to. -/
set_option autoImplicit false
set_option relaxedAutoImplicit false

namespace CertGraph

variable {σ ε : Type}

/-- What an executor is at: a target, or an asset on the stack some of whose dependencies are still
to be resolved. -/
inductive Task (σ ε : Type) where
  | target (target : Target σ ε)
  | finish (asset : Asset σ ε) (pending : List String)

namespace Task

/-- The key of the asset that a task is about. -/
def key : Task σ ε → String
  | .target (.key key) => key
  | .target (.asset asset) => asset.key
  | .finish asset _ => asset.key

end Task

/-- The part of a stack that a key closes to a cycle. -/
def loopOf (stack : List String) (key : String) : List String :=
  stack.dropWhile (· ≠ key) ++ [key]

/-- How a task ends, and the session it leaves. -/
inductive Runs (catalog : Catalog σ ε) :
    Task σ ε → Session σ ε → Except Failure (Node ε) → Session σ ε → Prop
  | reuseKey {key : String} {node : Node ε} {session : Session σ ε}
      (known : session.executor.parents.get? key = some node) :
      Runs catalog (.target (.key key)) session (.ok node) (session.reusing node.name node)
  | reuseAsset {asset : Asset σ ε} {node : Node ε} {session : Session σ ε}
      (known : session.executor.parents.get? asset.key = some node) :
      Runs catalog (.target (.asset asset)) session (.ok node) (session.reusing asset.name node)
  | uncreated {key : String} {failure : Failure} {session : Session σ ε} {workshop : Workshop σ}
      (absent : session.executor.parents.get? key = none)
      (created : (catalog.create key).outcome session.workshop = (.error failure, workshop)) :
      Runs catalog (.target (.key key)) session (.error failure) { session with workshop }
  | created {key : String} {asset : Asset σ ε} {session after : Session σ ε}
      {workshop : Workshop σ} {result : Except Failure (Node ε)}
      (absent : session.executor.parents.get? key = none)
      (created : (catalog.create key).outcome session.workshop = (.ok asset, workshop))
      (rest : Runs catalog (.target (.asset asset)) { session with workshop } result after) :
      Runs catalog (.target (.key key)) session result after
  | cycle {asset : Asset σ ε} {session : Session σ ε}
      (absent : session.executor.parents.get? asset.key = none)
      (stacked : asset.key ∈ session.executor.stack) :
      Runs catalog (.target (.asset asset)) session
        (.error (.cycle (loopOf session.executor.stack asset.key))) session
  | visited {asset : Asset σ ε} {session after : Session σ ε} {result : Except Failure (Node ε)}
      (absent : session.executor.parents.get? asset.key = none)
      (unstacked : asset.key ∉ session.executor.stack)
      (rest : Runs catalog (.finish asset asset.dependencies) (session.push asset.key) result after) :
      Runs catalog (.target (.asset asset)) session result after
  | fetched {asset : Asset σ ε} {key : String} {pending : List String} {node : Node ε}
      {session middle after : Session σ ε} {result : Except Failure (Node ε)}
      (first : Runs catalog (.target (.key key)) session (.ok node) middle)
      (rest : Runs catalog (.finish asset pending) middle result after) :
      Runs catalog (.finish asset (key :: pending)) session result after
  | unfetched {asset : Asset σ ε} {key : String} {pending : List String} {failure : Failure}
      {session middle : Session σ ε}
      (first : Runs catalog (.target (.key key)) session (.error failure) middle) :
      Runs catalog (.finish asset (key :: pending)) session
        (.error (Resolution.fetchFailure asset.name failure)) middle.pop
  | broken {asset : Asset σ ε} {failure : Failure} {session : Session σ ε} {workshop : Workshop σ}
      (failed : (asset.generate session.executor.parents).outcome
        (session.starting asset).workshop = (.error failure, workshop)) :
      Runs catalog (.finish asset []) session
        (.error (.generation .generating asset.name failure))
        { session.starting asset with workshop }.pop
  | made {asset : Asset σ ε} {product : Product ε} {session : Session σ ε} {workshop : Workshop σ}
      (generated : (asset.generate session.executor.parents).outcome
        (session.starting asset).workshop = (.ok product, workshop)) :
      Runs catalog (.finish asset []) session (.ok (asset.holding product))
        (({ session.starting asset with workshop }.noted (.finished asset.key)).pop.keeping
          (asset.holding product))

namespace Catalog

/-- What making the asset of a key can come to: the key is not registered, or its factory raises a
failure, makes an asset of another key, or makes one of that key. -/
inductive Creates (catalog : Catalog σ ε) (key : String) (workshop : Workshop σ) :
    Except Failure (Asset σ ε) → Workshop σ → Prop
  | unregistered (absent : catalog.entries.lookup key = none) :
      Creates catalog key workshop (.error (.unknownAsset key)) workshop
  | raised {factory : Factory σ ε} {failure : Failure}
      (found : catalog.entries.lookup key = some factory)
      (raises : (factory workshop.app).1 = .error failure) :
      Creates catalog key workshop (.error failure)
        { workshop with app := (factory workshop.app).2 }
  | misnamed {factory : Factory σ ε} {asset : Asset σ ε}
      (found : catalog.entries.lookup key = some factory)
      (built : (factory workshop.app).1 = .ok asset) (unlike : asset.key ≠ key) :
      Creates catalog key workshop (.error (.configuration (.factoryMismatch key asset.key)))
        { workshop with app := (factory workshop.app).2 }
  | made {factory : Factory σ ε} {asset : Asset σ ε}
      (found : catalog.entries.lookup key = some factory)
      (built : (factory workshop.app).1 = .ok asset) (same : asset.key = key) :
      Creates catalog key workshop (.ok asset) { workshop with app := (factory workshop.app).2 }

private theorem creates_of_create {catalog : Catalog σ ε} {key : String}
    {result : Except Failure (Asset σ ε)} {workshop after : Workshop σ}
    (created : (catalog.create key).outcome workshop = (result, after)) :
    Creates catalog key workshop result after := by
  unfold create at created
  cases found : catalog.entries.lookup key with
  | none =>
    rw [found] at created
    cases created
    exact .unregistered found
  | some factory =>
    rw [found] at created
    simp only [Work.outcome, EStateM.run] at created
    cases built : (factory workshop.app).1 with
    | error failure =>
      rw [built] at created
      cases created
      exact .raised found built
    | ok asset =>
      rw [built] at created
      by_cases same : asset.key = key
      · simp only [same, if_true] at created
        cases created
        exact .made found built same
      · simp only [same, if_false] at created
        cases created
        exact .misnamed found built same

/-- A made asset comes from the factory of its key, and only what the application keeps changes. -/
theorem create_ok {catalog : Catalog σ ε} {key : String} {asset : Asset σ ε}
    {workshop after : Workshop σ}
    (created : (catalog.create key).outcome workshop = (.ok asset, after)) :
    ∃ factory, catalog.entries.lookup key = some factory ∧ (factory workshop.app).1 = .ok asset ∧
      asset.key = key ∧ after = { workshop with app := (factory workshop.app).2 } := by
  cases creates_of_create created with
  | made found built same => exact ⟨_, found, built, same, rfl⟩

/-- The factory of a key can make an asset of another key. -/
def Misnames (catalog : Catalog σ ε) (key built : String) : Prop :=
  ∃ factory app asset, catalog.entries.lookup key = some factory ∧
    (factory app).1 = .ok asset ∧ asset.key = built ∧ built ≠ key

/-- The factory of a key can raise a failure. -/
def Raises (catalog : Catalog σ ε) (key : String) (failure : Failure) : Prop :=
  ∃ factory app, catalog.entries.lookup key = some factory ∧ (factory app).1 = .error failure

/-- What cannot be made is not registered, or its factory makes an asset of another key, or raises
the failure itself. -/
theorem create_error {catalog : Catalog σ ε} {key : String} {failure : Failure}
    {workshop after : Workshop σ}
    (created : (catalog.create key).outcome workshop = (.error failure, after)) :
    (catalog.entries.lookup key = none ∧ failure = .unknownAsset key) ∨
      (∃ built, catalog.Misnames key built ∧
        failure = .configuration (.factoryMismatch key built)) ∨
      catalog.Raises key failure := by
  cases creates_of_create created with
  | unregistered absent => exact .inl ⟨absent, rfl⟩
  | misnamed found built unlike =>
    exact .inr (.inl ⟨_, ⟨_, _, _, found, built, rfl, unlike⟩, rfl⟩)
  | raised found raises => exact .inr (.inr ⟨_, _, found, raises⟩)

/-- What a factory makes under its key every time can be made. -/
theorem create_ne_error {catalog : Catalog σ ε} {key : String} {factory : Factory σ ε}
    (found : catalog.entries.lookup key = some factory)
    (builds : ∀ app, ∃ asset, (factory app).1 = .ok asset ∧ asset.key = key) {failure : Failure}
    {workshop after : Workshop σ} :
    (catalog.create key).outcome workshop ≠ (.error failure, after) := by
  intro failed
  rcases create_error failed with ⟨missing, -⟩ | ⟨built, misnames, -⟩ | ⟨other, app, found', raised⟩
  · cases found.symm.trans missing
  · obtain ⟨other, app, asset, found', made, rfl, unlike⟩ := misnames
    cases found.symm.trans found'
    obtain ⟨asset', made', own⟩ := builds app
    cases made.symm.trans made'
    exact unlike own
  · cases found.symm.trans found'
    obtain ⟨asset, made, -⟩ := builds app
    cases raised.symm.trans made

/-- Whatever comes of making an asset, only what the application keeps changes. -/
theorem create_workshop {catalog : Catalog σ ε} {key : String} {result : Except Failure (Asset σ ε)}
    {workshop after : Workshop σ}
    (created : (catalog.create key).outcome workshop = (result, after)) :
    ∃ app, after = { workshop with app } := by
  cases creates_of_create created with
  | unregistered => exact ⟨workshop.app, rfl⟩
  | raised | misnamed | made => exact ⟨_, rfl⟩

theorem lookup_eq_some_iff {catalog : Catalog σ ε} {key : String} {factory : Factory σ ε} :
    catalog.entries.lookup key = some factory ↔ (key, factory) ∈ catalog.entries := by
  constructor
  · intro found
    obtain ⟨before, after, entries, -⟩ := List.lookup_eq_some_iff.mp found
    rw [entries]
    exact List.mem_append_right before List.mem_cons_self
  · intro member
    obtain ⟨before, after, entries⟩ := List.append_of_mem member
    refine List.lookup_eq_some_iff.mpr ⟨before, after, entries, fun entry earlier => ?_⟩
    have nodup := catalog.nodup
    rw [entries, List.map_append, List.map_cons, List.nodup_append] at nodup
    have apart : entry.1 ≠ key :=
      nodup.2.2 entry.1 (List.mem_map_of_mem earlier) key List.mem_cons_self
    simpa using apart.symm

theorem mem_keys_of_lookup {catalog : Catalog σ ε} {key : String} {factory : Factory σ ε}
    (found : catalog.entries.lookup key = some factory) : key ∈ catalog.keys :=
  List.mem_map_of_mem (lookup_eq_some_iff.mp found)

end Catalog

namespace Parents

theorem get?_eq_none_iff {parents : Parents ε} {key : String} :
    parents.get? key = none ↔ key ∉ parents.keys := by
  simp only [get?, keys, List.lookup_eq_none_iff, List.mem_map, not_exists, not_and]
  constructor
  · intro absent entry member same
    simpa [same] using absent entry member
  · intro absent entry member
    simpa using fun same => absent entry member same.symm

theorem get?_concat_self {parents : Parents ε} {key : String} (node : Node ε)
    (absent : parents.get? key = none) :
    (⟨parents.entries ++ [(key, node)]⟩ : Parents ε).get? key = some node := by
  simp only [get?] at absent ⊢
  simp [List.lookup_append, absent]

theorem get?_concat_ne {parents : Parents ε} {key other : String} (node : Node ε)
    (apart : other ≠ key) :
    (⟨parents.entries ++ [(key, node)]⟩ : Parents ε).get? other = parents.get? other := by
  have unequal : (other == key) = false := by simpa using apart
  simp [get?, List.lookup_append, List.lookup_cons, unequal]

/-- After one more asset, what is under a key was there before or is that asset. -/
theorem get?_concat_cases {parents : Parents ε} {key other : String} {node kept : Node ε}
    (known : (⟨parents.entries ++ [(key, node)]⟩ : Parents ε).get? other = some kept) :
    parents.get? other = some kept ∨ other = key ∧ kept = node := by
  simp only [get?, List.lookup_append] at known ⊢
  cases before : parents.entries.lookup other with
  | some old =>
    rw [before] at known
    exact .inl known
  | none =>
    rw [before, Option.none_or, List.lookup_cons] at known
    split at known
    · rename_i same
      cases known
      exact .inr ⟨by simpa using same, rfl⟩
    · cases known

end Parents

/-- What a session holds stays when it goes on. -/
structure Session.Grown (before after : Session σ ε) : Prop where
  entries : before.executor.parents.entries <+: after.executor.parents.entries
  generated : before.executor.generated <+: after.executor.generated
  history : before.executor.history <+: after.executor.history

namespace Session.Grown

theorem refl (session : Session σ ε) : session.Grown session :=
  ⟨List.prefix_rfl, List.prefix_rfl, List.prefix_rfl⟩

theorem trans {first second third : Session σ ε} (earlier : first.Grown second)
    (later : second.Grown third) : first.Grown third :=
  ⟨earlier.entries.trans later.entries, earlier.generated.trans later.generated,
    earlier.history.trans later.history⟩

theorem get? {before after : Session σ ε} (grown : before.Grown after) {key : String}
    {node : Node ε} (known : before.executor.parents.get? key = some node) :
    after.executor.parents.get? key = some node :=
  grown.entries.lookup_eq_some known

end Session.Grown

/-- The stack that a task leaves. -/
def Task.stackAfter : Task σ ε → List String → List String
  | .target _, stack => stack
  | .finish _ _, stack => stack.dropLast

namespace Runs

variable {catalog : Catalog σ ε} {task : Task σ ε} {session after : Session σ ε}
  {result : Except Failure (Node ε)}

theorem grown (run : Runs catalog task session result after) : session.Grown after := by
  induction run with
  | reuseKey known => exact ⟨List.prefix_rfl, List.prefix_rfl, List.prefix_append _ _⟩
  | reuseAsset known => exact ⟨List.prefix_rfl, List.prefix_rfl, List.prefix_append _ _⟩
  | uncreated absent created => exact ⟨List.prefix_rfl, List.prefix_rfl, List.prefix_rfl⟩
  | created absent created rest ih => exact ⟨ih.entries, ih.generated, ih.history⟩
  | cycle absent stacked => exact .refl _
  | visited absent unstacked rest ih =>
    exact ⟨ih.entries, ih.generated, (List.prefix_append _ _).trans ih.history⟩
  | fetched first rest ihFirst ihRest => exact ihFirst.trans ihRest
  | unfetched first ih => exact ⟨ih.entries, ih.generated, ih.history⟩
  | broken failed =>
    refine ⟨List.prefix_rfl, List.prefix_rfl, ?_⟩
    simp [Session.pop, Session.starting, Session.noted, Session.told]
  | made generated =>
    refine ⟨List.prefix_append _ _, List.prefix_append _ _, ?_⟩
    simp [Session.pop, Session.keeping, Session.starting, Session.noted, Session.told]

theorem stack_eq (run : Runs catalog task session result after) :
    after.executor.stack = task.stackAfter session.executor.stack := by
  induction run with
  | reuseKey known => rfl
  | reuseAsset known => rfl
  | uncreated absent created => rfl
  | created absent created rest ih => exact ih
  | cycle absent stacked => rfl
  | visited absent unstacked rest ih => simpa [Task.stackAfter, Session.push] using ih
  | fetched first rest ihFirst ihRest => rw [ihRest, ihFirst]; rfl
  | unfetched first ih => simp only [Session.pop, ih]; rfl
  | broken failed => rfl
  | made generated => rfl

end Runs

/-- Assets are kept under their own keys, no key stands on the stack twice, and nothing is kept yet
under a key that stands there. -/
structure Session.Steady (session : Session σ ε) : Prop where
  own : ∀ key node, session.executor.parents.get? key = some node → node.key = key
  nodup : session.executor.stack.Nodup
  absent : ∀ key ∈ session.executor.stack, session.executor.parents.get? key = none

/-- An asset that is being worked on is the last on the stack, and its dependencies are kept or
still to be resolved. -/
def Task.Ready : Task σ ε → Session σ ε → Prop
  | .target _, _ => True
  | .finish asset pending, session =>
    session.executor.stack.getLast? = some asset.key ∧
      ∀ dependency ∈ asset.dependencies,
        dependency ∈ pending ∨ ∃ node, session.executor.parents.get? dependency = some node

theorem Task.Ready.fetched {asset : Asset σ ε} {key : String} {pending : List String}
    {node : Node ε} {session middle : Session σ ε}
    (ready : (Task.finish asset (key :: pending)).Ready session) (grown : session.Grown middle)
    (sameStack : middle.executor.stack = session.executor.stack)
    (kept : middle.executor.parents.get? key = some node) :
    (Task.finish asset pending).Ready middle := by
  refine ⟨sameStack ▸ ready.1, fun dependency member => ?_⟩
  rcases ready.2 dependency member with waiting | ⟨old, known⟩
  · rcases List.mem_cons.mp waiting with rfl | waiting
    · exact .inr ⟨node, kept⟩
    · exact .inl waiting
  · exact .inr ⟨old, grown.get? known⟩

theorem Task.Ready.pushed (asset : Asset σ ε) (session : Session σ ε) :
    (Task.finish asset asset.dependencies).Ready (session.push asset.key) :=
  ⟨by simp [Session.push], fun _ member => .inl member⟩

namespace Session.Steady

theorem push {session : Session σ ε} {key : String} (steady : session.Steady)
    (absent : session.executor.parents.get? key = none)
    (unstacked : key ∉ session.executor.stack) : (session.push key).Steady := by
  refine ⟨steady.own, ?_, ?_⟩
  · refine List.nodup_append.mpr ⟨steady.nodup, by simp, ?_⟩
    intro other member last isLast same
    obtain rfl := List.mem_singleton.mp isLast
    exact unstacked (same ▸ member)
  · intro other member
    rcases List.mem_append.mp member with old | new
    · exact steady.absent other old
    · obtain rfl := List.mem_singleton.mp new
      exact absent

private theorem pop {session : Session σ ε} (steady : session.Steady) : session.pop.Steady :=
  ⟨steady.own, steady.nodup.sublist (List.dropLast_sublist _),
    fun key member => steady.absent key (List.dropLast_subset _ member)⟩

private theorem not_mem_dropLast {session : Session σ ε} {key : String} (steady : session.Steady)
    (last : session.executor.stack.getLast? = some key) :
    key ∉ session.executor.stack.dropLast := by
  have split := List.dropLast_append_getLast? key last
  have nodup := steady.nodup
  rw [← split] at nodup
  intro member
  exact (List.nodup_append.mp nodup).2.2 key member key (by simp) rfl

end Session.Steady

namespace Runs

variable {catalog : Catalog σ ε} {task : Task σ ε} {session after : Session σ ε}
  {result : Except Failure (Node ε)}

/-- The assets being worked on are not kept before their turn, and a task that succeeds leaves its
asset kept under its key. -/
theorem steady_and_kept (run : Runs catalog task session result after) (steady : session.Steady)
    (ready : task.Ready session) :
    after.Steady ∧ ∀ node, result = .ok node →
      after.executor.parents.get? task.key = some node := by
  induction run with
  | reuseKey known =>
    refine ⟨⟨steady.own, steady.nodup, steady.absent⟩, ?_⟩
    rintro _ ⟨rfl⟩
    exact known
  | reuseAsset known =>
    refine ⟨⟨steady.own, steady.nodup, steady.absent⟩, ?_⟩
    rintro _ ⟨rfl⟩
    exact known
  | uncreated absent created =>
    exact ⟨⟨steady.own, steady.nodup, steady.absent⟩, by rintro _ ⟨⟩⟩
  | created absent created rest ih =>
    obtain ⟨factory, -, -, rfl, -⟩ := Catalog.create_ok created
    exact ih ⟨steady.own, steady.nodup, steady.absent⟩ trivial
  | cycle absent stacked => exact ⟨steady, by rintro _ ⟨⟩⟩
  | visited absent unstacked rest ih =>
    exact ih (steady.push absent unstacked) (.pushed _ _)
  | fetched first rest ihFirst ihRest =>
    obtain ⟨steadyMiddle, kept⟩ := ihFirst steady trivial
    exact ihRest steadyMiddle (ready.fetched first.grown first.stack_eq (kept _ rfl))
  | unfetched first ih => exact ⟨(ih steady trivial).1.pop, by rintro _ ⟨⟩⟩
  | broken failed =>
    exact ⟨⟨steady.pop.own, steady.pop.nodup, steady.pop.absent⟩, by rintro _ ⟨⟩⟩
  | @made asset product session workshop generated =>
    have last := ready.1
    have absent : session.executor.parents.get? asset.key = none :=
      steady.absent _ (List.mem_of_getLast? last)
    have outside := steady.not_mem_dropLast last
    refine ⟨⟨?_, steady.pop.nodup, ?_⟩, ?_⟩
    · intro key node known
      by_cases same : key = asset.key
      · subst same
        have := (Parents.get?_concat_self (asset.holding product) absent).symm.trans known
        cases this
        rfl
      · exact steady.own key node ((Parents.get?_concat_ne _ same).symm.trans known)
    · intro key member
      have apart : key ≠ asset.key := fun same => outside (same ▸ member)
      exact (Parents.get?_concat_ne _ apart).trans (steady.pop.absent key member)
    · rintro _ ⟨rfl⟩
      exact Parents.get?_concat_self _ absent

end Runs

end CertGraph
