import CertGraph.Proofs.Publication.Generated
import CertGraph.Proofs.Publication.Resolving

/- Targets in any order: where each generation is settled by what its asset depends on, the order in
which targets are given, and how often, does not change what is recorded. -/
set_option autoImplicit false
set_option relaxedAutoImplicit false

namespace CertGraph

open Relation (ReflTransGen TransGen)

variable {σ ε : Type}

/-- Two assets declare the same, and what comes of their generation is the same wherever the same is
recorded under the keys that they depend on. -/
structure Asset.Alike (first second : Asset σ ε) : Prop where
  key : first.key = second.key
  name : first.name = second.name
  dependencies : first.dependencies = second.dependencies
  generated : ∀ parents more (workshop other : Workshop σ),
    (∀ dependency ∈ first.dependencies, parents.get? dependency = more.get? dependency) →
    ((first.generate parents).outcome workshop).1 = ((second.generate more).outcome other).1

/-- What a factory makes once it makes every time, in an asset that is alike: what comes of a generation
is settled by what is recorded under the keys that the asset depends on. -/
def Catalog.Functional (catalog : Catalog σ ε) : Prop :=
  ∀ key factory, catalog.entries.lookup key = some factory →
    ∀ app asset, (factory app).1 = .ok asset →
      ∀ other, ∃ again, (factory other).1 = .ok again ∧ asset.Alike again

private theorem Asset.Alike.holding_eq {first second : Asset σ ε} (alike : first.Alike second)
    (product : Product ε) : first.holding product = second.holding product := by
  simp only [Asset.holding, alike.key, alike.name, alike.dependencies]

namespace Catalog.Functional

variable {catalog : Catalog σ ε}

private theorem alike (functional : catalog.Functional) {key : String} {first second : Asset σ ε}
    (makes : catalog.Makes key first) (makes' : catalog.Makes key second) : first.Alike second := by
  obtain ⟨-, factory, app, found, made⟩ := makes
  obtain ⟨-, factory', other, found', made'⟩ := makes'
  cases found.symm.trans found'
  obtain ⟨again, remade, alike⟩ := functional key factory found app first made other
  cases made'.symm.trans remade
  exact alike

private theorem certain (functional : catalog.Functional) : catalog.Certain := by
  rintro key other ⟨asset, makes, needed⟩
  obtain ⟨own, factory, app, found, made⟩ := makes
  refine ⟨factory, found, fun app' asset' made' => ?_⟩
  obtain ⟨again, remade, alike⟩ := functional key factory found app asset made app'
  cases made'.symm.trans remade
  rw [← alike.dependencies]
  exact needed

private theorem not_error (functional : catalog.Functional) {key : String} {asset : Asset σ ε}
    (makes : catalog.Makes key asset) {failure : Failure} {workshop after : Workshop σ} :
    (catalog.create key).outcome workshop ≠ (.error failure, after) := by
  obtain ⟨own, factory, app, found, made⟩ := makes
  refine create_ne_error found fun other => ?_
  obtain ⟨again, remade, alike⟩ := functional key factory found app asset made other
  exact ⟨again, remade, alike.key.symm.trans own⟩

end Catalog.Functional

namespace Session.Grounded

variable {catalog : Catalog σ ε} {allowed : Supply → Prop} {one two : Session σ ε}

/-- What two sessions have recorded under one key is the same. -/
theorem unique (functional : catalog.Functional) (orderly : one.executor.Orderly)
    (groundedOne : one.Grounded catalog allowed) (groundedTwo : two.Grounded catalog allowed)
    {key : String} {first second : Node ε} (known : one.executor.parents.get? key = some first)
    (known' : two.executor.parents.get? key = some second) : first = second := by
  -- dependencies stand before what depends on them, so the induction is on the place of the key
  induction place : one.executor.generated.idxOf key using Nat.strong_induction_on
    generalizing key first second with
  | _ place ih =>
    subst place
    obtain ⟨asset, parents, makes, holds, earlier, prepared, workshop, after, -, generated⟩ :=
      groundedOne.grounds key first known
    obtain ⟨other, more, makes', holds', earlier', prepared', workshop', after', -, generated'⟩ :=
      groundedTwo.grounds key second known'
    have alike := functional.alike makes makes'
    have same : ∀ dependency ∈ asset.dependencies, parents.get? dependency = more.get? dependency := by
      intro dependency member
      obtain ⟨node, inParents⟩ := prepared dependency member
      obtain ⟨node', inMore⟩ := prepared' dependency (alike.dependencies ▸ member)
      have needed : dependency ∈ first.dependencies := by
        rw [holds]
        exact member
      have before := orderly.idxOf_lt known needed
      have equal := ih _ before (earlier.lookup_eq_some inParents) (earlier'.lookup_eq_some inMore) rfl
      rw [inParents, inMore, equal]
    have outcomes := alike.generated parents more workshop workshop' same
    rw [generated, generated'] at outcomes
    rw [holds, holds', Except.ok.inj outcomes, alike.holding_eq]

/-- What one session has recorded cannot break in another. -/
private theorem not_breaks (functional : catalog.Functional) (orderly : one.executor.Orderly)
    (grounded : one.Grounded catalog allowed) {root : String}
    (recordedRoot : root ∈ one.executor.generated) {failure : Failure} :
    ¬ catalog.Breaks allowed root failure := by
  rintro ⟨task, moment, cause, stopped, underway, stops, -⟩
  have recorded := grounded.made.generated_of_reached orderly functional.certain recordedRoot
    underway.reached
  obtain ⟨node, known⟩ := orderly.mem_generated_iff.mp recorded
  obtain ⟨asset, parents, makes, holds, earlier, prepared, workshop, after, -, generated⟩ :=
    grounded.grounds _ node known
  cases stops with
  | uncreated absent created => exact functional.not_error makes created
  | cycle absent stacked =>
    have loop := underway.traced.loop underway.steady.nodup stacked
    exact grounded.made.not_doomed orderly recordedRoot (loop.doomed functional.certain)
  | @broken other _ _ workshop' raised =>
    have alike := functional.alike makes underway.declared
    have same : ∀ dependency ∈ asset.dependencies,
        parents.get? dependency = moment.executor.parents.get? dependency := by
      intro dependency member
      obtain ⟨first, inParents⟩ := prepared dependency member
      obtain ⟨second, inMoment⟩ := underway.prepared dependency (alike.dependencies ▸ member)
      rw [inParents, inMoment, unique functional orderly grounded underway.grounded
        (earlier.lookup_eq_some inParents) inMoment]
    have outcomes := alike.generated parents moment.executor.parents workshop
      (moment.starting other).workshop same
    rw [generated, raised] at outcomes
    cases outcomes

end Session.Grounded

namespace Publication

/-- A resolution that succeeds makes every other one succeed whose targets are among its own. -/
theorem resolveTargets_ok_of_subset {catalog : Catalog σ ε} (functional : catalog.Functional)
    {first second : List String} (among : second ⊆ first) {site other : Site σ}
    {executor : Executor ε}
    (resolved : (outcome (resolveTargets catalog first) site).1 = .ok executor) :
    ∃ executor', (outcome (resolveTargets catalog second) other).1 = .ok executor' := by
  have keeps : catalog.Keeps fun _ => True := fun _ _ _ _ => trivial
  obtain ⟨after, ended⟩ : ∃ after, outcome (resolveTargets catalog first) site =
      (.ok executor, after) := ⟨_, Prod.ext resolved rfl⟩
  obtain ⟨orderly, grounded, members⟩ :=
    resolveTargets_grounded keeps functional.certain trivial ended
  rcases ended' : outcome (resolveTargets catalog second) other with ⟨fault | executor', after'⟩
  · obtain ⟨failure, -, target, isTarget, breaks⟩ := resolveTargets_breaks keeps trivial ended'
    have generated := (members target).mpr ⟨target, among isTarget, .refl⟩
    exact absurd breaks (grounded.not_breaks functional orderly generated)
  · exact ⟨executor', rfl⟩

/-- Let what comes of each generation be settled by what is recorded under the keys that the asset
depends on. Of two lists of targets with the same keys, in any order and with any repetitions, both
resolve or neither does. If they do, the same keys are generated in some order, namely those of the
dependency closure, and the same asset is recorded under each of them. -/
theorem resolveTargets_reordered (catalog : Catalog σ ε) (functional : catalog.Functional)
    (first second : List String) (sameKeys : ∀ key, key ∈ first ↔ key ∈ second)
    (site other : Site σ) :
    let one := (outcome (resolveTargets catalog first) site).1
    let two := (outcome (resolveTargets catalog second) other).1
    ((∃ executor, one = .ok executor) ↔ ∃ executor, two = .ok executor) ∧
      ∀ executor executor', one = .ok executor → two = .ok executor' →
        executor.generated.Perm executor'.generated ∧
        (∀ key, (executor.parents.get? key).isSome ↔ catalog.Closure first key) ∧
        (∀ key, (executor'.parents.get? key).isSome ↔ catalog.Closure second key) ∧
        ∀ key, executor.parents.get? key = executor'.parents.get? key := by
  intro one two
  have keeps : catalog.Keeps fun _ => True := fun _ _ _ _ => trivial
  refine ⟨⟨?_, ?_⟩, ?_⟩
  · rintro ⟨executor, resolved⟩
    exact resolveTargets_ok_of_subset functional (fun key => (sameKeys key).mpr) resolved
  · rintro ⟨executor, resolved⟩
    exact resolveTargets_ok_of_subset functional (fun key => (sameKeys key).mp) resolved
  · intro executor executor' resolved resolved'
    obtain ⟨after, ended⟩ : ∃ after, outcome (resolveTargets catalog first) site =
        (.ok executor, after) := ⟨_, Prod.ext resolved rfl⟩
    obtain ⟨after', ended'⟩ : ∃ after, outcome (resolveTargets catalog second) other =
        (.ok executor', after) := ⟨_, Prod.ext resolved' rfl⟩
    obtain ⟨orderly, grounded, members⟩ :=
      resolveTargets_grounded keeps functional.certain trivial ended
    obtain ⟨orderly', grounded', members'⟩ :=
      resolveTargets_grounded keeps functional.certain trivial ended'
    have recorded (key : String) : (executor.parents.get? key).isSome ↔ catalog.Closure first key := by
      rw [Option.isSome_iff_exists, ← orderly.mem_generated_iff, members]
    have recorded' (key : String) :
        (executor'.parents.get? key).isSome ↔ catalog.Closure second key := by
      rw [Option.isSome_iff_exists, ← orderly'.mem_generated_iff, members']
    have sameClosure (key : String) : catalog.Closure first key ↔ catalog.Closure second key :=
      exists_congr fun target => and_congr_left' (sameKeys target)
    refine ⟨?_, recorded, recorded', fun key => ?_⟩
    · refine (List.perm_ext_iff_of_nodup orderly.nodup orderly'.nodup).mpr fun key => ?_
      rw [members, members', sameClosure]
    · rcases known : executor.parents.get? key with _ | node
      · have absent : ¬ catalog.Closure second key := by
          rw [← sameClosure, ← recorded, known]
          exact nofun
        rw [← recorded', Bool.not_eq_true, Option.isSome_eq_false_iff, Option.isNone_iff_eq_none]
          at absent
        exact absent.symm
      · have closed : catalog.Closure second key := by
          rw [← sameClosure, ← recorded, known]
          rfl
        obtain ⟨node', known'⟩ := Option.isSome_iff_exists.mp ((recorded' key).mpr closed)
        rw [known', grounded.unique functional orderly grounded' known known']

/-- The number that an asset holds. -/
def amount (node? : Option (Node Nat)) : Nat :=
  match node?.map Node.product with
  | some (.custom _ artifact) => artifact
  | _ => 0

/-- An asset that holds one more than all that it depends on hold together. -/
def tally (key : String) (dependencies : List String) : Asset Unit Nat :=
  .custom ⟨key, key, dependencies, none, 0, fun parents =>
    pure (none, 1 + (dependencies.map fun other => amount (parents.get? other)).sum)⟩

/-- Tallies two of which do not need each other. -/
def tallies : Catalog Unit Nat :=
  ⟨[("base", .always (tally "base" [])), ("left", .always (tally "left" ["base"])),
    ("right", .always (tally "right" ["base"])), ("top", .always (tally "top" ["left", "right"]))],
    by decide⟩

private theorem tally_alike (key : String) (dependencies : List String) :
    (tally key dependencies).Alike (tally key dependencies) := by
  refine ⟨rfl, rfl, rfl, ?_⟩
  intro parents more workshop other same
  have equal : (dependencies.map fun other => amount (parents.get? other)) =
      dependencies.map fun other => amount (more.get? other) :=
    List.map_congr_left fun dependency member => congrArg amount (same dependency member)
  show Except.ok (Product.custom none (1 + _)) = Except.ok (Product.custom none (1 + _))
  rw [equal]

private theorem tallies_functional : tallies.Functional := by
  intro key factory found app asset made other
  have member : (key, factory) ∈ tallies.entries := Catalog.lookup_eq_some_iff.mp found
  simp only [tallies, List.mem_cons, Prod.mk.injEq, List.not_mem_nil, or_false] at member
  rcases member with ⟨-, rfl⟩ | ⟨-, rfl⟩ | ⟨-, rfl⟩ | ⟨-, rfl⟩ <;> cases made <;>
    exact ⟨_, rfl, tally_alike _ _⟩

/-- An empty tree, and a workshop in which nothing has happened. -/
def bareSite : Site Unit :=
  ⟨Resolution.bareWorkshop, ⟨[], [], 0o022, []⟩⟩

/-- The numbers of the generated assets, under their keys. -/
def amounts (executor : Executor Nat) : List (String × Nat) :=
  executor.generated.map fun key => (key, amount (executor.parents.get? key))

/-- The right is generated before the left, or the left before the right; the numbers are the same. -/
theorem tallies_reordered :
    let one := (outcome (resolveTargets tallies ["right", "top"]) bareSite).1
    let two := (outcome (resolveTargets tallies ["top", "right", "top"]) earlierSite).1
    ∃ executor executor', one = .ok executor ∧ two = .ok executor' ∧
      amounts executor = [("base", 1), ("right", 2), ("left", 2), ("top", 5)] ∧
      amounts executor' = [("base", 1), ("left", 2), ("right", 2), ("top", 5)] ∧
      executor.generated.Perm executor'.generated ∧
      ∀ key, executor.parents.get? key = executor'.parents.get? key := by
  intro one two
  have main := resolveTargets_reordered tallies tallies_functional ["right", "top"]
    ["top", "right", "top"] (by intro key; simp; tauto) bareSite earlierSite
  have first : one.toOption.map amounts =
      some [("base", 1), ("right", 2), ("left", 2), ("top", 5)] := by
    decide +kernel
  have second : two.toOption.map amounts =
      some [("base", 1), ("left", 2), ("right", 2), ("top", 5)] := by
    decide +kernel
  rcases ended : one with fault | executor
  · rw [ended] at first
    cases first
  obtain ⟨executor', ended'⟩ := main.1.mp ⟨executor, ended⟩
  rw [ended] at first
  rw [show two = .ok executor' from ended'] at second
  obtain ⟨perm, -, -, same⟩ := main.2 executor executor' ended ended'
  exact ⟨executor, executor', rfl, ended', Option.some.inj first, Option.some.inj second, perm, same⟩

end Publication

end CertGraph
