import CertGraph.Proofs.Issuance.Ending
import CertGraph.Proofs.Publication.Resolving

/- Where each generation succeeds exactly under a condition that is known beforehand, targets resolve
exactly if the condition holds for all of their closure. -/
set_option autoImplicit false
set_option relaxedAutoImplicit false

namespace CertGraph

open CertGraph.Time (Instant)
open Work (Ends)
open Relation (ReflTransGen TransGen)

variable {σ ε : Type}

/-- Each registered factory makes one asset, which has its key. -/
def Catalog.Fixed (catalog : Catalog σ ε) : Prop :=
  ∀ key factory, catalog.entries.lookup key = some factory →
    ∃ asset, asset.key = key ∧ ∀ app, (factory app).1 = .ok asset

namespace Catalog.Fixed

variable {catalog : Catalog σ ε}

theorem unique (fixed : catalog.Fixed) {key : String} {first second : Asset σ ε}
    (makes : catalog.Makes key first) (makes' : catalog.Makes key second) : first = second := by
  obtain ⟨-, factory, app, found, made⟩ := makes
  obtain ⟨-, factory', other, found', made'⟩ := makes'
  cases found.symm.trans found'
  obtain ⟨asset, -, always⟩ := fixed key factory found
  cases made.symm.trans (always app)
  cases made'.symm.trans (always other)
  rfl

private theorem certain (fixed : catalog.Fixed) : catalog.Certain := by
  rintro key other ⟨asset, ⟨-, factory, app, found, made⟩, needed⟩
  obtain ⟨fixedAsset, -, always⟩ := fixed key factory found
  cases made.symm.trans (always app)
  refine ⟨factory, found, fun app' asset' made' => ?_⟩
  cases made'.symm.trans (always app')
  exact needed

private theorem unknownAsset (fixed : catalog.Fixed) {key : String} {failure : Failure}
    {workshop after : Workshop σ}
    (failed : (catalog.create key).outcome workshop = (.error failure, after)) :
    catalog.entries.lookup key = none ∧ failure = .unknownAsset key := by
  cases found : catalog.entries.lookup key with
  | none =>
    rw [create, found] at failed
    cases failed
    exact ⟨rfl, rfl⟩
  | some factory =>
    obtain ⟨asset, own, always⟩ := fixed key factory found
    exact absurd failed (create_ne_error found fun app => ⟨asset, always app, own⟩)

end Catalog.Fixed

/-- A catalog makes some assets, each under its own key. -/
def Catalog.Lists (catalog : Catalog σ ε) (assets : List (Asset σ ε)) : Prop :=
  catalog.entries = assets.map fun asset => (asset.key, Factory.always asset)

namespace Catalog.Lists

variable {catalog : Catalog σ ε} {assets : List (Asset σ ε)}

private theorem lookup_eq_some_iff (lists : catalog.Lists assets) {key : String}
    {factory : Factory σ ε} :
    catalog.entries.lookup key = some factory ↔
      ∃ asset ∈ assets, asset.key = key ∧ Factory.always asset = factory := by
  rw [Catalog.lookup_eq_some_iff, lists, List.mem_map]
  simp only [Prod.mk.injEq]

theorem fixed (lists : catalog.Lists assets) : catalog.Fixed := by
  intro key factory found
  obtain ⟨asset, -, own, rfl⟩ := lists.lookup_eq_some_iff.mp found
  exact ⟨asset, own, fun _ => rfl⟩

theorem mem_of_makes (lists : catalog.Lists assets) {key : String} {asset : Asset σ ε}
    (makes : catalog.Makes key asset) : asset ∈ assets ∧ asset.key = key := by
  obtain ⟨own, factory, app, found, made⟩ := makes
  obtain ⟨other, member, -, rfl⟩ := lists.lookup_eq_some_iff.mp found
  obtain rfl : other = asset := Except.ok.inj made
  exact ⟨member, own⟩

theorem makes_of_mem (lists : catalog.Lists assets) (app : σ) {asset : Asset σ ε}
    (member : asset ∈ assets) : catalog.Makes asset.key asset :=
  ⟨rfl, .always asset, app, lists.lookup_eq_some_iff.mpr ⟨asset, member, rfl, rfl⟩, rfl⟩

theorem canNeed_of_needs (lists : catalog.Lists assets) (app : σ) {key other : String}
    (needs : catalog.Needs key other) : catalog.CanNeed key other := by
  obtain ⟨factory, found, needed⟩ := needs
  obtain ⟨asset, member, rfl, rfl⟩ := lists.lookup_eq_some_iff.mp found
  exact ⟨asset, lists.makes_of_mem app member, needed app asset rfl⟩

end Catalog.Lists

/-- All that an asset depends on is recorded, and holds what is good for it. -/
def Asset.Supported (catalog : Catalog σ ε) (good : Asset σ ε → Product ε → Prop)
    (asset : Asset σ ε) (parents : Parents ε) : Prop :=
  ∀ dependency ∈ asset.dependencies, ∃ other node, catalog.Makes dependency other ∧
    parents.get? dependency = some node ∧ good other node.product

/-- The generation of an asset whose dependencies hold what is good succeeds exactly if the asset fits,
and then gives what is good. -/
structure Catalog.Predicts (catalog : Catalog σ ε) (source : Source) (now : Instant)
    (fits : Asset σ ε → Prop) (good : Asset σ ε → Product ε → Prop) : Prop where
  fixed : catalog.Fixed
  ends : ∀ key asset, catalog.Makes key asset → ∀ parents, asset.Supported catalog good parents →
    Ends source now (fits asset) (good asset) (asset.generate parents)

namespace Catalog.Predicts

variable {catalog : Catalog σ ε} {source : Source} {now : Instant} {fits : Asset σ ε → Prop}
  {good : Asset σ ε → Product ε → Prop} {session : Session σ ε} {root : String}

/-- Every recorded asset fits, and holds what is good. -/
theorem recorded (predicts : catalog.Predicts source now fits good)
    (orderly : session.executor.Orderly) (grounded : session.Grounded catalog (Supply.At source now))
    {key : String} {node : Node ε} (known : session.executor.parents.get? key = some node) :
    ∃ asset, catalog.Makes key asset ∧ fits asset ∧ good asset node.product := by
  -- dependencies stand before what depends on them, so the induction is on the place of the key
  induction place : session.executor.generated.idxOf key using Nat.strong_induction_on
    generalizing key node with
  | _ place ih =>
    subst place
    obtain ⟨asset, parents, makes, holds, earlier, prepared, workshop, after, supplied, generated⟩ :=
      grounded.grounds key node known
    have supported : asset.Supported catalog good parents := by
      intro dependency member
      obtain ⟨other, inParents⟩ := prepared dependency member
      have needed : dependency ∈ node.dependencies := by
        rw [holds]
        exact member
      have before := orderly.idxOf_lt known needed
      obtain ⟨made, makesOther, -, isGood⟩ := ih _ before (earlier.lookup_eq_some inParents) rfl
      exact ⟨made, other, makesOther, inParents, isGood⟩
    have ended := (predicts.ends key asset makes parents supported workshop supplied).2
    rw [← Work.outcome_eq, generated] at ended
    exact ⟨asset, makes, ended⟩

private theorem supported (predicts : catalog.Predicts source now fits good) {asset : Asset σ ε}
    (underway : Underway catalog (Supply.At source now) root (.finish asset []) session) :
    asset.Supported catalog good session.executor.parents := by
  intro dependency member
  obtain ⟨node, known⟩ := underway.prepared dependency member
  obtain ⟨other, makes, -, isGood⟩ := predicts.recorded underway.orderly underway.grounded known
  exact ⟨other, node, makes, known, isGood⟩

private theorem ends_underway (predicts : catalog.Predicts source now fits good) {asset : Asset σ ε}
    (underway : Underway catalog (Supply.At source now) root (.finish asset []) session) :
    Ends source now (fits asset) (good asset) (asset.generate session.executor.parents) :=
  predicts.ends asset.key asset underway.declared _ (predicts.supported underway)

private theorem keeps (predicts : catalog.Predicts source now fits good) :
    catalog.Keeps (Supply.At source now) := by
  intro root asset session underway
  rw [Work.outcome_eq]
  exact (predicts.ends_underway underway (session.starting asset).workshop
    underway.grounded.supplied).1

/-- No failure goes back to an asset that is missing. -/
private theorem notMissing_of_breaks (predicts : catalog.Predicts source now fits good)
    {failure : Failure}
    (breaks : catalog.Breaks (Supply.At source now) root failure) : failure.NotMissing := by
  obtain ⟨task, moment, cause, stopped, underway, stops, same⟩ := breaks
  intro key
  rw [same]
  cases stops with
  | uncreated absent created =>
    obtain ⟨-, rfl⟩ := predicts.fixed.unknownAsset created
    exact nofun
  | cycle absent stacked => exact nofun
  | @broken asset _ _ workshop raised =>
    have ended := (predicts.ends_underway underway (moment.starting asset).workshop
      underway.grounded.supplied).2
    rw [← Work.outcome_eq, raised] at ended
    exact ended.2 key

/-- Where no cycle is reached, it is an unregistered key or an asset that does not fit that breaks a
target. -/
private theorem unfit_of_breaks (predicts : catalog.Predicts source now fits good)
    (acyclic : ¬ catalog.Doomed root) {failure : Failure}
    (breaks : catalog.Breaks (Supply.At source now) root failure) :
    ∃ key, ReflTransGen catalog.CanNeed root key ∧
      ∀ asset, catalog.Makes key asset → ¬ fits asset := by
  obtain ⟨task, moment, cause, stopped, underway, stops, -⟩ := breaks
  refine ⟨task.key, underway.reached, ?_⟩
  cases stops with
  | uncreated absent created =>
    obtain ⟨missing, -⟩ := predicts.fixed.unknownAsset created
    rintro asset ⟨-, factory, app, found, -⟩
    cases missing.symm.trans found
  | cycle absent stacked =>
    have loop := underway.traced.loop underway.steady.nodup stacked
    exact absurd (loop.doomed predicts.fixed.certain) acyclic
  | @broken asset _ _ workshop raised =>
    intro other makes
    obtain rfl := predicts.fixed.unique makes underway.declared
    have ended := (predicts.ends_underway underway (moment.starting other).workshop
      underway.grounded.supplied).2
    rw [← Work.outcome_eq, raised] at ended
    exact ended.1

end Catalog.Predicts

namespace Publication

variable {catalog : Catalog σ ε} {source : Source} {now : Instant} {fits : Asset σ ε → Prop}
  {good : Asset σ ε → Product ε → Prop} {targets : List String} {site : Site σ}

/-- Targets that reach no cycle resolve exactly if all of their closure is registered and fits. -/
theorem resolveTargets_ok_iff (predicts : catalog.Predicts source now fits good)
    (supplied : site.workshop.supply.At source now)
    (acyclic : ∀ target ∈ targets, ¬ catalog.Doomed target) :
    (∃ executor, (outcome (resolveTargets catalog targets) site).1 = .ok executor) ↔
      ∀ key, catalog.Closure targets key → ∃ asset, catalog.Makes key asset ∧ fits asset := by
  rcases ended : outcome (resolveTargets catalog targets) site with ⟨fault | executor, after⟩
  · obtain ⟨failure, -, target, isTarget, breaks⟩ :=
      resolveTargets_breaks predicts.keeps supplied ended
    obtain ⟨key, reached, unfit⟩ := predicts.unfit_of_breaks (acyclic target isTarget) breaks
    refine ⟨fun ⟨_, absurd⟩ => (by cases absurd), fun allFit => ?_⟩
    obtain ⟨asset, makes, isFit⟩ := allFit key ⟨target, isTarget, reached⟩
    exact absurd isFit (unfit asset makes)
  · obtain ⟨orderly, grounded, members⟩ :=
      resolveTargets_grounded predicts.keeps predicts.fixed.certain supplied ended
    refine ⟨fun _ key closed => ?_, fun _ => ⟨executor, rfl⟩⟩
    obtain ⟨node, known⟩ := orderly.mem_generated_iff.mp ((members key).mpr closed)
    obtain ⟨asset, makes, isFit, -⟩ := predicts.recorded orderly grounded known
    exact ⟨asset, makes, isFit⟩

theorem notMissing_of_resolveTargets (predicts : catalog.Predicts source now fits good)
    (supplied : site.workshop.supply.At source now) {failure : Failure}
    (failed : (outcome (resolveTargets catalog targets) site).1 = .error (.failure failure)) :
    failure.NotMissing := by
  obtain ⟨after, ended⟩ : ∃ after, outcome (resolveTargets catalog targets) site =
      (.error (.failure failure), after) := ⟨_, Prod.ext failed rfl⟩
  obtain ⟨_, ⟨rfl⟩, target, -, breaks⟩ := resolveTargets_breaks predicts.keeps supplied ended
  exact predicts.notMissing_of_breaks breaks

end Publication

end CertGraph
