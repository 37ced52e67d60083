import CertGraph.Cluster.Generation
import CertGraph.Proofs.Cluster.Kinds
import Mathlib.Data.Set.Finite.Lemmas

/- Resolving targets of a cluster: exactly under which key sizes, clocks and settings it succeeds. -/
set_option autoImplicit false
set_option relaxedAutoImplicit false

namespace CertGraph

open CertGraph.Time (Duration Instant)
open Relation (ReflTransGen TransGen)

variable {σ ε : Type}

/-- A validity that some asset in the closure of some targets declares. -/
def Catalog.Declared (catalog : Catalog σ ε) (targets : List String) (validity : Duration) : Prop :=
  ∃ key asset, catalog.Closure targets key ∧ catalog.Makes key asset ∧ asset.Declares validity

/-- The longest validity that is declared in the closure of some targets. -/
structure Catalog.Longest (catalog : Catalog σ ε) (targets : List String) (longest : Duration) :
    Prop where
  declared : catalog.Declared targets longest
  atMost : ∀ validity, catalog.Declared targets validity → validity.micros ≤ longest.micros

namespace Cluster

variable {config : InstallConfig} {keySize : KeySize}

private theorem ground_of_canNeed {key other : String}
    (needed : (catalog config keySize : Catalog σ ε).CanNeed key other) :
    key ∉ groundKeys ∧ other ∈ groundKeys := by
  obtain ⟨asset, makes, depends⟩ := needed
  obtain ⟨member, rfl⟩ := catalog_lists.mem_of_makes makes
  cases kind_of_mem member with
  | settings => exact absurd depends List.not_mem_nil
  | signer => exact absurd depends List.not_mem_nil
  | bundle above suits nonempty signers =>
    exact ⟨above, List.mem_cons_of_mem _ (signers depends)⟩
  | signed above isSigner settings =>
    refine ⟨above, ?_⟩
    rcases List.mem_cons.mp depends with rfl | other
    · exact List.mem_cons_of_mem _ isSigner
    · rw [List.mem_singleton.mp (settings other)]
      exact List.mem_cons_self

private theorem not_doomed (app : σ) (key : String) :
    ¬ (catalog config keySize : Catalog σ ε).Doomed key := by
  rintro ⟨looped, -, around⟩
  obtain ⟨next, first, -⟩ := TransGen.head'_iff.mp around
  obtain ⟨previous, -, last⟩ := TransGen.tail'_iff.mp around
  have above := (ground_of_canNeed (catalog_lists.canNeed_of_needs app first)).1
  have below := (ground_of_canNeed (catalog_lists.canNeed_of_needs app last)).2
  exact above below

private theorem exists_makes (app : σ) {key : String}
    (registered : key ∈ installConfigKey :: defaultTargets) :
    ∃ asset, (catalog config keySize : Catalog σ ε).Makes key asset := by
  have listed : key ∈ (assets config keySize : List (Asset σ ε)).map Asset.key :=
    keys_perm.mem_iff.mpr registered
  obtain ⟨asset, member, rfl⟩ := List.mem_map.mp listed
  exact ⟨asset, catalog_lists.makes_of_mem app member⟩

private theorem exists_makes_of_closure (app : σ) {targets : List String}
    (within : targets ⊆ defaultTargets)
    {key : String} (closed : (catalog config keySize : Catalog σ ε).Closure targets key) :
    ∃ asset, (catalog config keySize : Catalog σ ε).Makes key asset := by
  have grounded : ∀ key ∈ groundKeys, key ∈ installConfigKey :: defaultTargets := by decide
  obtain ⟨target, isTarget, reached⟩ := closed
  refine exists_makes app ?_
  rcases reached.cases_tail with rfl | ⟨previous, -, needed⟩
  · exact List.mem_cons_of_mem _ (within isTarget)
  · exact grounded key (ground_of_canNeed needed).2

private theorem mem_validities_of_declared {targets : List String} {validity : Duration}
    (declared : (catalog config keySize : Catalog σ ε).Declared targets validity) :
    validity ∈ validities := by
  obtain ⟨key, asset, -, makes, declares⟩ := declared
  cases kind_of_mem (catalog_lists.mem_of_makes makes).1 with
  | settings => exact declares.elim
  | bundle => exact declares.elim
  | signer validity_pos isSigner listed =>
    rw [SpecSource.declares_fixed_iff.mp declares]
    exact listed
  | signed above isSigner settings listed answers =>
    rw [(answers.declares_iff validity).mp declares]
    exact listed

private theorem declared_of_signer (app : σ) {targets : List String} {key : String}
    (isSigner : key ∈ signerKeys)
    (closed : (catalog config keySize : Catalog σ ε).Closure targets key) :
    ∃ validity, (catalog config keySize : Catalog σ ε).Declared targets validity := by
  have registered : ∀ key ∈ signerKeys, key ∈ installConfigKey :: defaultTargets := by decide
  obtain ⟨asset, makes⟩ : ∃ asset, (catalog config keySize : Catalog σ ε).Makes key asset :=
    exists_makes app (registered key isSigner)
  obtain ⟨member, rfl⟩ := catalog_lists.mem_of_makes makes
  have ground : asset.key ∈ groundKeys := List.mem_cons_of_mem _ isSigner
  cases kind_of_mem member with
  | settings => exact absurd isSigner installConfigKey_notMem
  | bundle above => exact absurd ground above
  | signed above => exact absurd ground above
  | signer => exact ⟨_, _, _, closed, makes, SpecSource.declares_fixed_iff.mpr rfl⟩

/-- Whatever is asked for, some certificate is made. -/
private theorem exists_declared (app : σ) {targets : List String} (within : targets ⊆ defaultTargets)
    (nonempty : targets ≠ []) :
    ∃ validity, (catalog config keySize : Catalog σ ε).Declared targets validity := by
  have apart : installConfigKey ∉ defaultTargets := by decide
  obtain ⟨target, isTarget⟩ := List.exists_mem_of_ne_nil targets nonempty
  have closed : (catalog config keySize : Catalog σ ε).Closure targets target :=
    ⟨target, isTarget, .refl⟩
  obtain ⟨asset, makes⟩ : ∃ asset, (catalog config keySize : Catalog σ ε).Makes target asset :=
    exists_makes app (List.mem_cons_of_mem _ (within isTarget))
  obtain ⟨member, rfl⟩ := catalog_lists.mem_of_makes makes
  cases kind_of_mem member with
  | settings => exact absurd (within isTarget) apart
  | signer => exact ⟨_, _, _, closed, makes, SpecSource.declares_fixed_iff.mpr rfl⟩
  | signed above isSigner settings listed answers =>
    exact ⟨_, _, _, closed, makes, (answers.declares_iff _).mpr rfl⟩
  | bundle above suits nonempty signers =>
    obtain ⟨authority, isAuthority⟩ := List.exists_mem_of_ne_nil _ nonempty
    have below : (catalog config keySize : Catalog σ ε).Closure targets authority :=
      ⟨_, isTarget, .single ⟨_, makes, isAuthority⟩⟩
    exact declared_of_signer app (signers isAuthority) below

private theorem exists_longest (app : σ) {targets : List String} (within : targets ⊆ defaultTargets)
    (nonempty : targets ≠ []) :
    ∃ longest, (catalog config keySize : Catalog σ ε).Longest targets longest := by
  have finite : {validity | (catalog config keySize : Catalog σ ε).Declared targets validity}.Finite :=
    (List.finite_toSet validities).subset fun _ => mem_validities_of_declared
  obtain ⟨longest, declared, atMost⟩ :=
    Set.exists_max_image _ Duration.micros finite (exists_declared app within nonempty)
  exact ⟨longest, declared, atMost⟩

private theorem predicts {source : Source} (reliable : source.Reliable) (now : Instant) :
    (catalog config keySize : Catalog σ ε).Predicts source now (Fits config keySize now)
      (Good config) := by
  refine ⟨catalog_lists.fixed, fun key asset makes parents supported => ?_⟩
  exact (kind_of_mem (catalog_lists.mem_of_makes makes).1).ends reliable supported

/-- All of a closure fits exactly if keys are long enough, the longest validity can be certified, and
the settings hold what the servers in the closure need. -/
private theorem fits_closure_iff (app : σ) {targets : List String} (within : targets ⊆ defaultTargets)
    {longest : Duration} (isLongest : (catalog config keySize : Catalog σ ε).Longest targets longest)
    {now : Instant} :
    (∀ key, (catalog config keySize : Catalog σ ε).Closure targets key →
        ∃ asset : Asset σ ε, (catalog config keySize).Makes key asset ∧
          Fits config keySize now asset) ↔
      ((∃ bits, keySize = some bits ∧ 1024 ≤ bits) ∧ now.Admits longest) ∧
        ∀ key, (catalog config keySize : Catalog σ ε).Closure targets key → Suits config key := by
  have positive : ∀ validity ∈ validities, 0 ≤ validity.micros := by decide
  constructor
  · intro allFit
    constructor
    · obtain ⟨key, asset, closed, makes, declares⟩ := isLongest.declared
      obtain ⟨other, makesOther, fits⟩ := allFit key closed
      obtain rfl := catalog_lists.fixed.unique makes makesOther
      exact fits.declared longest declares
    · intro key closed
      obtain ⟨asset, makes, fits⟩ := allFit key closed
      exact makes.1 ▸ fits.suits
  · rintro ⟨⟨large, admits⟩, suits⟩ key closed
    obtain ⟨asset, makes⟩ := exists_makes_of_closure app within closed
    refine ⟨asset, makes, fun validity declares => ?_, makes.1.symm ▸ suits key closed⟩
    have declared : (catalog config keySize : Catalog σ ε).Declared targets validity :=
      ⟨key, asset, closed, makes, declares⟩
    exact ⟨large, admits.mono (positive validity (mem_validities_of_declared declared))
      (isLongest.atMost validity declared)⟩

private theorem suits_closure_iff {needed : String → Prop} :
    (∀ key, needed key → Suits config key) ↔
      (needed apiserver ∨ needed serviceNetworkServer →
        ∃ network, config.serviceNetwork = some network ∧ 2 ≤ network.size) ∧
      (needed apiserver ∨ needed lbServer → ∀ c ∈ config.apiAddress.toList, c.toNat < 128) := by
  constructor
  · refine fun suits => ⟨?_, ?_⟩
    · rintro (inside | inside)
      · exact (suits _ inside).network (by decide)
      · exact (suits _ inside).network (by decide)
    · rintro (outside | outside)
      · exact (suits _ outside).apiAddress (by decide)
      · exact (suits _ outside).apiAddress (by decide)
  · rintro ⟨network, apiAddress⟩ key isNeeded
    constructor
    · intro member
      rcases List.mem_pair.mp member with rfl | rfl
      · exact network (.inl isNeeded)
      · exact network (.inr isNeeded)
    · intro member
      rcases List.mem_pair.mp member with rfl | rfl
      · exact apiAddress (.inl isNeeded)
      · exact apiAddress (.inr isNeeded)

private theorem wanted_ne_nil (targets : List String) : wanted targets ≠ [] := by
  unfold wanted
  split
  · exact List.cons_ne_nil _ _
  · assumption

private theorem wanted_subset {targets : List String} (within : targets ⊆ defaultTargets) :
    wanted targets ⊆ defaultTargets := by
  unfold wanted
  split
  · exact List.Subset.refl _
  · exact within

/-- Let every key that is asked for with 1024 bits or more be given, and be usable. Then targets of a
cluster resolve exactly if that many bits are asked for; the second of the clock lies in 1950 or later,
and the longest validity that is declared in their closure, starting then, ends within the calendar;
the service network has two addresses at least, if a server in the closure is certified for the second
of them; and the API address is ASCII, if a server in the closure is certified for it. Whatever the
targets are, no failure goes back to an asset that has not been generated: no asset reads more than
what it depends on. -/
theorem resolve_ok_iff {σ : Type} (config : InstallConfig) (keySize : KeySize) (targets : List String)
    (site : Site σ) (reliable : site.workshop.supply.source.Reliable) :
    let registered : Catalog σ Unit := catalog config keySize
    let needed := registered.Closure (wanted targets)
    let start := site.workshop.supply.now.truncated
    let result := (outcome (resolve config keySize targets) site).1
    (targets ⊆ defaultTargets →
      ∃ longest, registered.Longest (wanted targets) longest ∧
        ((∃ executor, result = .ok executor) ↔
          (∃ bits, keySize = some bits ∧ 1024 ≤ bits) ∧
          (1950 ≤ start.date.year ∧ ∃ after, start.add? longest = some after) ∧
          (needed apiserver ∨ needed serviceNetworkServer →
            ∃ network, config.serviceNetwork = some network ∧ 2 ≤ network.size) ∧
          (needed apiserver ∨ needed lbServer →
            ∀ c ∈ config.apiAddress.toList, c.toNat < 128))) ∧
    (∀ failure, result = .error (.failure failure) → ∀ key, failure.root ≠ .notGenerated key) ∧
    ∀ asset ∈ (assets config keySize : List (Asset σ Unit)), asset.Local := by
  intro registered needed start result
  have supplied : site.workshop.supply.At site.workshop.supply.source site.workshop.supply.now :=
    ⟨rfl, rfl⟩
  have predicts : registered.Predicts _ _ _ _ := predicts reliable site.workshop.supply.now
  refine ⟨fun within => ?_, fun failure failed => ?_, fun asset member => (kind_of_mem member).isLocal⟩
  · have within := wanted_subset within
    obtain ⟨longest, isLongest⟩ : ∃ longest, registered.Longest (wanted targets) longest :=
      exists_longest site.workshop.app within (wanted_ne_nil targets)
    have acyclic : ∀ target ∈ wanted targets, ¬ registered.Doomed target :=
      fun target _ => not_doomed site.workshop.app target
    have admits_iff : site.workshop.supply.now.Admits longest ↔
        1950 ≤ start.date.year ∧ ∃ after, start.add? longest = some after :=
      ⟨fun admits => ⟨admits.starts, admits.ends⟩, fun holds => ⟨holds.1, holds.2⟩⟩
    refine ⟨longest, isLongest, ?_⟩
    rw [← admits_iff, ← suits_closure_iff, ← and_assoc,
      ← fits_closure_iff site.workshop.app within isLongest]
    exact Publication.resolveTargets_ok_iff predicts supplied acyclic
  · exact Publication.notMissing_of_resolveTargets predicts supplied failed

/-- Every call gives the same key of 1128 bits. -/
def steadySource : Source where
  key _ := .ok (Resolution.mersenneKey 607 521)
  random count := BitVec.ofNat 128 (count + 1)

private theorem steadySource_reliable : steadySource.Reliable := by
  intro count
  have long : 62 ≤ (Resolution.mersenneKey 607 521).publicKey.size := by decide +kernel
  exact ⟨_, rfl, Resolution.mersenneSource_wellFormed 0 _ rfl, long⟩

/-- An empty tree, and a workshop in which nothing has happened. -/
def steadySite : Site Unit :=
  ⟨⟨.fresh steadySource ⟨63000000000000000⟩, [], ()⟩, ⟨[], [], 0o022, []⟩⟩

/-- Settings with the network of an address and all that share as many of its first bits. -/
def settingsOf (bits : BitVec 32) (length : Nat) (length_le : length ≤ 32)
    (aligned : bits.toNat % Nat.pow 2 (32 - length) = 0) : InstallConfig :=
  ⟨some ⟨.v4 bits, length, length_le, aligned⟩, "api.example.com", by decide⟩

/-- In a network of 65536 addresses there is a server for each name; where there is one address alone,
there is none for the API. -/
theorem networks_resolve :
    (∃ executor, (outcome (resolve (settingsOf 0xac1e0000#32 16 (by decide) (by decide)) (some 1128)
      [lbServer, apiserver, lbServer]) steadySite).1 = .ok executor) ∧
    ¬ ∃ executor, (outcome (resolve (settingsOf 0xac1e0000#32 32 (by decide) (by decide)) (some 1128)
      [lbCaBundle, apiserver]) steadySite).1 = .ok executor := by
  constructor
  · obtain ⟨longest, isLongest, exactly⟩ :=
      (resolve_ok_iff (settingsOf 0xac1e0000#32 16 (by decide) (by decide)) (some 1128)
        [lbServer, apiserver, lbServer] steadySite steadySource_reliable).1 (by decide)
    have ends : ∀ validity ∈ validities,
        (steadySite.workshop.supply.now.truncated.add? validity).isSome = true := by decide
    have ascii : ∀ name ∈ ["api.example.com"], ∀ c ∈ name.toList, c.toNat < 128 :=
      ascii_of_all (by decide)
    refine exactly.mpr ⟨⟨1128, rfl, by decide⟩, ⟨by decide, ?_⟩, fun _ => ⟨_, rfl, by decide⟩,
      fun _ => ascii _ List.mem_cons_self⟩
    exact Option.isSome_iff_exists.mp (ends longest (mem_validities_of_declared isLongest.declared))
  · obtain ⟨longest, isLongest, exactly⟩ :=
      (resolve_ok_iff (settingsOf 0xac1e0000#32 32 (by decide) (by decide)) (some 1128)
        [lbCaBundle, apiserver] steadySite steadySource_reliable).1 (by decide)
    intro resolved
    obtain ⟨network, same, large⟩ :=
      (exactly.mp resolved).2.2.1 (.inl ⟨apiserver, by decide, .refl⟩)
    cases same
    exact absurd large (by decide)

end Cluster

end CertGraph
