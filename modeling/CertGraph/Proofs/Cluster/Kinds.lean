import CertGraph.Proofs.Cluster.Specs
import CertGraph.Proofs.Publication.Predicted

/- The assets of a cluster are of four kinds. Of each kind it is known beforehand when an asset can be
generated. -/
set_option autoImplicit false
set_option relaxedAutoImplicit false

namespace CertGraph

open CertGraph.Time (Duration Instant)
open Work (Ends)

variable {σ ε : Type}

namespace Cluster

variable {config : InstallConfig} {keySize : KeySize}

theorem catalog_lists :
    (catalog config keySize : Catalog σ ε).Lists (assets config keySize) :=
  rfl

theorem keys_perm : ((assets config keySize : List (Asset σ ε)).map Asset.key).Perm
    (installConfigKey :: defaultTargets) := by
  simp only [assets, signer, bundleOf, signedBy, List.map_cons, List.map_nil, Asset.key]
  decide

/-- The keys under which everything starts: the settings and the signers. -/
def groundKeys : List String :=
  installConfigKey :: signerKeys

private theorem suits_of_ground {key : String} (ground : key ∈ groundKeys) : Suits config key := by
  have apart : ∀ key ∈ groundKeys, key ∉ [apiserver, serviceNetworkServer, lbServer] := by decide
  exact suits_of_notMem (apart key ground)

/-- The validities of the certificates of a cluster. -/
def validities : List Duration :=
  [oneDay, oneYear, tenYears]

/-- What an asset of a cluster can be. -/
inductive Kind (config : InstallConfig) (keySize : KeySize) : Asset σ ε → Prop where
  | settings : Kind config keySize (.installConfig config)
  | signer {key unit : String} {validity : Duration} (validity_pos : 0 < validity.micros)
      (isSigner : key ∈ signerKeys) (listed : validity ∈ validities) :
      Kind config keySize (signer key validity unit keySize validity_pos)
  | bundle {key : String} {authorities : List String} (above : key ∉ groundKeys)
      (suits : Suits config key) (nonempty : authorities ≠ []) (signers : authorities ⊆ signerKeys) :
      Kind config keySize (bundleOf key authorities)
  | signed {key issuer : String} {source : SpecSource ε} {policy : ChainPolicy}
      {others : List String} {validity : Duration} (above : key ∉ groundKeys)
      (isSigner : issuer ∈ signerKeys) (settings : others ⊆ [installConfigKey])
      (listed : validity ∈ validities)
      (answers : Answers config others source validity (Suits config key)) :
      Kind config keySize (signedBy key issuer source policy others keySize)

theorem kind_of_mem {asset : Asset σ ε} (member : asset ∈ assets config keySize) :
    Kind config keySize asset := by
  have settings : [installConfigKey] ⊆ [installConfigKey] := List.Subset.refl _
  have bundle {key : String} {authorities : List String}
      (apart : key ∉ groundKeys ∧ key ∉ [apiserver, serviceNetworkServer, lbServer])
      (signers : authorities ≠ [] ∧ authorities ⊆ signerKeys) :
      Kind config keySize (bundleOf key authorities : Asset σ ε) :=
    .bundle apart.1 (suits_of_notMem apart.2) signers.1 signers.2
  revert asset
  simp only [assets, List.forall_mem_cons]
  refine ⟨.settings, .signer _ (by decide) (by decide), .signer _ (by decide) (by decide),
    .signer _ (by decide) (by decide), .signer _ (by decide) (by decide),
    .signer _ (by decide) (by decide), bundle (by decide) (by decide), bundle (by decide) (by decide),
    bundle (by decide) (by decide), bundle (by decide) (by decide), bundle (by decide) (by decide),
    .signed (by decide) (by decide) settings (by decide) apiserver_answers,
    .signed (by decide) (by decide) (List.nil_subset _) (by decide) kubeletClient_answers,
    .signed (by decide) (by decide) (List.nil_subset _) (by decide) localhostServer_answers,
    .signed (by decide) (by decide) settings (by decide) serviceNetworkServer_answers,
    .signed (by decide) (by decide) settings (by decide) lbServer_answers, List.forall_mem_nil _⟩

/-- Nothing stands in the way of generating an asset: keys are long enough for its certificates, the
validity of these can be certified, and the settings hold what they need. -/
structure Fits (config : InstallConfig) (keySize : KeySize) (now : Instant) (asset : Asset σ ε) :
    Prop where
  declared : ∀ validity, asset.Declares validity →
    (∃ bits, keySize = some bits ∧ 1024 ≤ bits) ∧ now.Admits validity
  suits : Suits config asset.key

/-- What the assets that depend on an asset need of what it holds. -/
def Good (config : InstallConfig) : Asset σ ε → Product ε → Prop
  | .installConfig _, product => product = .settings config
  | .selfSigned _, product =>
    ∃ holder : Authority, product = .authority (some holder) ∧ holder.pair.Sound
  | _, _ => True

section

variable {source : Source} {now : Instant} {parents : Parents ε}

private theorem fits_of_undeclared {asset : Asset σ ε}
    (undeclared : ∀ validity, ¬ asset.Declares validity)
    (suits : Suits config asset.key) : Fits config keySize now asset :=
  ⟨fun validity declares => absurd declares (undeclared validity), suits⟩

private theorem fits_signer_iff {key unit : String} (isSigner : key ∈ signerKeys) {validity : Duration}
    {validity_pos : 0 < validity.micros} :
    Fits config keySize now (signer key validity unit keySize validity_pos : Asset σ ε) ↔
      (∃ bits, keySize = some bits ∧ 1024 ≤ bits) ∧ now.Admits validity := by
  constructor
  · exact fun fits => fits.declared validity (SpecSource.declares_fixed_iff.mpr rfl)
  · refine fun holds => ⟨fun other declares => ?_, suits_of_ground (List.mem_cons_of_mem _ isSigner)⟩
    rw [SpecSource.declares_fixed_iff.mp declares]
    exact holds

private theorem fits_signed_iff {key issuer : String} {spec : SpecSource ε} {policy : ChainPolicy}
    {others : List String} {validity : Duration}
    (answers : Answers config others spec validity (Suits config key)) :
    Fits config keySize now (signedBy key issuer spec policy others keySize : Asset σ ε) ↔
      (∃ bits, keySize = some bits ∧ 1024 ≤ bits) ∧ now.Admits validity ∧ Suits config key := by
  constructor
  · intro fits
    obtain ⟨large, admits⟩ := fits.declared validity ((answers.declares_iff validity).mpr rfl)
    exact ⟨large, admits, fits.suits⟩
  · rintro ⟨large, admits, suits⟩
    refine ⟨fun other declares => ?_, suits⟩
    rw [(answers.declares_iff other).mp declares]
    exact ⟨large, admits⟩

theorem installConfigKey_notMem : installConfigKey ∉ signerKeys := by
  decide

private theorem authorityOf_of_good {key : String} (isSigner : key ∈ signerKeys) {other : Asset σ ε}
    {node : Node ε} (makes : (catalog config keySize).Makes key other)
    (known : parents.get? key = some node) (good : Good config other node.product) :
    ∃ holder, parents.authorityOf key = .ok holder ∧ holder.pair.Sound := by
  have ground : key ∈ groundKeys := List.mem_cons_of_mem _ isSigner
  obtain ⟨member, rfl⟩ := catalog_lists.mem_of_makes makes
  cases kind_of_mem member with
  | settings => exact absurd isSigner installConfigKey_notMem
  | bundle above => exact absurd ground above
  | signed above => exact absurd ground above
  | signer =>
    obtain ⟨holder, holds, sound⟩ := good
    exact ⟨holder, Parents.authorityOf_ok.mpr ⟨node, known, by rw [holds]; rfl⟩, sound⟩

private theorem installConfig_of_good {other : Asset σ ε} {node : Node ε}
    (makes : (catalog config keySize).Makes installConfigKey other)
    (known : parents.get? installConfigKey = some node) (good : Good config other node.product) :
    parents.installConfig = .ok config := by
  obtain ⟨member, own⟩ := catalog_lists.mem_of_makes makes
  have ground : other.key ∈ groundKeys := by
    rw [own]
    exact List.mem_cons_self
  have apart : other.key ∉ signerKeys := by
    rw [own]
    exact installConfigKey_notMem
  cases kind_of_mem member with
  | settings => exact Parents.installConfig_ok known good
  | bundle above => exact absurd ground above
  | signed above => exact absurd ground above
  | signer validity_pos isSigner => exact absurd isSigner apart

/-- Of each kind, an asset whose dependencies hold what is good can be generated exactly if it fits. -/
theorem Kind.ends (reliable : source.Reliable) {asset : Asset σ ε} (kind : Kind config keySize asset)
    (supported : asset.Supported (catalog config keySize) (Good config) parents) :
    Ends source now (Fits config keySize now asset) (Good config asset) (asset.generate parents) := by
  have authority {key : String} (isSigner : key ∈ signerKeys) (needed : key ∈ asset.dependencies) :
      ∃ holder, parents.authorityOf key = .ok holder ∧ holder.pair.Sound := by
    obtain ⟨other, node, makes, known, good⟩ := supported key needed
    exact authorityOf_of_good isSigner makes known good
  cases kind with
  | settings =>
    exact .pure (fits_of_undeclared (fun _ => id) (suits_of_ground List.mem_cons_self)) rfl
  | signer validity_pos isSigner =>
    refine (Asset.generate_selfSigned_ends reliable rfl).of_iff ?_
    rw [fits_signer_iff isSigner, signerSpec_issuable_iff isSigner]
    exact and_iff_right rfl
  | @bundle key authorities above suits nonempty signers =>
    have fits : Fits config keySize now (bundleOf key authorities : Asset σ ε) :=
      fits_of_undeclared (fun _ => id) suits
    refine (Asset.generate_bundle_ends nonempty fun key member => ?_).of_iff (iff_of_true trivial fits)
    exact authority (signers member) member
  | @signed key issuer spec policy others validity above isSigner settings listed answers =>
    obtain ⟨holder, found, sound⟩ := authority isSigner List.mem_cons_self
    have recorded (needed : installConfigKey ∈ others) : parents.installConfig = .ok config := by
      obtain ⟨other, node, makes, known, good⟩ :=
        supported installConfigKey (List.mem_cons_of_mem _ needed)
      exact installConfig_of_good makes known good
    refine (Asset.generate_signed_ends reliable found sound
      (answers.notMissing parents recorded)).of_iff ?_
    rw [fits_signed_iff answers, answers.issuable_iff parents recorded]

end

theorem Kind.isLocal {asset : Asset σ ε} (kind : Kind config keySize asset) : asset.Local := by
  cases kind with
  | settings => exact fun _ _ _ => rfl
  | signer => exact Asset.local_selfSigned fun _ _ _ => rfl
  | bundle => exact Asset.local_bundle _
  | signed above isSigner settings listed answers => exact Asset.local_signed answers.reads

end Cluster

end CertGraph
