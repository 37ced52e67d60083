import CertGraph.Proofs.Cluster.Kinds
import CertGraph.Proofs.Issuance.Strangers

/- Signers of a cluster: their names differ, so that no certificate verifies against a signer but its
own, whatever keys they hold. -/
set_option autoImplicit false
set_option relaxedAutoImplicit false

namespace CertGraph

open CertGraph.Time (Instant)

variable {σ ε : Type}

namespace Cluster

variable {config : InstallConfig} {keySize : KeySize} {session : Session σ ε}

/-- Assets of a cluster are told apart by their keys. -/
private theorem eq_of_key_eq {one other : Asset σ ε} (member : one ∈ assets config keySize)
    (memberToo : other ∈ assets config keySize) (same : one.key = other.key) : one = other := by
  have nodup : ((assets config keySize : List (Asset σ ε)).map Asset.key).Nodup :=
    keys_perm.nodup_iff.mpr (by decide)
  exact List.inj_on_of_nodup_map nodup member memberToo same

private theorem mem_signers {declared : SelfSigned ε}
    (listed : Asset.selfSigned declared ∈ assets (σ := σ) config keySize) : declared.key ∈ signerKeys := by
  have kind := kind_of_mem listed
  generalize isAsset : Asset.selfSigned declared = asset at kind
  cases kind with
  | settings => cases isAsset
  | bundle => cases isAsset
  | signed => cases isAsset
  | signer positive isSigner =>
    cases isAsset
    exact isSigner

/-- The issuer of what is signed is one of the signers. -/
private theorem issuer_mem_signers {declared : Signed ε}
    (listed : Asset.signed declared ∈ assets (σ := σ) config keySize) : declared.issuer ∈ signerKeys := by
  have kind := kind_of_mem listed
  generalize isAsset : Asset.signed declared = asset at kind
  cases kind with
  | settings => cases isAsset
  | signer => cases isAsset
  | bundle => cases isAsset
  | signed above isSigner =>
    cases isAsset
    exact isSigner

/-- A signer that is recorded has its key as its common name. -/
private theorem signer_named (grounded : session.Grounded (catalog config keySize) fun _ => True)
    {key : String}
    (isSigner : key ∈ signerKeys) {holder : Authority}
    (known : session.executor.parents.authorityOf key = .ok holder) :
    ∃ unit, (Subject.mk key [] [unit]).name = .ok holder.pair.certificate.body.subject := by
  obtain ⟨node, recorded, holds⟩ := Parents.authorityOf_ok.mp known
  obtain ⟨asset, parents, makes, -, -, -, workshop, after, -, generated⟩ :=
    grounded.grounds _ node recorded
  obtain ⟨member, rfl⟩ := catalog_lists.mem_of_makes makes
  have ground : asset.key ∈ groundKeys := List.mem_cons_of_mem _ isSigner
  rw [Work.outcome_eq] at generated
  generalize node.product = product at holds generated
  cases kind_of_mem member with
  | settings => exact absurd isSigner installConfigKey_notMem
  | bundle above => exact absurd ground above
  | signed above => exact absurd ground above
  | @signer key unit validity positive =>
    obtain ⟨spec, first, read, generated⟩ := outcome_bind_ok generated
    obtain ⟨authority, second, issued, ended⟩ := outcome_bind_ok generated
    cases ended
    cases holds
    cases Work.ofExcept_ok read
    exact ⟨unit, (issueSelfSigned_signedAs issued).2.1.subject⟩

/-- What is signed and recorded was issued by the signer that is recorded under its issuer. -/
theorem leaf_issued (grounded : session.Grounded (catalog config keySize) fun _ => True)
    {declared : Signed ε} (listed : Asset.signed declared ∈ assets (σ := σ) config keySize)
    {node : Node ε} (known : session.executor.parents.get? declared.key = some node)
    {certificate : Certificate} (holds : node.product.certificate? = some certificate) :
    ∃ issuer, session.executor.parents.authorityOf declared.issuer = .ok issuer ∧
      certificate.isIssuedBy issuer.pair.certificate = true ∧
      certificate.body.issuer = issuer.pair.certificate.body.subject := by
  obtain ⟨asset, parents, makes, -, earlier, -, workshop, after, -, generated⟩ :=
    grounded.grounds _ node known
  obtain ⟨member, own⟩ := catalog_lists.mem_of_makes makes
  obtain rfl := eq_of_key_eq member listed own
  rw [Work.outcome_eq] at generated
  generalize node.product = product at holds generated
  obtain ⟨issuer, first, found, generated⟩ := outcome_bind_ok generated
  obtain ⟨spec, second, read, generated⟩ := outcome_bind_ok generated
  obtain ⟨made, third, issued, ended⟩ := outcome_bind_ok generated
  cases ended
  cases holds
  have within : parents.Within session.executor.parents := fun _ _ recorded =>
    earlier.lookup_eq_some recorded
  exact ⟨issuer, within.authorityOf (Work.ofExcept_ok found), (issueWith_ok issued).1,
    (issueWith_signedAs issued).2.2.issuer⟩

open Resolution (callAll)

/-- Authorities whose subjects differ, whatever keys they hold: a certificate that was built with one of
them as its issuer's, or is that one itself, does not verify against the other. So it is for all that is
issued in a row of calls. In a cluster, whatever was called for and whatever keys there were, a
certificate verifies against the signer that its asset declares, and against no other. -/
theorem strangers_issue_nothing :
    (∀ (one other : Spec) (now later : Instant) (issuer stranger certificate : Certificate),
      one.subject ≠ other.subject → issuer.BuiltFrom one now → stranger.BuiltFrom other later →
      issuer.Issues certificate → certificate.isIssuedBy stranger = false) ∧
    (∀ (workshop : Workshop σ) (calls : List Ledger.Call) (entry issuer stranger : Ledger.Entry),
      let entries := ((Ledger.opened workshop).run calls).entries
      entry ∈ entries → entries[entry.issuer]? = some issuer → stranger ∈ entries →
      issuer.spec.subject ≠ stranger.spec.subject →
      entry.certificate.isIssuedBy stranger.certificate = false) ∧
    ∀ (config : InstallConfig) (keySize : KeySize) (workshop : Workshop σ) (targets : List String)
      (leaf : Signed ε) (signer : SelfSigned ε),
      let parents : Parents ε :=
        (callAll (catalog config keySize) (targets.map .key) (.fresh workshop)).executor.parents
      Asset.signed leaf ∈ assets (σ := σ) config keySize →
      Asset.selfSigned signer ∈ assets (σ := σ) config keySize →
      ∀ node certificate holder, parents.get? leaf.key = some node →
        node.product.certificate? = some certificate → parents.authorityOf signer.key = .ok holder →
        (certificate.isIssuedBy holder.pair.certificate = true ↔ signer.key = leaf.issuer) := by
  refine ⟨?_, ?_, ?_⟩
  · intro one other now later issuer stranger certificate apart built strange issues
    exact Certificate.isIssuedBy_eq_false apart issues.issuer_eq built.named strange.named
  · intro workshop calls entry issuer stranger entries member found memberToo apart
    obtain ⟨place, inside, rfl⟩ := List.getElem_of_mem member
    exact Ledger.isIssuedBy_stranger workshop calls (List.getElem?_eq_getElem inside) found memberToo apart
  · intro config keySize workshop targets leaf signer parents listed listedToo node certificate holder known
      holds found
    have grounded : (callAll (catalog config keySize) (targets.map .key) (.fresh workshop) :
        Session σ ε).Grounded (catalog config keySize) fun _ => True :=
      Resolution.callAll_grounded (fun _ _ _ _ => trivial) trivial targets
    obtain ⟨issuer, recorded, verified, inName⟩ := leaf_issued grounded listed known holds
    constructor
    · intro issued
      by_contra apart
      obtain ⟨unit, named⟩ := signer_named grounded (issuer_mem_signers listed) recorded
      obtain ⟨otherUnit, strange⟩ := signer_named grounded (mem_signers listedToo) found
      have unlike : Subject.mk leaf.issuer [] [unit] ≠ Subject.mk signer.key [] [otherUnit] :=
        fun same => apart (congrArg Subject.commonName same).symm
      rw [Certificate.isIssuedBy_eq_false unlike inName named strange] at issued
      cases issued
    · rintro same
      rw [same] at found
      cases recorded.symm.trans found
      exact verified

open Resolution (mersenneKey mersenneSource_wellFormed mersenneWorkshop)

/-- The spec of a root of some unit. -/
def rootOf (unit : String) : Spec :=
  signerSpec "root" oneYear unit oneYear_pos

/-- Of two roots that hold the same key and differ in their units alone, one does not verify against the
other. -/
theorem twins_issue_nothing :
    ∃ one other after later,
      outcome (Certificate.buildSelfSigned (rootOf "one") (mersenneKey 607 521)) mersenneWorkshop =
        (.ok one, after) ∧
      outcome (Certificate.buildSelfSigned (rootOf "other") (mersenneKey 607 521)) mersenneWorkshop =
        (.ok other, later) ∧
      one.isIssuedBy one = true ∧ one.isIssuedBy other = false := by
  obtain ⟨one, after, built⟩ := @Certificate.mersenne_builds (rootOf "one")
    ⟨by decide +kernel, nofun, by decide +kernel, _, rfl⟩
  obtain ⟨other, later, strange⟩ := @Certificate.mersenne_builds (rootOf "other")
    ⟨by decide +kernel, nofun, by decide +kernel, _, rfl⟩
  have wellFormed : (mersenneKey 607 521).WellFormed := mersenneSource_wellFormed 0 _ rfl
  exact ⟨one, other, after, later, built, strange, (Certificate.buildSelfSigned_ok wellFormed built).2.1,
    (@strangers_issue_nothing Unit Unit).1 (rootOf "one") (rootOf "other") _ _ one other one (by decide)
      (.selfSigned rfl built) (.selfSigned rfl strange) (.itself built)⟩

end Cluster

end CertGraph
