import CertGraph.Proofs.Issuance.Draws
import CertGraph.Proofs.Issuance.Ledger
import CertGraph.Proofs.Issuance.Readable
import CertGraph.Proofs.Rsa.Reading

/- Authorities that are read back from their files: nothing that signing depends on is lost. -/
set_option autoImplicit false
set_option relaxedAutoImplicit false

namespace CertGraph

/-- All keys that a source gives are genuine. -/
def Source.Genuine (source : Source) : Prop :=
  ∀ count key, source.key count = .ok key → key.Genuine

namespace Authority

/-- An authority was issued, with a key from a source: as a self-signed one, or signed by an issuer. -/
inductive IssuedFrom (source : Source) : Authority → Prop
  | selfSigned {σ : Type} {spec : Spec} {baseName : String} {keySize : KeySize}
      {workshop after : Workshop σ} {holder : Authority} (supplied : workshop.supply.source = source)
      (issued : outcome (issueSelfSigned spec baseName keySize) workshop = (.ok holder, after)) :
      IssuedFrom source holder
  | signed {σ : Type} {spec : Spec} {issuer : Issued} {baseName : String} {policy : ChainPolicy}
      {keySize : KeySize} {workshop after : Workshop σ} {holder : Authority}
      (supplied : workshop.supply.source = source)
      (issued : outcome (issueSigned spec issuer baseName policy keySize) workshop =
        (.ok (.authority holder), after)) :
      IssuedFrom source holder

/-- The authority of a pair's name, with the key in one of its files and the certificate in another. -/
structure Reloads (holder reloaded : Authority) : Prop where
  key : ∃ file ∈ holder.pair.files, file.filename = holder.pair.baseName ++ ".key" ∧
    Rsa.PrivateKey.ofPem file.data = .ok reloaded.pair.key
  certificate : ∃ file ∈ holder.pair.files, file.filename = holder.pair.baseName ++ ".crt" ∧
    Certificate.ofPem file.data = .ok reloaded.pair.certificate
  made : make (Pair.make holder.pair.baseName reloaded.pair.key reloaded.pair.certificate []) =
    .ok reloaded

theorem IssuedFrom.facts {source : Source} {holder : Authority}
    (issued : holder.IssuedFrom source) :
    (∃ count, source.key count = .ok holder.pair.key) ∧ holder.pair.Readable ∧
      ∃ spec : Spec, spec.isAuthority = true ∧
        holder.pair.certificate.MadeFor spec holder.pair.key.publicKey := by
  cases issued with
  | @selfSigned σ spec baseName keySize workshop after holder supplied issued =>
    obtain ⟨isAuthority, made, -⟩ := issueSelfSigned_signedAs issued
    obtain ⟨gives, -⟩ := issueSelfSigned_drawn issued
    exact ⟨⟨_, supplied ▸ gives.key⟩, (issueSelfSigned_readable issued).1, spec, isAuthority, made⟩
  | @signed σ spec issuer baseName policy keySize workshop after holder supplied issued =>
    obtain ⟨parent, -, issued⟩ := issueSigned_ok issued
    obtain ⟨kind, made, -⟩ := issueWith_signedAs issued
    obtain ⟨gives, -⟩ := issueWith_drawn issued
    exact ⟨⟨_, supplied ▸ gives.key⟩, (issueWith_readable issued).1, spec, kind.symm, made⟩

end Authority

/-- Signing depends on the name, the key and the certificate of the issuer, not on its file. -/
theorem issueWith_congr {σ : Type} {issuer other : Authority}
    (name : other.pair.baseName = issuer.pair.baseName) (key : other.pair.key = issuer.pair.key)
    (certificate : other.pair.certificate = issuer.pair.certificate) (spec : Spec)
    (baseName : String) (policy : ChainPolicy) (keySize : KeySize) :
    (issueWith spec other baseName policy keySize : Work σ Issued) =
      issueWith spec issuer baseName policy keySize := by
  simp only [issueWith, name, key, certificate]

namespace Authority

/-- Let the source give genuine keys. Every authority that is issued, whoever signed it and whatever
its certificate file goes on with, can be read back from its files: as an authority with the same key
and the same certificate, which are about each other, and with which everything is signed as with the
one that was issued, or refused for the same reason. -/
theorem issued_reloads {source : Source} (genuine : source.Genuine) {holder : Authority}
    (issued : holder.IssuedFrom source) :
    ∃ reloaded : Authority, holder.Reloads reloaded ∧
      reloaded.pair.certificate = holder.pair.certificate ∧
      reloaded.pair.certificate.holds reloaded.pair.key = true ∧
      ∀ (σ : Type) (spec : Spec) (baseName : String) (policy : ChainPolicy) (keySize : KeySize)
        (workshop : Workshop σ),
        outcome (issueSigned spec (.authority reloaded) baseName policy keySize) workshop =
          outcome (issueSigned spec (.authority holder) baseName policy keySize) workshop := by
  obtain ⟨⟨count, given⟩, readable, spec, isAuthority, made⟩ := issued.facts
  obtain ⟨reloaded, accepted⟩ := made.exists_make_ok isAuthority
    (Pair.make holder.pair.baseName holder.pair.key holder.pair.certificate []) rfl
  -- the file of the issuer is lost, but signing reads its name, key and certificate only
  have pairIs := make_ok accepted
  have keyIs : reloaded.pair.key = holder.pair.key := by rw [pairIs]; rfl
  have certificateIs : reloaded.pair.certificate = holder.pair.certificate := by rw [pairIs]; rfl
  have nameIs : reloaded.pair.baseName = holder.pair.baseName := by rw [pairIs]; rfl
  refine ⟨reloaded, ⟨?_, ?_, ?_⟩, certificateIs, ?_, ?_⟩
  · refine ⟨_, List.mem_cons_self, rfl, ?_⟩
    rw [keyIs]
    exact Rsa.PrivateKey.ofPem_pem (genuine count _ given)
  · refine ⟨_, List.mem_cons_of_mem _ List.mem_cons_self, rfl, ?_⟩
    rw [certificateIs]
    exact readable.ofPem_certPem
  · rw [keyIs, certificateIs]
    exact accepted
  · rw [certificateIs, keyIs, Certificate.holds, Certificate.rsaKey?_of_certifies made.certified]
    exact decide_eq_true rfl
  · intro σ spec baseName policy keySize workshop
    have same := issueWith_congr (σ := σ) nameIs keyIs certificateIs spec baseName policy keySize
    exact congrArg (outcome · workshop) same

open Resolution (mersenneKey mersenneSource mersenneSource_key mersenneWorkshop)

private theorem mersenneSource_genuine : mersenneSource.Genuine := by
  intro count key given
  obtain ⟨long, short, rfl, primeLong, primeShort, -, undone⟩ := mersenneSource_key given
  have odd : 1 < Rsa.usualExponent ∧ Rsa.usualExponent % 2 = 1 := by decide
  exact ⟨⟨primeLong, primeShort⟩, odd, undone⟩

/-- An authority signed by another one, whose certificate stands behind its own in its file. -/
def intermediate : Work Unit Issued := do
  let root ← issueSelfSigned (Cluster.signerSpec "root" Cluster.oneYear "unit" Cluster.oneYear_pos)
    "root" (some 1128)
  issueSigned (Cluster.signerSpec "middle" Cluster.oneYear "unit" Cluster.oneYear_pos)
    (.authority root) "middle" .appendParent (some 1800)

theorem intermediate_ended :
    ∃ holder after, outcome intermediate mersenneWorkshop = (.ok (.authority holder), after) := by
  have issued : ((outcome intermediate mersenneWorkshop).1.toOption.bind Issued.authority?).isSome =
      true := by decide +kernel
  generalize outcome intermediate mersenneWorkshop = ended at issued ⊢
  obtain ⟨failure | pair | holder, after⟩ := ended
  · cases issued
  · cases issued
  · exact ⟨holder, after, rfl⟩

/-- The intermediate authority is issued, and can be read back from its files. -/
theorem intermediate_reloads :
    ∃ holder after reloaded, outcome intermediate mersenneWorkshop = (.ok (.authority holder), after) ∧
      holder.pair.certPem ≠ holder.pair.certificate.pem ∧ holder.Reloads reloaded ∧
      reloaded.pair.certificate = holder.pair.certificate := by
  obtain ⟨holder, after, ended⟩ := intermediate_ended
  obtain ⟨root, first, rootIssued, signing⟩ := outcome_bind_ok ended
  have supplied : first.supply.source = mersenneSource := by
    have taken := Work.OnlyTakes.issueSelfSigned
      (Cluster.signerSpec "root" Cluster.oneYear "unit" Cluster.oneYear_pos) "root" (some 1128)
      mersenneWorkshop
    rw [rootIssued] at taken
    exact taken.source
  obtain ⟨reloaded, reloads, same, -⟩ :=
    issued_reloads mersenneSource_genuine (.signed supplied signing)
  obtain ⟨parent, -, signed⟩ := issueSigned_ok signing
  have file : holder.pair.certPem = holder.pair.certificate.pem ++ parent.pair.certificate.pem :=
    (issueWith_ok signed).2.2.1
  refine ⟨holder, after, reloaded, ended, ?_, reloads, same⟩
  rw [file]
  exact fun alone => parent.pair.certificate.pem_ne_nil (List.append_right_eq_self.mp alone)

end Authority

end CertGraph
