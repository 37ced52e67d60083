import CertGraph.Proofs.Certificate.RoundTrip
import CertGraph.Proofs.Issuance.Issued

/- Certificates that are issued can be read again, from the files of their pairs as well. -/
set_option autoImplicit false
set_option relaxedAutoImplicit false

namespace CertGraph

open CertGraph.Time (Instant)

variable {σ : Type}

namespace Extension

private theorem ofSpec_known {spec : Spec} {key : Rsa.PublicKey} {extensions : List Extension}
    (made : ofSpec spec key = .ok extensions) :
    ∀ extension ∈ extensions, (Oid.arcs? extension.oid).isSome = true := by
  have known : ∀ oid ∈ specKinds, (Oid.arcs? oid).isSome = true := by decide
  exact fun extension member => known _ (oid_mem_specKinds made member)

end Extension

namespace Certificate

variable {workshop after : Workshop σ}

private theorem signatureAlgorithm_readable : signatureAlgorithm.Readable := by
  decide +kernel

private theorem keyAlgorithm_readable : Rsa.keyAlgorithm.Readable := by
  decide +kernel

/-- A certificate that is made can be read, if what was added to its extensions can. -/
theorem Made.readable {supply : Supply} {spec : Spec} {issuer : Name} {key : Rsa.PublicKey}
    {signer : Rsa.PrivateKey} {added : List Extension} {certificate : Certificate}
    (made : certificate.Made supply spec issuer key signer added)
    (known : ∀ extension ∈ added, (Oid.arcs? extension.oid).isSome = true) :
    certificate.Readable := by
  obtain ⟨last, isLast, ends⟩ := made.notAfter
  obtain ⟨first, ofSpec, carries⟩ := made.carries
  obtain ⟨signature, -, signed⟩ := made.signed
  obtain ⟨later, inside⟩ := Instant.add?_later spec.validity_pos isLast
  have ending : last.date.year ≤ 9999 := Instant.year_le inside
  have between : supply.now.truncated.date.year ≤ last.date.year := Instant.year_mono later
  refine ⟨⟨made.version, ?_, ?_, ?_, ?_, made.unnumbered.1, made.unnumbered.2, ?_⟩, ?_, ?_⟩
  · rw [made.plain.1]
    exact signatureAlgorithm_readable
  · rw [made.notBefore]
    exact Stamp.ofElement?_ofInstant (Instant.truncated_truncated _) made.starts (between.trans ending)
  · rw [ends]
    refine Stamp.ofElement?_ofInstant (Instant.truncated_truncated last) ?_ ?_
    · rw [Instant.date_truncated]
      exact made.starts.trans between
    · rw [Instant.date_truncated]
      exact ending
  · rw [made.certified]
    exact ⟨keyAlgorithm_readable, Der.isProper_ofOctets _⟩
  · rw [carries]
    rintro _ ⟨rfl⟩ extension member
    exact (List.mem_append.mp member).elim (Extension.ofSpec_known ofSpec extension) (known extension)
  · rw [made.plain.2]
    exact signatureAlgorithm_readable
  · rw [signed]
    exact Der.isProper_ofOctets signature

theorem buildSelfSigned_readable {spec : Spec} {key : Rsa.PrivateKey} {certificate : Certificate}
    (built : outcome (buildSelfSigned spec key) workshop = (.ok certificate, after)) :
    certificate.Readable :=
  (buildSelfSigned_made built).1.readable fun _ absurd => nomatch absurd

theorem buildSigned_readable {spec : Spec} {key : Rsa.PublicKey} {issuer certificate : Certificate}
    {issuerKey : Rsa.PrivateKey}
    (built : outcome (buildSigned spec key issuer issuerKey) workshop = (.ok certificate, after)) :
    certificate.Readable := by
  refine (buildSigned_made built).1.readable fun extension member => ?_
  rw [List.mem_singleton.mp member]
  rfl

end Certificate

/-- The certificate file of the pair starts with its certificate, which can be read and has a serial
number of its own. -/
structure Pair.Readable (pair : Pair) : Prop where
  certificate : pair.certificate.Readable
  serial : ∃ serial : Nat, pair.certificate.body.serial = serial
  certPem : ∃ others : List Certificate,
    pair.certPem = pair.certificate.pem ++ others.flatMap Certificate.pem

theorem Pair.Readable.ofPem_certPem {pair : Pair} (readable : pair.Readable) :
    Certificate.ofPem pair.certPem = .ok pair.certificate := by
  obtain ⟨others, written⟩ := readable.certPem
  rw [written]
  exact Certificate.ofPem_append readable.certificate others

section Issuing

variable {workshop after : Workshop σ}

theorem issueSelfSigned_readable {spec : Spec} {baseName : String} {keySize : KeySize}
    {authority : Authority}
    (issued : outcome (issueSelfSigned spec baseName keySize) workshop = (.ok authority, after)) :
    authority.pair.Readable ∧ authority.pair.baseName = baseName := by
  obtain ⟨-, key, certificate, first, second, -, built, -, same⟩ := issueSelfSigned_built issued
  rw [same]
  exact ⟨⟨Certificate.buildSelfSigned_readable built, ⟨_, (Certificate.buildSelfSigned_made built).1.serial⟩,
    [], (List.append_nil _).symm⟩, rfl⟩

theorem issueWith_readable {spec : Spec} {issuer : Authority} {baseName : String}
    {policy : ChainPolicy} {keySize : KeySize} {made : Issued}
    (issued : outcome (issueWith spec issuer baseName policy keySize) workshop =
      (.ok made, after)) :
    made.pair.Readable ∧ made.pair.baseName = baseName := by
  obtain ⟨-, key, certificate, first, second, -, built, -, -, same⟩ := issueWith_built issued
  rw [same]
  refine ⟨⟨Certificate.buildSigned_readable built, ⟨_, (Certificate.buildSigned_made built).1.serial⟩,
    if policy = .appendParent then [issuer.pair.certificate] else [], ?_⟩, rfl⟩
  rw [Pair.certPem_make]
  have certificateIs : (Pair.make baseName key certificate (certificate.pem ++
      if policy = .appendParent then issuer.pair.certificate.pem else [])).certificate =
      certificate := rfl
  rw [certificateIs]
  split <;> simp

end Issuing

end CertGraph
