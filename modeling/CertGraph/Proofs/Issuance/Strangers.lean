import CertGraph.Proofs.Issuance.Ledger
import CertGraph.Proofs.Issuance.Profile

/- Authorities with other names: what one of them issues never verifies against another, whatever keys
they hold. -/
set_option autoImplicit false
set_option relaxedAutoImplicit false

namespace CertGraph

open CertGraph.Time (Instant)

variable {σ : Type}

/-- The name of a subject tells the subject. -/
theorem Subject.name_inj {one other : Subject} {name : Name} (named : one.name = .ok name)
    (namedToo : other.name = .ok name) : one = other :=
  Option.some.inj ((Name.subject?_of_subject named).symm.trans (Name.subject?_of_subject namedToo))

namespace Certificate

/-- A certificate was built with another as its issuer's; a self-signed one is its own. -/
inductive Issues (issuer : Certificate) : Certificate → Prop
  | itself {σ : Type} {spec : Spec} {key : Rsa.PrivateKey} {workshop after : Workshop σ}
      (built : outcome (buildSelfSigned spec key) workshop = (.ok issuer, after)) : Issues issuer issuer
  | signed {σ : Type} {spec : Spec} {key : Rsa.PublicKey} {issuerKey : Rsa.PrivateKey}
      {certificate : Certificate} {workshop after : Workshop σ}
      (built : outcome (buildSigned spec key issuer issuerKey) workshop = (.ok certificate, after)) :
      Issues issuer certificate

theorem Issues.issuer_eq {issuer certificate : Certificate} (issues : issuer.Issues certificate) :
    certificate.body.issuer = issuer.body.subject := by
  cases issues with
  | itself built => exact (buildSelfSigned_made built).1.issuer
  | signed built => exact (buildSigned_made built).1.issuer

theorem BuiltFrom.named {spec : Spec} {now : Instant} {certificate : Certificate}
    (built : certificate.BuiltFrom spec now) : spec.subject.name = .ok certificate.body.subject := by
  obtain ⟨_, _, _, _, _, -, -, made⟩ := built.made
  exact made.subject

/-- What was issued in one name does not verify against an authority of another name. -/
theorem isIssuedBy_eq_false {one other : Subject} {issuer : Name} {certificate stranger : Certificate}
    (apart : one ≠ other) (issued : certificate.body.issuer = issuer) (named : one.name = .ok issuer)
    (strange : other.name = .ok stranger.body.subject) : certificate.isIssuedBy stranger = false := by
  have unlike : certificate.body.issuer ≠ stranger.body.subject := by
    intro same
    rw [← same, issued] at strange
    exact apart (Subject.name_inj named strange)
  rw [isIssuedBy, decide_eq_false unlike, Bool.false_and]

end Certificate

namespace Ledger

/-- An entry does not verify against one of another name than that of its issuer. -/
theorem isIssuedBy_stranger (workshop : Workshop σ) (calls : List Call) {place : Nat}
    {entry issuer stranger : Entry} (known : ((opened workshop).run calls).entries[place]? = some entry)
    (found : ((opened workshop).run calls).entries[entry.issuer]? = some issuer)
    (member : stranger ∈ ((opened workshop).run calls).entries)
    (apart : issuer.spec.subject ≠ stranger.spec.subject) :
    entry.certificate.isIssuedBy stranger.certificate = false := by
  have sound := run_sound workshop calls
  obtain ⟨other, found', -, -, signed⟩ := (sound place entry known).signed
  cases found.symm.trans found'
  obtain ⟨position, inside, rfl⟩ := List.getElem_of_mem member
  have strange := (sound position _ (List.getElem?_eq_getElem inside)).made.subject
  exact Certificate.isIssuedBy_eq_false apart signed.issuer (sound _ issuer found).made.subject strange

end Ledger

end CertGraph
