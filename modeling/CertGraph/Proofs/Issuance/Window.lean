import CertGraph.Proofs.Issuance.Returning

/- For how long certificates are valid: from the second of the clock on, and for the whole seconds of
the validity that was asked for. -/
set_option autoImplicit false
set_option relaxedAutoImplicit false

namespace CertGraph

open CertGraph.Time (Duration Instant)

namespace Time.Instant

private theorem micros_truncated (instant : Instant) :
    instant.truncated.micros = instant.micros - instant.micros % Duration.microsPerSecond := by
  rw [truncated, ofSeconds, seconds]
  exact Nat.div_mul_self_eq_mod_sub_self

/-- From the start of a second on, what is later by a duration lies in the second that is later by the
whole seconds of it. -/
theorem truncated_add? {start last : Instant} {duration : Duration}
    (whole : start.truncated = start)
    (added : start.add? duration = some last) :
    (last.truncated.micros : Int) - start.micros =
      duration.micros - duration.micros % Duration.microsPerSecond := by
  have onSecond : start.micros % Duration.microsPerSecond = 0 := by
    rw [← whole, truncated, ofSeconds, Nat.mul_mod_left]
  unfold add? at added
  dsimp only at added
  split at added
  · rename_i inside
    cases added
    rw [micros_truncated]
    simp only [Duration.microsPerSecond] at onSecond ⊢
    omega
  · cases added

end Time.Instant

namespace Certificate

/-- A certificate was built from a spec when the clock stood at an instant, self-signed or signed by an
issuer. -/
inductive BuiltFrom (spec : Spec) (now : Instant) (certificate : Certificate) : Prop
  | selfSigned {σ : Type} {key : Rsa.PrivateKey} {workshop after : Workshop σ}
      (clock : workshop.supply.now = now)
      (built : outcome (buildSelfSigned spec key) workshop = (.ok certificate, after)) :
      BuiltFrom spec now certificate
  | signed {σ : Type} {key : Rsa.PublicKey} {issuer : Certificate} {issuerKey : Rsa.PrivateKey}
      {workshop after : Workshop σ} (clock : workshop.supply.now = now)
      (built : outcome (buildSigned spec key issuer issuerKey) workshop = (.ok certificate, after)) :
      BuiltFrom spec now certificate

namespace BuiltFrom

variable {spec : Spec} {now : Instant} {certificate : Certificate}

theorem made (built : certificate.BuiltFrom spec now) :
    ∃ supply issuer key signer added, supply.now = now ∧
      (added = [] ∨ ∃ other, added = [Extension.authorityKeyIdentifier other]) ∧
      certificate.Made supply spec issuer key signer added := by
  cases built with
  | selfSigned clock built => exact ⟨_, _, _, _, _, clock, .inl rfl, (buildSelfSigned_made built).1⟩
  | signed clock built => exact ⟨_, _, _, _, _, clock, .inr ⟨_, rfl⟩, (buildSigned_made built).1⟩

theorem readable (built : certificate.BuiltFrom spec now) : certificate.Readable := by
  cases built with
  | selfSigned _ built => exact buildSelfSigned_readable built
  | signed _ built => exact buildSigned_readable built

end BuiltFrom

/-- How long a certificate is valid, by what it says. -/
def validity (certificate : Certificate) : Duration :=
  ⟨certificate.body.notAfter.instant.micros - certificate.body.notBefore.instant.micros⟩

namespace Made

variable {supply : Supply} {spec : Spec} {issuer : Name} {key : Rsa.PublicKey}
  {signer : Rsa.PrivateKey} {added : List Extension} {certificate : Certificate}

theorem start_eq (made : certificate.Made supply spec issuer key signer added) :
    certificate.body.notBefore.instant = supply.now.truncated := by
  rw [made.notBefore]
  rfl

private theorem validity_micros (made : certificate.Made supply spec issuer key signer added) :
    certificate.validity.micros = spec.validity.micros - spec.validity.microseconds := by
  obtain ⟨last, isLast, ends⟩ := made.notAfter
  have fraction : (spec.validity.microseconds : Int) =
      spec.validity.micros % Duration.microsPerSecond :=
    Int.toNat_of_nonneg (Int.emod_nonneg _ (by decide))
  rw [validity, made.start_eq, ends, fraction]
  exact Instant.truncated_add? (Instant.truncated_truncated _) isLast

end Made

/-- The certificate that is read from what was built says that it is valid from the second of the clock
on, for the whole seconds of the validity of its spec. That is the validity itself exactly if it has no
microseconds. -/
theorem built_window {spec : Spec} {now : Instant} {certificate : Certificate}
    (built : certificate.BuiltFrom spec now) :
    ∃ read, decode certificate.encode = .ok read ∧ read.body.notBefore.instant = now.truncated ∧
      read.validity.micros = spec.validity.micros - spec.validity.microseconds ∧
      (read.validity = spec.validity ↔ spec.validity.microseconds = 0) := by
  obtain ⟨supply, issuer, key, signer, added, rfl, -, made⟩ := built.made
  have length := made.validity_micros
  have whole : certificate.validity = spec.validity ↔
      certificate.validity.micros = spec.validity.micros :=
    ⟨congrArg Duration.micros, congrArg Duration.mk⟩
  refine ⟨certificate, decode_encode built.readable, made.start_eq, length, ?_⟩
  rw [whole, length]
  omega

open Resolution (mersenneKey mersenneWorkshop)

theorem mersenne_builds {spec : Spec} (issuable : spec.Issuable mersenneWorkshop.supply.now) :
    ∃ certificate after, outcome (buildSelfSigned spec (mersenneKey 607 521)) mersenneWorkshop =
      (.ok certificate, after) := by
  obtain ⟨key, given, fit⟩ := mersenneSource_generates 0
  have same : mersenneKey 607 521 = key := Except.ok.inj given
  rw [same]
  exact ((buildSelfSigned_ends spec fit.usable).returns_iff ⟨rfl, rfl⟩).mpr issuable

/-- A root that is to be valid for one year is. -/
theorem root_window :
    ∃ certificate after read, outcome (buildSelfSigned (Cluster.signerSpec "root" Cluster.oneYear "unit"
        Cluster.oneYear_pos) (mersenneKey 607 521)) mersenneWorkshop = (.ok certificate, after) ∧
      decode certificate.encode = .ok read ∧
      read.body.notBefore.instant = mersenneWorkshop.supply.now.truncated ∧
      read.validity = Cluster.oneYear := by
  obtain ⟨certificate, after, ended⟩ := mersenne_builds rootSpec_issuable
  obtain ⟨read, isRead, starts, -, whole⟩ := built_window (.selfSigned rfl ended)
  exact ⟨certificate, after, read, ended, isRead, starts, whole.mpr rfl⟩

/-- The spec of a root that is to be valid for a second and a half. -/
def briefSpec : Spec :=
  Cluster.signerSpec "root" ⟨1500000⟩ "unit" (by decide)

/-- Such a root is valid for one second. -/
theorem brief_cut_short :
    ∃ certificate after, outcome (buildSelfSigned briefSpec (mersenneKey 607 521)) mersenneWorkshop =
        (.ok certificate, after) ∧
      certificate.validity = ⟨1000000⟩ ∧ certificate.validity ≠ briefSpec.validity := by
  have issuable : briefSpec.Issuable mersenneWorkshop.supply.now :=
    ⟨by decide +kernel, nofun, by decide +kernel, _, rfl⟩
  obtain ⟨certificate, after, ended⟩ := mersenne_builds issuable
  have length : certificate.validity = ⟨1000000⟩ :=
    congrArg Duration.mk (buildSelfSigned_made ended).1.validity_micros
  refine ⟨certificate, after, ended, length, ?_⟩
  rw [length]
  decide

end Certificate

end CertGraph
