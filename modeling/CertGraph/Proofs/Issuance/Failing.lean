import CertGraph.Proofs.Issuance.Issuable

/- What signing can fail with, and what was the case then. -/
set_option autoImplicit false
set_option relaxedAutoImplicit false

namespace CertGraph

variable {σ α β : Type}

/-- A failure that issuing knows nothing of: the source of keys raised it. -/
def Failure.IsForeign (failure : Failure) : Prop :=
  ∃ kind message, failure = .application kind message

/-- A call for a key refuses a value, or fails in a way of its own. -/
private theorem Supply.drawKey_error {supply : Supply} {size : KeySize} {failure : Failure}
    (failed : (supply.drawKey size).1 = .error failure) :
    (∃ fault, failure = .value fault) ∨ failure.IsForeign := by
  unfold drawKey at failed
  cases size with
  | none =>
    cases failed
    exact .inl ⟨_, rfl⟩
  | some bits =>
    dsimp only at failed
    split at failed
    · cases failed
      exact .inl ⟨_, rfl⟩
    · rcases given : supply.source.key supply.keysDrawn with fault | key
      · rw [given] at failed
        cases failed
        cases fault with
        | refused message => exact .inl ⟨_, rfl⟩
        | other kind message => exact .inr ⟨kind, message, rfl⟩
      · rw [given] at failed
        cases failed

namespace Work

/-- Whatever a step fails with is allowed. -/
def FailsAs (allowed : Failure → Prop) (work : Work σ α) : Prop :=
  ∀ workshop failure after, CertGraph.outcome work workshop = (.error failure, after) → allowed failure

namespace FailsAs

variable {allowed wider : Failure → Prop} {work : Work σ α}

theorem pure (value : α) : FailsAs allowed (Pure.pure value : Work σ α) :=
  fun _ _ _ failed => by cases failed

theorem fail {failure : Failure} (isAllowed : allowed failure) :
    FailsAs allowed (Work.fail failure : Work σ α) := by
  intro workshop other after failed
  cases failed
  exact isAllowed

theorem mono (fails : FailsAs allowed work) (allows : ∀ failure, allowed failure → wider failure) :
    FailsAs wider work :=
  fun workshop failure after failed => allows failure (fails workshop failure after failed)

/-- What comes after a step need only be looked at for values that the step can give. -/
theorem bind {next : α → Work σ β} (first : FailsAs allowed work)
    (rest : ∀ workshop value after, CertGraph.outcome work workshop = (.ok value, after) →
      FailsAs allowed (next value)) : FailsAs allowed (work >>= next) := by
  intro workshop failure after failed
  rw [outcome_bind] at failed
  rcases begun : CertGraph.outcome work workshop with ⟨other | value, middle⟩
  · rw [begun] at failed
    cases failed
    exact first workshop failure after begun
  · rw [begun] at failed
    exact rest workshop value middle begun middle failure after failed

theorem ofExcept {ε : Type} {wrap : ε → Failure} {result : Except ε α}
    (isAllowed : ∀ fault, result = .error fault → allowed (wrap fault)) :
    FailsAs allowed (Work.ofExcept wrap result : Work σ α) := by
  cases result with
  | ok value => exact pure value
  | error fault => exact fail (isAllowed fault rfl)

theorem report (level : Level) (message : String) (asset : Option String) :
    FailsAs allowed (Work.report level message asset : Work σ Unit) :=
  fun _ _ _ failed => by cases failed

private theorem now : FailsAs allowed (Work.now : Work σ Time.Instant) :=
  fun _ _ _ failed => by cases failed

theorem drawSerial : FailsAs allowed (Work.drawSerial : Work σ Nat) :=
  fun _ _ _ failed => by cases failed

theorem drawKey (size : KeySize) :
    FailsAs (fun failure => (∃ fault, failure = .value fault) ∨ failure.IsForeign)
      (Work.drawKey size : Work σ Rsa.PrivateKey) := by
  intro workshop failure after failed
  simp only [CertGraph.outcome, Work.drawKey] at failed
  rcases drawn : workshop.supply.drawKey size with ⟨raised | key, supply⟩
  · rw [drawn] at failed
    cases failed
    exact Supply.drawKey_error (congrArg Prod.fst drawn)
  · rw [drawn] at failed
    cases failed

/-- Refused values become failures of cryptography; what else a step fails with stays. -/
theorem asCryptography {fault : ValueFault → CryptographyFault}
    (fails : FailsAs (fun failure => (∃ cause, failure = .value cause) ∨ allowed failure) work) :
    FailsAs (fun failure => (∃ cause, failure = .cryptography (fault cause)) ∨ allowed failure)
      (work.asCryptography fault) := by
  intro workshop failure after failed
  have known := fails workshop
  simp only [CertGraph.outcome, Work.asCryptography, onFailure] at failed known
  cases ran : work workshop with
  | ok value middle =>
    rw [ran] at failed
    cases failed
  | error other middle =>
    rw [ran] at failed known
    rcases known other middle rfl with ⟨cause, rfl⟩ | isAllowed
    · cases failed
      exact .inl ⟨cause, rfl⟩
    · cases other with
      | value cause =>
        cases failed
        exact .inl ⟨cause, rfl⟩
      | _ =>
        cases failed
        exact .inr isAllowed

end FailsAs

end Work

open Work (FailsAs)

theorem newKey_fails (size : KeySize) (baseName : String) :
    FailsAs (fun failure =>
        (∃ cause, failure = .cryptography (.keyGeneration baseName cause)) ∨ failure.IsForeign)
      (newKey size baseName : Work σ Rsa.PrivateKey) :=
  (FailsAs.drawKey size).asCryptography

namespace Certificate

/-- Making a body fails for a value that is refused, or for an end of validity outside the calendar. -/
theorem draftBody_fails (spec : Spec) (issuer : Name) (key : Rsa.PublicKey) :
    FailsAs (fun failure => (∃ fault, failure = .value fault) ∨ failure = .dateOutOfRange)
      (draftBody spec issuer key : Work σ Body) := by
  unfold draftBody
  refine .bind .now fun _ instant _ _ => ?_
  dsimp only
  split
  · refine .bind (.pure _) fun _ notAfter _ _ => ?_
    refine .bind (.ofExcept fun fault _ => .inl ⟨fault, rfl⟩) fun _ subject _ _ => ?_
    refine .bind .drawSerial fun _ serial _ _ => ?_
    split
    · exact .fail (.inl ⟨_, rfl⟩)
    · exact .bind (.ofExcept fun fault _ => .inl ⟨fault, rfl⟩) fun _ extensions _ _ => .pure _
  · exact .bind (.fail (.inr rfl)) fun _ _ _ absurd => by cases absurd

theorem signBody_fails (body : Body) (key : Rsa.PrivateKey) :
    FailsAs (fun failure => ∃ fault, failure = .value fault)
      (signBody body key : Work σ Certificate) := by
  unfold signBody
  split
  · exact .pure _
  · exact .fail ⟨_, rfl⟩

private theorem buildSigned_fails (spec : Spec) (key : Rsa.PublicKey) (issuer : Certificate)
    (issuerKey : Rsa.PrivateKey) :
    FailsAs (fun failure => (∃ fault, failure = .value fault) ∨ failure = .dateOutOfRange)
      (buildSigned spec key issuer issuerKey : Work σ Certificate) := by
  unfold buildSigned
  split
  · exact .bind (draftBody_fails spec _ key) fun _ body _ _ =>
      (signBody_fails _ issuerKey).mono fun _ => .inl
  · exact .fail (.inl ⟨_, rfl⟩)

end Certificate

/-- What signing with an authority under a name can fail with: its key is not the one that its
certificate is about, or cannot be compared with that; no key is generated, for a refused value or
otherwise; the certificate is not made; or it is made, but does not verify. -/
inductive SigningFailure (issuer : Authority) (baseName : String) : Failure → Prop
  | incomparable {fault : SubjectKeyFault}
      (faulty : issuer.pair.certificate.body.key.fault? = some fault) :
      SigningFailure issuer baseName (.subjectKey fault)
  | mismatched (mismatch : issuer.pair.certificate.holds issuer.pair.key = false) :
      SigningFailure issuer baseName (.cryptography (.keyMismatch issuer.pair.baseName))
  | keyGeneration (cause : ValueFault) :
      SigningFailure issuer baseName (.cryptography (.keyGeneration baseName cause))
  | source {failure : Failure} (foreign : failure.IsForeign) : SigningFailure issuer baseName failure
  | signing (cause : ValueFault) :
      SigningFailure issuer baseName (.cryptography (.signing baseName issuer.pair.baseName cause))
  | dateOutOfRange : SigningFailure issuer baseName .dateOutOfRange
  | unverified {certificate : Certificate}
      (signed : certificate.SignedAs issuer.pair.certificate.body.subject issuer.pair.key)
      (refuted : certificate.isIssuedBy issuer.pair.certificate = false) :
      SigningFailure issuer baseName (.cryptography (.unverified baseName issuer.pair.baseName))

private theorem Certificate.checkHolds_ok {certificate : Certificate} {key : Rsa.PrivateKey}
    {holds : Bool}
    (checked : certificate.checkHolds key = .ok holds) : certificate.holds key = holds := by
  unfold checkHolds at checked
  split at checked
  · cases checked
  · exact Except.ok.inj checked

private theorem Certificate.checkHolds_error {certificate : Certificate} {key : Rsa.PrivateKey}
    {fault : SubjectKeyFault} (checked : certificate.checkHolds key = .error fault) :
    certificate.body.key.fault? = some fault := by
  unfold checkHolds at checked
  split at checked
  · rename_i other faulty
    cases checked
    exact faulty
  · cases checked

section Signing

variable (spec : Spec) (issuer : Authority) (baseName : String) (policy : ChainPolicy)
  (keySize : KeySize)

/-- An authority with the key that its certificate is about: a key is generated, and then the certificate
is not made or does not verify. A pair whose spec is that of an authority always makes one. -/
theorem issueWith_after_key
    (checked : issuer.pair.certificate.checkHolds issuer.pair.key = .ok true) :
    ∃ next : Rsa.PrivateKey → Work σ Issued,
      issueWith spec issuer baseName policy keySize = newKey keySize baseName >>= next ∧
        ∀ key, FailsAs (fun failure => SigningFailure issuer baseName failure ∧ ¬ failure.IsForeign)
          (next key) := by
  unfold issueWith
  dsimp only
  rw [checked]
  refine ⟨_, rfl, fun key => ?_⟩
  refine .bind ((Certificate.buildSigned_fails spec key.publicKey _ _).asCryptography.mono ?_)
    fun _ certificate _ built => ?_
  · rintro _ (⟨cause, rfl⟩ | rfl)
    · exact ⟨.signing cause, fun ⟨_, _, absurd⟩ => by cases absurd⟩
    · exact ⟨.dateOutOfRange, fun ⟨_, _, absurd⟩ => by cases absurd⟩
  have made := Work.asCryptography_ok built
  split
  · rename_i refuted
    have signed := (Certificate.buildSigned_made made).1.signedAs
    exact .fail ⟨.unverified signed (by simpa using refuted), fun ⟨_, _, absurd⟩ => by cases absurd⟩
  refine .bind (.report _ _ _) fun _ _ _ _ => ?_
  split
  · rename_i isAuthority
    obtain ⟨holder, accepted⟩ := (Certificate.buildSigned_madeFor made).exists_make_ok isAuthority
      (Pair.make baseName key certificate (chainPem certificate issuer.pair.certificate policy)) rfl
    rw [accepted]
    exact .pure _
  · exact .pure _

/-- These are all failures of signing. -/
theorem issueWith_fails :
    FailsAs (SigningFailure issuer baseName)
      (issueWith spec issuer baseName policy keySize : Work σ Issued) := by
  cases checked : issuer.pair.certificate.checkHolds issuer.pair.key with
  | error fault =>
    unfold issueWith
    dsimp only
    rw [checked]
    exact .fail (.incomparable (Certificate.checkHolds_error checked))
  | ok holds =>
    cases holds with
    | false =>
      unfold issueWith
      dsimp only
      rw [checked]
      exact .fail (.mismatched (Certificate.checkHolds_ok checked))
    | true =>
      obtain ⟨next, split, rest⟩ := issueWith_after_key spec issuer baseName policy keySize checked
      rw [split]
      refine .bind ((newKey_fails keySize baseName).mono ?_) fun _ key _ _ =>
        (rest key).mono fun _ failed => failed.1
      rintro _ (⟨cause, rfl⟩ | foreign)
      · exact .keyGeneration cause
      · exact .source foreign

end Signing

/-- With a sound authority every certificate that is made verifies. -/
theorem SigningFailure.verified {issuer : Authority} (sound : issuer.pair.Sound) {baseName : String}
    {failure : Failure} (failed : SigningFailure issuer baseName failure) (member signer : String) :
    failure ≠ .cryptography (.unverified member signer) := by
  cases failed with
  | unverified signed refuted =>
    rw [signed.isIssuedBy sound.usable.wellFormed sound.certified] at refuted
    cases refuted
  | source foreign =>
    obtain ⟨kind, message, rfl⟩ := foreign
    exact nofun
  | _ => exact nofun

end CertGraph
