import CertGraph.Proofs.Issuance.Failing
import CertGraph.Proofs.Issuance.Guarded

/- Which failures leave issuing as they are, neither invalid input nor failures of cryptography: an end
of validity outside the calendar, keys that cannot be compared, and what the source of keys raises. -/
set_option autoImplicit false
set_option relaxedAutoImplicit false

namespace CertGraph

open CertGraph.Time (Duration Instant)

variable {σ α β : Type}

/-- Whether a failure is one that issuing is meant to end with: invalid input, or a failure of
cryptography. -/
def Failure.isOfIssuing : Failure → Bool
  | .configuration _ => true
  | .cryptography _ => true
  | .because failure _ => failure.isOfIssuing
  | _ => false

theorem Time.Instant.add?_eq_none_iff {instant : Instant} {duration : Duration}
    (positive : 0 < duration.micros) :
    instant.add? duration = none ↔ (Instant.limit : Int) ≤ instant.micros + duration.micros := by
  unfold add?
  dsimp only
  split
  · rename_i inside
    exact iff_of_false nofun (not_le.mpr inside.2)
  · rename_i outside
    exact iff_of_true rfl (by omega)

namespace Work

/-- A step fails with a failure. -/
def FailsWith (work : Work σ α) (workshop : Workshop σ) (failure : Failure) : Prop :=
  (CertGraph.outcome work workshop).1 = .error failure

variable {work : Work σ α} {workshop : Workshop σ} {failure : Failure}

private theorem FailsAs.allows {allowed : Failure → Prop} (fails : FailsAs allowed work)
    (failed : work.FailsWith workshop failure) : allowed failure :=
  fails workshop failure _ (Prod.ext failed rfl)

private theorem failsWith_bind_iff {next : α → Work σ β} :
    (work >>= next).FailsWith workshop failure ↔ work.FailsWith workshop failure ∨
      ∃ value after, CertGraph.outcome work workshop = (.ok value, after) ∧
        (next value).FailsWith after failure := by
  simp only [FailsWith, outcome_bind]
  rcases CertGraph.outcome work workshop with ⟨other | value, middle⟩
  · constructor
    · rintro ⟨⟩
      exact .inl rfl
    · rintro (⟨⟨⟩⟩ | ⟨_, _, ⟨⟩, _⟩)
      rfl
  · constructor
    · exact fun failed => .inr ⟨value, middle, rfl, failed⟩
    · rintro (absurd | ⟨_, _, ⟨⟩, failed⟩)
      · cases absurd
      · exact failed

private theorem failsWith_bind_of_ok {next : α → Work σ β} {value : α} {after : Workshop σ}
    (ended : CertGraph.outcome work workshop = (.ok value, after)) :
    (work >>= next).FailsWith workshop failure ↔ (next value).FailsWith after failure := by
  rw [FailsWith, outcome_bind, ended]
  rfl

/-- A failure that nothing after a step fails with. -/
private theorem failsWith_bind_iff_first {next : α → Work σ β}
    (rest : ∀ value after, CertGraph.outcome work workshop = (.ok value, after) →
      ¬ (next value).FailsWith after failure) :
    (work >>= next).FailsWith workshop failure ↔ work.FailsWith workshop failure := by
  rw [failsWith_bind_iff, or_iff_left]
  rintro ⟨value, after, ended, failed⟩
  exact rest value after ended failed

private theorem asCryptography_outOfRange_iff {fault : ValueFault → CryptographyFault} :
    (work.asCryptography fault).FailsWith workshop .dateOutOfRange ↔
      work.FailsWith workshop .dateOutOfRange := by
  simp only [FailsWith, CertGraph.outcome, asCryptography, onFailure]
  cases work workshop with
  | ok value after => exact Iff.rfl
  | error raised after =>
    cases raised with
    | value cause =>
      constructor
      · rintro ⟨⟩
      · rintro ⟨⟩
    | _ => exact Iff.rfl

end Work

open Work (FailsAs)

private theorem newKey_ok_iff {size : KeySize} {baseName : String} {workshop : Workshop σ} :
    (∃ key after, outcome (newKey size baseName) workshop = (.ok key, after)) ↔
      ∃ key, (workshop.supply.drawKey size).1 = .ok key := by
  simp only [outcome, newKey, Work.asCryptography, Work.onFailure, Work.drawKey]
  rcases workshop.supply.drawKey size with ⟨raised | key, supply⟩
  · constructor
    · rintro ⟨key, after, made⟩
      cases raised <;> cases made
    · rintro ⟨_, ⟨⟩⟩
  · exact iff_of_true ⟨key, _, rfl⟩ ⟨key, rfl⟩

/-- What the source of keys raises comes out as it is. -/
theorem newKey_foreign_iff {size : KeySize} {baseName : String} {workshop : Workshop σ}
    {failure : Failure} (foreign : failure.IsForeign) :
    (newKey size baseName).FailsWith workshop failure ↔
      (workshop.supply.drawKey size).1 = .error failure := by
  obtain ⟨kind, message, rfl⟩ := foreign
  simp only [Work.FailsWith, outcome, newKey, Work.asCryptography, Work.onFailure, Work.drawKey]
  rcases workshop.supply.drawKey size with ⟨raised | key, supply⟩
  · cases raised with
    | value cause =>
      constructor
      · rintro ⟨⟩
      · rintro ⟨⟩
    | _ => exact Iff.rfl
  · constructor
    · rintro ⟨⟩
    · rintro ⟨⟩

private theorem newKey_bind_foreign_iff {size : KeySize} {baseName : String} {workshop : Workshop σ}
    {next : Rsa.PrivateKey → Work σ α} {failure : Failure} (foreign : failure.IsForeign)
    (rest : ∀ key after, ¬ (next key).FailsWith after failure) :
    (newKey size baseName >>= next).FailsWith workshop failure ↔
      (workshop.supply.drawKey size).1 = .error failure := by
  rw [Work.failsWith_bind_iff_first fun key after _ => rest key after, newKey_foreign_iff foreign]

private theorem newKey_now {size : KeySize} {baseName : String} {key : Rsa.PrivateKey}
    {workshop after : Workshop σ}
    (made : outcome (newKey size baseName) workshop = (.ok key, after)) :
    after.supply.now = workshop.supply.now := by
  rw [(Work.drawKey_ok (Work.asCryptography_ok made)).2]

/-- The end of validity is only met if there is a key. -/
private theorem newKey_bind_outOfRange_iff {size : KeySize} {baseName : String} {workshop : Workshop σ}
    {next : Rsa.PrivateKey → Work σ α} {condition : Prop}
    (each : ∀ key after, after.supply.now = workshop.supply.now →
      outcome (newKey size baseName) workshop = (.ok key, after) →
        ((next key).FailsWith after .dateOutOfRange ↔ condition)) :
    (newKey size baseName >>= next).FailsWith workshop .dateOutOfRange ↔
      (∃ key, (workshop.supply.drawKey size).1 = .ok key) ∧ condition := by
  rw [← @newKey_ok_iff _ size baseName, Work.failsWith_bind_iff, or_iff_right]
  · constructor
    · rintro ⟨key, after, made, failed⟩
      exact ⟨⟨key, after, made⟩, (each key after (newKey_now made) made).mp failed⟩
    · rintro ⟨⟨key, after, made⟩, holds⟩
      exact ⟨key, after, made, (each key after (newKey_now made) made).mpr holds⟩
  · intro failed
    rcases (newKey_fails size baseName).allows failed with ⟨cause, absurd⟩ | ⟨kind, message, absurd⟩
    · cases absurd
    · cases absurd

namespace Certificate

variable {workshop : Workshop σ}

private theorem draftBody_outOfRange_iff {spec : Spec} {issuer : Name} {key : Rsa.PublicKey} :
    (draftBody spec issuer key).FailsWith workshop .dateOutOfRange ↔
      workshop.supply.now.truncated.add? spec.validity = none := by
  have told : outcome (Work.now : Work σ Instant) workshop = (.ok workshop.supply.now, workshop) := rfl
  unfold draftBody
  rw [Work.failsWith_bind_of_ok told]
  dsimp only
  cases workshop.supply.now.truncated.add? spec.validity with
  | none => exact iff_of_true rfl rfl
  | some last =>
    refine iff_of_false (fun failed => ?_) nofun
    -- all that comes after the end of validity refuses values at most
    have refused := Work.FailsAs.allows
      (show FailsAs (fun failure => ∃ fault, failure = .value fault) _ by
        refine .bind (.pure last) fun _ notAfter _ _ => ?_
        refine .bind (.ofExcept fun fault _ => ⟨fault, rfl⟩) fun _ subject _ _ => ?_
        refine .bind .drawSerial fun _ serial _ _ => ?_
        split
        · exact .fail ⟨_, rfl⟩
        · exact .bind (.ofExcept fun fault _ => ⟨fault, rfl⟩) fun _ extensions _ _ => .pure _)
      failed
    exact absurd refused nofun

private theorem buildSelfSigned_outOfRange_iff {spec : Spec} {key : Rsa.PrivateKey} :
    (buildSelfSigned spec key).FailsWith workshop .dateOutOfRange ↔
      (∃ name, spec.subject.name = .ok name) ∧
        workshop.supply.now.truncated.add? spec.validity = none := by
  unfold buildSelfSigned
  cases named : spec.subject.name with
  | error fault => exact iff_of_false nofun fun ⟨⟨_, absurd⟩, _⟩ => by cases absurd
  | ok issuer =>
    have given : outcome (Work.ofExcept .value (.ok issuer) : Work σ Name) workshop =
        (.ok issuer, workshop) := rfl
    rw [Work.failsWith_bind_of_ok given, Work.failsWith_bind_iff_first, draftBody_outOfRange_iff]
    · exact (and_iff_right ⟨issuer, rfl⟩).symm
    · exact fun body after _ failed => absurd ((signBody_fails body key).allows failed) nofun

private theorem buildSigned_outOfRange_iff {spec : Spec} {key : Rsa.PublicKey} {issuer : Certificate}
    {issuerKey : Rsa.PrivateKey} :
    (buildSigned spec key issuer issuerKey).FailsWith workshop .dateOutOfRange ↔
      issuer.body.subject.isText = true ∧
        workshop.supply.now.truncated.add? spec.validity = none := by
  unfold buildSigned
  split
  · rename_i isText
    rw [Work.failsWith_bind_iff_first, draftBody_outOfRange_iff]
    · exact (and_iff_right isText).symm
    · exact fun body after _ failed => absurd ((signBody_fails _ issuerKey).allows failed) nofun
  · rename_i other
    exact iff_of_false nofun fun out => other out.1

private theorem buildSelfSigned_fails (spec : Spec) (key : Rsa.PrivateKey) :
    FailsAs (fun failure => (∃ fault, failure = .value fault) ∨ failure = .dateOutOfRange)
      (buildSelfSigned spec key : Work σ Certificate) := by
  refine .bind (.ofExcept fun fault _ => .inl ⟨fault, rfl⟩) fun _ issuer _ _ => ?_
  refine .bind (draftBody_fails spec issuer _) fun _ body _ _ => ?_
  exact (signBody_fails body key).mono fun _ => .inl

/-- What is made for an authority always makes one. -/
private theorem MadeFor.make_fails {spec : Spec} {key : Rsa.PublicKey} {pair : Pair}
    (made : pair.certificate.MadeFor spec key) (isAuthority : spec.isAuthority = true) :
    FailsAs (fun _ => False) (Work.ofExcept id (Authority.make pair) : Work σ Authority) := by
  obtain ⟨holder, accepted⟩ := made.exists_make_ok isAuthority pair rfl
  rw [accepted]
  exact .pure holder

end Certificate

section Issuing

variable (spec : Spec) (baseName : String) (keySize : KeySize)

/-- After the key of a self-signed authority there are failures of cryptography, and the end of its
validity. -/
private theorem issueSelfSigned_after_key (isAuthority : spec.isAuthority = true) :
    ∃ next : Rsa.PrivateKey → Work σ Authority,
      issueSelfSigned spec baseName keySize = newKey keySize baseName >>= next ∧
        ∀ key, FailsAs (fun failure => (∃ fault, failure = .cryptography fault) ∨
          failure = .dateOutOfRange) (next key) := by
  unfold issueSelfSigned
  rw [if_pos isAuthority]
  refine ⟨_, rfl, fun key => ?_⟩
  refine .bind ((Certificate.buildSelfSigned_fails spec key).asCryptography.mono ?_)
    fun _ certificate _ built => ?_
  · rintro _ (⟨cause, rfl⟩ | rfl)
    · exact .inl ⟨_, rfl⟩
    · exact .inr rfl
  have made := Certificate.buildSelfSigned_madeFor (Work.asCryptography_ok built)
  refine .bind (.report _ _ _) fun _ _ _ _ => ?_
  exact (Certificate.MadeFor.make_fails made isAuthority).mono fun _ => False.elim

/-- What making a self-signed authority can fail with: its spec is not that of an authority, or there is
a failure of cryptography, or its validity ends outside the calendar, or the source of keys raises
something else. -/
theorem issueSelfSigned_fails :
    FailsAs (fun failure =>
        (spec.isAuthority = false ∧ failure = .configuration (.selfSignedNotAuthority baseName)) ∨
          (∃ fault, failure = .cryptography fault) ∨ failure = .dateOutOfRange ∨ failure.IsForeign)
      (issueSelfSigned spec baseName keySize : Work σ Authority) := by
  cases isAuthority : spec.isAuthority with
  | true =>
    obtain ⟨next, split, rest⟩ := issueSelfSigned_after_key spec baseName keySize isAuthority
    rw [split]
    refine .bind ((newKey_fails keySize baseName).mono ?_) fun _ key _ _ => (rest key).mono ?_
    · rintro _ (⟨cause, rfl⟩ | foreign)
      · exact .inr (.inl ⟨_, rfl⟩)
      · exact .inr (.inr (.inr foreign))
    · rintro _ (ofCryptography | outOfRange)
      · exact .inr (.inl ofCryptography)
      · exact .inr (.inr (.inl outOfRange))
  | false =>
    unfold issueSelfSigned
    rw [isAuthority]
    exact .fail (.inl ⟨rfl, rfl⟩)

variable (workshop : Workshop σ)

private theorem issueSelfSigned_outOfRange_iff :
    (issueSelfSigned spec baseName keySize).FailsWith workshop .dateOutOfRange ↔
      spec.isAuthority = true ∧ (∃ key, (workshop.supply.drawKey keySize).1 = .ok key) ∧
        (∃ name, spec.subject.name = .ok name) ∧
        workshop.supply.now.truncated.add? spec.validity = none := by
  unfold issueSelfSigned
  split
  · rename_i isAuthority
    rw [and_iff_right isAuthority]
    refine newKey_bind_outOfRange_iff fun key middle sameNow _ => ?_
    rw [Work.failsWith_bind_iff_first, Work.asCryptography_outOfRange_iff,
      Certificate.buildSelfSigned_outOfRange_iff, sameNow]
    intro certificate last built
    have made := Certificate.buildSelfSigned_madeFor (Work.asCryptography_ok built)
    rw [Work.failsWith_bind_iff_first fun _ _ _ failed =>
      (Certificate.MadeFor.make_fails made isAuthority).allows failed]
    exact nofun
  · rename_i leaf
    exact iff_of_false nofun fun out => leaf out.1

private theorem issueWith_outOfRange_iff (issuer : Authority) (policy : ChainPolicy) :
    (issueWith spec issuer baseName policy keySize).FailsWith workshop .dateOutOfRange ↔
      issuer.pair.certificate.checkHolds issuer.pair.key = .ok true ∧
        (∃ key, (workshop.supply.drawKey keySize).1 = .ok key) ∧
        issuer.pair.certificate.body.subject.isText = true ∧
        workshop.supply.now.truncated.add? spec.validity = none := by
  unfold issueWith
  dsimp only
  cases compared : issuer.pair.certificate.checkHolds issuer.pair.key with
  | error fault => exact iff_of_false nofun fun out => by cases out.1
  | ok holds =>
    have given : outcome (Work.ofExcept .subjectKey (.ok holds) : Work σ Bool) workshop =
        (.ok holds, workshop) := rfl
    rw [Work.failsWith_bind_of_ok given]
    cases holds with
    | false => exact iff_of_false nofun fun out => by cases out.1
    | true =>
      rw [Bool.not_true, if_neg Bool.false_ne_true, and_iff_right rfl]
      refine newKey_bind_outOfRange_iff fun key middle sameNow _ => ?_
      rw [Work.failsWith_bind_iff_first, Work.asCryptography_outOfRange_iff,
        Certificate.buildSigned_outOfRange_iff, sameNow]
      intro certificate last built
      have made := Certificate.buildSigned_madeFor (Work.asCryptography_ok built)
      intro failed
      have ofCryptography := Work.FailsAs.allows
        (show FailsAs (fun failure => ∃ fault, failure = .cryptography fault) _ by
          split
          · exact .fail ⟨_, rfl⟩
          refine .bind (.report _ _ _) fun _ _ _ _ => ?_
          split
          · rename_i isAuthority
            exact .bind ((Certificate.MadeFor.make_fails made isAuthority).mono fun _ => False.elim)
              fun _ _ _ _ => .pure _
          · exact .pure _)
        failed
      exact absurd ofCryptography nofun

/-- What the source of keys raises is what making a self-signed authority fails with. -/
theorem issueSelfSigned_foreign_iff {failure : Failure} (foreign : failure.IsForeign) :
    (issueSelfSigned spec baseName keySize).FailsWith workshop failure ↔
      spec.isAuthority = true ∧ (workshop.supply.drawKey keySize).1 = .error failure := by
  cases isAuthority : spec.isAuthority with
  | true =>
    obtain ⟨next, split, rest⟩ := issueSelfSigned_after_key spec baseName keySize isAuthority
    rw [split, newKey_bind_foreign_iff foreign, and_iff_right rfl]
    intro key after failed
    obtain ⟨kind, message, rfl⟩ := foreign
    rcases (rest key).allows failed with ⟨fault, absurd⟩ | absurd
    · cases absurd
    · cases absurd
  | false =>
    obtain ⟨kind, message, rfl⟩ := foreign
    unfold issueSelfSigned
    rw [isAuthority]
    exact iff_of_false nofun fun drawn => Bool.false_ne_true drawn.1

/-- What the source of keys raises is what signing fails with, once the keys of the issuer match. -/
theorem issueWith_foreign_iff (issuer : Authority) (policy : ChainPolicy) {failure : Failure}
    (foreign : failure.IsForeign) :
    (issueWith spec issuer baseName policy keySize).FailsWith workshop failure ↔
      issuer.pair.certificate.checkHolds issuer.pair.key = .ok true ∧
        (workshop.supply.drawKey keySize).1 = .error failure := by
  by_cases checked : issuer.pair.certificate.checkHolds issuer.pair.key = .ok true
  · obtain ⟨next, split, rest⟩ := issueWith_after_key spec issuer baseName policy keySize checked
    rw [split, newKey_bind_foreign_iff foreign, and_iff_right checked]
    exact fun key after failed => ((rest key).allows failed).2 foreign
  · refine iff_of_false (fun failed => ?_) fun drawn => checked drawn.1
    obtain ⟨kind, message, rfl⟩ := foreign
    unfold issueWith at failed
    dsimp only at failed
    cases compared : issuer.pair.certificate.checkHolds issuer.pair.key with
    | error fault =>
      rw [compared] at failed
      cases failed
    | ok holds =>
      cases holds with
      | false =>
        rw [compared] at failed
        cases failed
      | true => exact checked compared

private theorem issueSelfSigned_escapes_iff (failure : Failure) :
    (issueSelfSigned spec baseName keySize).FailsWith workshop failure ∧ failure.isOfIssuing = false ↔
      (failure = .dateOutOfRange ∨ failure.IsForeign) ∧
        (issueSelfSigned spec baseName keySize).FailsWith workshop failure := by
  constructor
  · rintro ⟨failed, escapes⟩
    rcases (issueSelfSigned_fails spec baseName keySize).allows failed with
      ⟨-, rfl⟩ | ⟨fault, rfl⟩ | outOfRange | foreign
    · cases escapes
    · cases escapes
    · exact ⟨.inl outOfRange, failed⟩
    · exact ⟨.inr foreign, failed⟩
  · rintro ⟨rfl | ⟨kind, message, rfl⟩, failed⟩
    · exact ⟨failed, rfl⟩
    · exact ⟨failed, rfl⟩

private theorem issueWith_escapes_iff (issuer : Authority) (policy : ChainPolicy) (failure : Failure) :
    (issueWith spec issuer baseName policy keySize).FailsWith workshop failure ∧
        failure.isOfIssuing = false ↔
      (∃ fault, failure = .subjectKey fault ∧
          issuer.pair.certificate.body.key.fault? = some fault) ∨
        (failure = .dateOutOfRange ∨ failure.IsForeign) ∧
          (issueWith spec issuer baseName policy keySize).FailsWith workshop failure := by
  constructor
  · rintro ⟨failed, escapes⟩
    cases (issueWith_fails spec issuer baseName policy keySize).allows failed with
    | incomparable faulty => exact .inl ⟨_, rfl, faulty⟩
    | dateOutOfRange => exact .inr ⟨.inl rfl, failed⟩
    | source foreign => exact .inr ⟨.inr foreign, failed⟩
    | _ => cases escapes
  · rintro (⟨fault, rfl, faulty⟩ | ⟨rfl | ⟨kind, message, rfl⟩, failed⟩)
    · refine ⟨?_, rfl⟩
      rw [Work.FailsWith, issueWith_incomparable spec baseName policy keySize workshop faulty]
    · exact ⟨failed, rfl⟩
    · exact ⟨failed, rfl⟩

private theorem and_failsWith_iff {work : Work σ α} {failure : Failure} {outOfRange foreign : Prop}
    (ofDate : work.FailsWith workshop .dateOutOfRange ↔ outOfRange)
    (ofSource : failure.IsForeign → (work.FailsWith workshop failure ↔ foreign)) :
    (failure = .dateOutOfRange ∨ failure.IsForeign) ∧ work.FailsWith workshop failure ↔
      failure = .dateOutOfRange ∧ outOfRange ∨ failure.IsForeign ∧ foreign := by
  rw [or_and_right]
  refine or_congr (and_congr_right ?_) (and_congr_right ofSource)
  rintro rfl
  exact ofDate

/-- What leaves issuing as neither invalid input nor a failure of cryptography. For a self-signed
authority that is an end of validity behind the last year of the calendar: exactly if the spec is that
of an authority, a key is generated, and the common name can be written. Or it is what the source of
keys raises, where that is no refused value: exactly if the spec is that of an authority. For signing it
is either of these, if the issuer holds the key that its certificate is about, and for the end of
validity if a key is generated and the issuer's name is text; or it is the fault of a key in the
issuer's certificate that cannot be compared with another. -/
theorem issuing_escapes_iff :
    (∀ failure, (issueSelfSigned spec baseName keySize).FailsWith workshop failure ∧
        failure.isOfIssuing = false ↔
      failure = .dateOutOfRange ∧ spec.isAuthority = true ∧
        (∃ key, (workshop.supply.drawKey keySize).1 = .ok key) ∧
        (∃ name, spec.subject.name = .ok name) ∧
        (Instant.limit : Int) ≤ workshop.supply.now.truncated.micros + spec.validity.micros ∨
      failure.IsForeign ∧ spec.isAuthority = true ∧
        (workshop.supply.drawKey keySize).1 = .error failure) ∧
    ∀ (issuer : Issued) (policy : ChainPolicy) (failure : Failure),
      (issueSigned spec issuer baseName policy keySize).FailsWith workshop failure ∧
          failure.isOfIssuing = false ↔
        ∃ holder, issuer.authority? = some holder ∧
          ((∃ fault, failure = .subjectKey fault ∧
              holder.pair.certificate.body.key.fault? = some fault) ∨
            failure = .dateOutOfRange ∧
              holder.pair.certificate.checkHolds holder.pair.key = .ok true ∧
              (∃ key, (workshop.supply.drawKey keySize).1 = .ok key) ∧
              holder.pair.certificate.body.subject.isText = true ∧
              (Instant.limit : Int) ≤
                workshop.supply.now.truncated.micros + spec.validity.micros ∨
            failure.IsForeign ∧
              holder.pair.certificate.checkHolds holder.pair.key = .ok true ∧
              (workshop.supply.drawKey keySize).1 = .error failure) := by
  simp only [← Instant.add?_eq_none_iff spec.validity_pos]
  refine ⟨fun failure => ?_, fun issuer policy failure => ?_⟩
  · rw [issueSelfSigned_escapes_iff]
    exact and_failsWith_iff workshop (issueSelfSigned_outOfRange_iff spec baseName keySize workshop)
      (issueSelfSigned_foreign_iff spec baseName keySize workshop)
  · cases issuer with
    | leaf pair =>
      refine iff_of_false ?_ fun ⟨_, absurd, _⟩ => by cases absurd
      rintro ⟨⟨⟩, escapes⟩
      cases escapes
    | authority holder =>
      simp only [Issued.authority?, Option.some.injEq, exists_eq_left']
      refine (issueWith_escapes_iff spec baseName keySize workshop holder policy failure).trans ?_
      exact or_congr_right (and_failsWith_iff workshop
        (issueWith_outOfRange_iff spec baseName keySize workshop holder policy)
        (issueWith_foreign_iff spec baseName keySize workshop holder policy))

end Issuing

open Resolution (mersenneWorkshop)

/-- The spec of a root that is to be valid for more than eight thousand years. -/
def endlessSpec : Spec :=
  Cluster.signerSpec "root" (Duration.ofDays 3000000) "unit" (by decide)

/-- Such a root fails for the end of its validity, and not with what issuing is meant to fail with. -/
theorem endless_escapes :
    (issueSelfSigned endlessSpec "root" (some 2048)).FailsWith mersenneWorkshop .dateOutOfRange ∧
      ¬ ∀ failure, (issueSelfSigned endlessSpec "root" (some 2048)).FailsWith mersenneWorkshop failure →
        failure.isOfIssuing = true := by
  have failed := (issueSelfSigned_outOfRange_iff endlessSpec "root" (some 2048) mersenneWorkshop).mpr
    ⟨rfl, ⟨_, rfl⟩, ⟨_, rfl⟩, by decide +kernel⟩
  exact ⟨failed, fun always => by cases always _ failed⟩

end CertGraph
