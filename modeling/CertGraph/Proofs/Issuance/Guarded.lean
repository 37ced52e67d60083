import CertGraph.Proofs.Issuance.Reloaded

/- What signing guarantees whatever authority is offered, also one with a key of somebody else, with a
wrong private half, or with a certificate that is about no RSA key at all. -/
set_option autoImplicit false
set_option relaxedAutoImplicit false

namespace CertGraph

variable {σ : Type}

private theorem SubjectKey.rsa?_eq_none_of_fault {key : SubjectKey} {fault : SubjectKeyFault}
    (faulty : key.fault? = some fault) : key.rsa? = none := by
  by_cases isRsa : key.algorithm.oid = Oid.rsaEncryption ∨ key.algorithm.oid = Oid.rsaPss
  · simp only [fault?, isRsa, if_true] at faulty
    split at faulty
    · cases faulty
    · rename_i unread
      exact Option.not_isSome_iff_eq_none.mp unread
  · simp only [rsa?, isRsa, if_false]

/-- Nothing that the key signs verifies with its public half. -/
def Rsa.PrivateKey.Unverifiable (key : Rsa.PrivateKey) : Prop :=
  ∀ message signature, key.sign? message = some signature →
    key.publicKey.verifies .sha256 message signature = false

namespace Rsa

/-- A number that an exponent sends to itself modulo a prime is zero, one or minus one there, if the
exponent less one and the prime less one share no factor but two. -/
private theorem mod_of_pow_modEq_self {p exponent base : Nat} (prime : p.Prime)
    (positive : 0 < exponent)
    (shared : Nat.gcd (exponent - 1) (p - 1) = 2) (same : base ^ exponent ≡ base [MOD p]) :
    base % p = 0 ∨ base % p = 1 ∨ base % p = p - 1 := by
  have := Fact.mk prime
  rcases Nat.eq_zero_or_pos (base % p) with none | some
  · exact .inl none
  have nonzero : (base : ZMod p) ≠ 0 := by
    rw [Ne, ZMod.natCast_eq_zero_iff, Nat.dvd_iff_mod_eq_zero]
    exact some.ne'
  have round : (base : ZMod p) ^ (p - 1) = 1 := ZMod.pow_card_sub_one_eq_one nonzero
  have idle : (base : ZMod p) ^ (exponent - 1) = 1 := by
    refine mul_right_cancel₀ nonzero ?_
    rw [← pow_succ, Nat.sub_add_cancel positive, one_mul]
    exact_mod_cast (ZMod.natCast_eq_natCast_iff _ _ p).mpr same
  have square : (base : ZMod p) ^ 2 = 1 := by
    rw [← shared]
    exact pow_gcd_eq_one.mpr ⟨idle, round⟩
  have squared : base % p * (base % p) % p = 1 := by
    have cast : ((base ^ 2 : Nat) : ZMod p) = (1 : Nat) := by exact_mod_cast square
    have whole := (ZMod.natCast_eq_natCast_iff' _ _ p).mp cast
    rwa [Nat.pow_two, Nat.mul_mod, Nat.mod_eq_of_lt prime.one_lt] at whole
  exact .inr (eq_of_square_mod_prime prime (Nat.mod_lt _ prime.pos) squared)

end Rsa

namespace Certificate

private theorem holds_of_fault {certificate : Certificate} {fault : SubjectKeyFault}
    (faulty : certificate.body.key.fault? = some fault) (key : Rsa.PrivateKey) :
    certificate.holds key = false := by
  have unread : certificate.rsaKey? = none := SubjectKey.rsa?_eq_none_of_fault faulty
  rw [holds, unread]
  rfl

private theorem rsaKey?_of_holds {certificate : Certificate} {key : Rsa.PrivateKey}
    (holds : certificate.holds key = true) : certificate.rsaKey? = some key.publicKey :=
  of_decide_eq_true holds

/-- What a key signed verifies, if the certificate that it signed is found to be signed with it. -/
theorem SignedAs.verifies {issuer : Name} {key : Rsa.PrivateKey} {certificate : Certificate}
    (made : certificate.SignedAs issuer key)
    (verified : certificate.isSignedWith key.publicKey = true) :
    ∃ signature, key.sign? certificate.body.element.encode = some signature ∧
      certificate.signature = .ofOctets signature ∧
      key.publicKey.verifies .sha256 certificate.body.element.encode signature = true := by
  obtain ⟨signature, signed, same⟩ := made.signed
  have scheme : Rsa.Scheme.ofAlgorithm? signatureAlgorithm = some (.plain .sha256) := by decide
  refine ⟨signature, signed, same, ?_⟩
  simpa [isSignedWith, made.plain, scheme, Rsa.Scheme.verifies, same, Der.Bits.ofOctets] using verified

end Certificate

/-- What is known of a signed pair, whatever authority signed it: the key of the authority is the one
that its certificate is about, the new certificate was issued with that certificate, what the key signed
verifies, and the new certificate is about the subject of its spec and the key of the pair. The pair is
an authority exactly if its spec is that of one. -/
structure Issued.Guaranteed (made : Issued) (spec : Spec) (issuer : Authority) : Prop where
  holds : issuer.pair.certificate.holds issuer.pair.key = true
  isIssued : made.pair.certificate.isIssuedBy issuer.pair.certificate = true
  verifies : ∃ signature,
    issuer.pair.key.sign? made.pair.certificate.body.element.encode = some signature ∧
    made.pair.certificate.signature = .ofOctets signature ∧
    issuer.pair.key.publicKey.verifies .sha256 made.pair.certificate.body.element.encode signature =
      true
  subject : spec.subject.name = .ok made.pair.certificate.body.subject
  key : made.pair.certificate.rsaKey? = some made.pair.key.publicKey
  kind : made.authority?.isSome = spec.isAuthority

section Signing

variable (spec : Spec) (baseName : String) (policy : ChainPolicy) (keySize : KeySize)
  (workshop : Workshop σ)

/-- An authority whose certificate is about a key that cannot be compared is refused for that, and
nothing else happens. -/
theorem issueWith_incomparable {issuer : Authority} {fault : SubjectKeyFault}
    (faulty : issuer.pair.certificate.body.key.fault? = some fault) :
    outcome (issueWith spec issuer baseName policy keySize) workshop =
      (.error (.subjectKey fault), workshop) := by
  have checked : issuer.pair.certificate.checkHolds issuer.pair.key = .error fault := by
    rw [Certificate.checkHolds, faulty]
  unfold issueWith
  dsimp only
  rw [checked]
  rfl

/-- An authority whose certificate is about another key is refused, and nothing else happens. -/
theorem issueWith_mismatched {issuer : Authority}
    (comparable : issuer.pair.certificate.body.key.fault? = none)
    (mismatch : issuer.pair.certificate.holds issuer.pair.key = false) :
    outcome (issueWith spec issuer baseName policy keySize) workshop =
      (.error (.cryptography (.keyMismatch issuer.pair.baseName)), workshop) := by
  have checked : issuer.pair.certificate.checkHolds issuer.pair.key = .ok false := by
    rw [Certificate.checkHolds, comparable, mismatch]
  unfold issueWith
  dsimp only
  rw [checked]
  rfl

variable {spec baseName policy keySize workshop}

private theorem issueWith_holds {issuer : Authority} {made : Issued} {after : Workshop σ}
    (issued : outcome (issueWith spec issuer baseName policy keySize) workshop = (.ok made, after)) :
    issuer.pair.certificate.holds issuer.pair.key = true := by
  by_contra mismatch
  rw [Bool.not_eq_true] at mismatch
  cases comparable : issuer.pair.certificate.body.key.fault? with
  | some fault =>
    rw [issueWith_incomparable spec baseName policy keySize workshop comparable] at issued
    cases issued
  | none =>
    rw [issueWith_mismatched spec baseName policy keySize workshop comparable mismatch] at issued
    cases issued

private theorem issueWith_guaranteed {issuer : Authority} {made : Issued} {after : Workshop σ}
    (issued : outcome (issueWith spec issuer baseName policy keySize) workshop = (.ok made, after)) :
    made.Guaranteed spec issuer := by
  have holds := issueWith_holds issued
  obtain ⟨kind, madeFor, signedAs⟩ := issueWith_signedAs issued
  obtain ⟨isIssued, -⟩ := issueWith_ok issued
  have verified : made.pair.certificate.isSignedWith issuer.pair.key.publicKey = true := by
    rw [Certificate.isIssuedBy, Certificate.rsaKey?_of_holds holds, Option.any_some,
      Bool.and_eq_true] at isIssued
    exact isIssued.2
  exact ⟨holds, isIssued, signedAs.verifies verified, madeFor.subject,
    Certificate.rsaKey?_of_certifies madeFor.certified, kind⟩

private theorem issueWith_unverifiable {issuer : Authority}
    (unverifiable : issuer.pair.key.Unverifiable)
    {made : Issued} {after : Workshop σ} :
    outcome (issueWith spec issuer baseName policy keySize) workshop ≠ (.ok made, after) := by
  intro issued
  obtain ⟨signature, signed, -, verified⟩ := (issueWith_guaranteed issued).verifies
  rw [unverifiable _ signature signed] at verified
  cases verified

/-- Whatever authority is offered, also one that somebody else has put together: a pair that is signed
with it keeps all guarantees. An authority whose certificate is about another key is refused before
anything is taken from the workshop: with a failure of cryptography if the keys can be compared, else
with the fault of its own that comparing them has. With a key of which nothing verifies there is
never a pair. -/
theorem issueSigned_guarantees (spec : Spec) (issuer : Authority) (baseName : String)
    (policy : ChainPolicy) (keySize : KeySize) (workshop : Workshop σ) :
    (∀ made after, outcome (issueSigned spec (.authority issuer) baseName policy keySize) workshop =
      (.ok made, after) → made.Guaranteed spec issuer) ∧
    (issuer.pair.certificate.body.key.fault? = none →
      issuer.pair.certificate.holds issuer.pair.key = false →
      outcome (issueSigned spec (.authority issuer) baseName policy keySize) workshop =
        (.error (.cryptography (.keyMismatch issuer.pair.baseName)), workshop)) ∧
    (∀ fault, issuer.pair.certificate.body.key.fault? = some fault →
      issuer.pair.certificate.holds issuer.pair.key = false ∧
      outcome (issueSigned spec (.authority issuer) baseName policy keySize) workshop =
        (.error (.subjectKey fault), workshop)) ∧
    (issuer.pair.key.Unverifiable → ∃ failure after,
      outcome (issueSigned spec (.authority issuer) baseName policy keySize) workshop =
        (.error failure, after)) := by
  refine ⟨fun made after issued => issueWith_guaranteed issued, ?_, ?_, ?_⟩
  · exact issueWith_mismatched spec baseName policy keySize workshop
  · exact fun fault faulty => ⟨Certificate.holds_of_fault faulty _,
      issueWith_incomparable spec baseName policy keySize workshop faulty⟩
  · intro unverifiable
    rcases ended : outcome (issueSigned spec (.authority issuer) baseName policy keySize) workshop with
      ⟨failure | made, after⟩
    · exact ⟨failure, after, rfl⟩
    · exact absurd ended (issueWith_unverifiable unverifiable)

end Signing

open Resolution (mersenneKey mersenne_607_prime mersenneSource_key mersenneWorkshop)

/-- The first of the two keys to take, with one as its private exponent: it signs with the padded block
itself. -/
def idleKey : Rsa.PrivateKey :=
  { mersenneKey 607 521 with secret := 1 }

private theorem idleKey_unverifiable : idleKey.Unverifiable := by
  intro message signature signed
  obtain ⟨block, made, -⟩ := Rsa.PrivateKey.padded?_of_sign? signed
  have size : idleKey.publicKey.size = 141 := by decide +kernel
  have positive : 0 < idleKey.modulus := by decide +kernel
  rw [Bool.eq_false_iff, Ne, Rsa.PrivateKey.verifies_sign?_iff positive made signed]
  intro same
  have exponents : idleKey.secret * idleKey.exponent = Rsa.usualExponent := by decide +kernel
  have factors : idleKey.modulus = mersenne 607 * mersenne 521 := by decide +kernel
  rw [exponents, factors] at same
  have kept := Nat.ModEq.of_mul_right (mersenne 521) same
  have shared : Nat.gcd (Rsa.usualExponent - 1) (mersenne 607 - 1) = 2 := by decide +kernel
  have rest := Rsa.mod_of_pow_modEq_self mersenne_607_prime (by decide) shared kept
  -- the octets ahead of the digest are known, and leave the block away from those three
  have info : (Rsa.digestInfo .sha256 message).length = 51 := Rsa.length_digestInfo message
  have value : Octets.toNat block =
      Octets.toNat (0 :: 1 :: List.replicate 87 0xff ++ [0]) * 256 ^ 51 +
        Octets.toNat (Rsa.digestInfo .sha256 message) := by
    simp only [Rsa.padded?, size, info] at made
    rw [← info, ← Octets.toNat_append, ← Option.some.inj made]
    simp
  have small := Octets.toNat_lt (Rsa.digestInfo .sha256 message)
  rw [info] at small
  obtain ⟨above, below⟩ : 1 < Octets.toNat (0 :: 1 :: List.replicate 87 0xff ++ [0]) * 256 ^ 51 %
      mersenne 607 ∧ Octets.toNat (0 :: 1 :: List.replicate 87 0xff ++ [0]) * 256 ^ 51 %
        mersenne 607 + 256 ^ 51 < mersenne 607 - 1 := by decide +kernel
  rw [value, ← Nat.mod_add_mod, Nat.mod_eq_of_lt (by omega)] at rest
  omega

/-- The same authority with another key. -/
def Authority.withKey (issuer : Authority) (key : Rsa.PrivateKey) : Authority :=
  ⟨{ issuer.pair with key }, issuer.certified⟩

/-- An Ed25519 key. -/
def edgeKey : SubjectKey :=
  ⟨⟨Oid.ed25519, none⟩, .ofOctets (Octets.ofNatWidth 32
    0x46e6f738411d841bc9c5a38588a959930b8b8f6dab85d9ed1a16117cd596e015)⟩

/-- The name of the holder of the Ed25519 key. -/
def edgeName : Name :=
  ⟨[[⟨Oid.commonName, Der.utf8String "edge"⟩]], by decide⟩

/-- A certificate of an authority that is about the Ed25519 key. -/
def edgeCertificate : Certificate where
  body :=
    { version := thirdVersion
      serial := 7
      algorithm := ⟨Oid.ed25519, none⟩
      issuer := edgeName
      notBefore := .ofInstant ⟨63000000000000000⟩
      notAfter := .ofInstant ⟨63000000000000000⟩
      subject := edgeName
      key := edgeKey
      issuerId := none
      subjectId := none
      extensions := some [.basicConstraints true, .keyUsage (.ofList [.certSign])] }
  algorithm := ⟨Oid.ed25519, none⟩
  signature := .ofOctets (List.replicate 64 0)

/-- The certificate of the Ed25519 key beside an RSA key. -/
def edge : Authority where
  pair := .make "edge" (mersenneKey 607 521) edgeCertificate []
  certified := by decide +kernel

private theorem edge_fault? : edge.pair.certificate.body.key.fault? = some (.withoutNumbers
    "cryptography.hazmat.bindings._rust.openssl.ed25519.Ed25519PublicKey") := by decide +kernel

/-- The certificate is not about the RSA key, yet that is not what signing fails with: an Ed25519 key has
no numbers to compare. -/
theorem edge_not_cryptography :
    edge.pair.certificate.holds edge.pair.key = false ∧
    ∀ fault after, outcome (issueSigned Cluster.localhostServerSpec (.authority edge) "server"
      .doNotAppendParent (some 2048)) mersenneWorkshop ≠ (.error (.cryptography fault), after) := by
  refine ⟨Certificate.holds_of_fault edge_fault? _, fun fault after refused => ?_⟩
  have raised : outcome (issueSigned Cluster.localhostServerSpec (.authority edge) "server"
      .doNotAppendParent (some 2048)) mersenneWorkshop = _ :=
    issueWith_incomparable _ _ _ _ _ edge_fault?
  rw [raised] at refused
  cases refused

/-- A root signs an authority, with all guarantees; with another key, with the idle one, and with the
certificate of the Ed25519 key nothing is signed. -/
theorem intermediate_guarantees :
    ∃ root first middle after,
      outcome (issueSelfSigned (Cluster.signerSpec "root" Cluster.oneYear "unit" Cluster.oneYear_pos)
        "root" (some 1128)) mersenneWorkshop = (.ok root, first) ∧
      let spec := Cluster.signerSpec "middle" Cluster.oneYear "unit" Cluster.oneYear_pos
      let sign (issuer : Authority) :=
        outcome (issueSigned spec (.authority issuer) "middle" .appendParent (some 1800)) first
      sign root = (.ok middle, after) ∧ middle.Guaranteed spec root ∧
      sign (root.withKey (mersenneKey 1279 521)) =
        (.error (.cryptography (.keyMismatch root.pair.baseName)), first) ∧
      (∃ failure last, sign (root.withKey idleKey) = (.error failure, last)) ∧
      sign edge = (.error (.subjectKey (.withoutNumbers
        "cryptography.hazmat.bindings._rust.openssl.ed25519.Ed25519PublicKey")), first) := by
  obtain ⟨holder, after, ended⟩ := Authority.intermediate_ended
  obtain ⟨root, first, rootIssued, signing⟩ := outcome_bind_ok ended
  refine ⟨root, first, .authority holder, after, rootIssued, signing, ?_, ?_, ?_, ?_⟩
  · exact (issueSigned_guarantees _ root _ _ _ first).1 _ _ signing
  · have certified := (issueSelfSigned_signedAs rootIssued).2.1.certified
    have given : mersenneKey 607 521 = root.pair.key :=
      Except.ok.inj (issueSelfSigned_drawn rootIssued).1.key
    have unlike : (mersenneKey 607 521).publicKey ≠ (mersenneKey 1279 521).publicKey := by decide +kernel
    -- the unifier would compute the numbers of the other key
    generalize mersenneKey 1279 521 = other at unlike ⊢
    have comparable : (root.withKey other).pair.certificate.body.key.fault? = none := by
      rw [Authority.withKey, certified, SubjectKey.fault?_ofRsa]
    have mismatch : (root.withKey other).pair.certificate.holds other = false := by
      rw [Authority.withKey, Certificate.holds, Certificate.rsaKey?_of_certifies certified, ← given]
      exact decide_eq_false fun same => unlike (Option.some.inj same)
    exact (issueSigned_guarantees _ (root.withKey other) _ _ _ first).2.1 comparable mismatch
  · exact (issueSigned_guarantees _ (root.withKey idleKey) _ _ _ first).2.2.2 idleKey_unverifiable
  · exact ((issueSigned_guarantees _ edge _ _ _ first).2.2.1 _ edge_fault?).2

end CertGraph
