import CertGraph.Proofs.Certificate.KeyIdentifiers
import CertGraph.Proofs.Issuance.Source
import CertGraph.Proofs.Rsa.Correctness

/- What issuing yields when it succeeds: who issued a certificate, which keys it names, and what its
file holds. -/
set_option autoImplicit false
set_option relaxedAutoImplicit false

namespace CertGraph

variable {σ α : Type}

namespace Work

variable {workshop after : Workshop σ}

theorem ofExcept_ok {ε : Type} {wrap : ε → Failure} {result : Except ε α} {value : α}
    (ended : CertGraph.outcome (Work.ofExcept wrap result) workshop = (.ok value, after)) :
    result = .ok value := by
  cases result with
  | ok value =>
    cases ended
    rfl
  | error fault => cases ended

theorem ofExcept_after {ε : Type} {wrap : ε → Failure} {result : Except ε α} {value : α}
    (ended : CertGraph.outcome (Work.ofExcept wrap result) workshop = (.ok value, after)) :
    after = workshop := by
  cases result with
  | ok value =>
    cases ended
    rfl
  | error fault => cases ended

theorem asCryptography_ok {work : Work σ α} {fault : ValueFault → CryptographyFault} {value : α}
    (ended : CertGraph.outcome (work.asCryptography fault) workshop = (.ok value, after)) :
    CertGraph.outcome work workshop = (.ok value, after) := by
  simp only [CertGraph.outcome, asCryptography, onFailure] at ended ⊢
  cases ran : work workshop with
  | ok value after =>
    rw [ran] at ended
    exact ended
  | error failure middle =>
    rw [ran] at ended
    cases failure <;> cases ended

theorem drawKey_ok {size : KeySize} {key : Rsa.PrivateKey}
    (drawn : CertGraph.outcome (Work.drawKey size) workshop = (.ok key, after)) :
    workshop.supply.source.key workshop.supply.keysDrawn = .ok key ∧
      after.supply = { workshop.supply with
        requests := workshop.supply.requests ++ [size]
        keysDrawn := workshop.supply.keysDrawn + 1 } := by
  have taken : workshop.supply.drawKey size = (.ok key, after.supply) := by
    simp only [CertGraph.outcome, Work.drawKey] at drawn
    rcases result : workshop.supply.drawKey size with ⟨fault | key, supply⟩
    · rw [result] at drawn
      cases drawn
    · rw [result] at drawn
      cases drawn
      rfl
  unfold Supply.drawKey at taken
  dsimp only at taken
  split at taken
  · cases taken
  · split at taken
    · cases taken
    · cases given : workshop.supply.source.key workshop.supply.keysDrawn with
      | error message =>
        rw [given] at taken
        cases taken
      | ok key =>
        rw [given] at taken
        obtain ⟨same, left⟩ := Prod.mk.inj taken
        cases same
        exact ⟨rfl, left.symm⟩

end Work

/-- All keys that a source gives are well formed. -/
def Source.WellFormed (source : Source) : Prop :=
  ∀ count key, source.key count = .ok key → key.WellFormed

private theorem newKey_ok {size : KeySize} {baseName : String} {key : Rsa.PrivateKey}
    {workshop after : Workshop σ} (wellFormed : workshop.supply.source.WellFormed)
    (made : outcome (newKey size baseName) workshop = (.ok key, after)) : key.WellFormed := by
  exact wellFormed _ key (Work.drawKey_ok (Work.asCryptography_ok made)).1

namespace Certificate

variable {workshop after : Workshop σ}

/-- How a body comes about, and what that takes from the supply. -/
private theorem draftBody_ok {spec : Spec} {issuer : Name} {key : Rsa.PublicKey} {body : Body}
    (drafted : outcome (draftBody spec issuer key) workshop = (.ok body, after)) :
    (∃ last subject extensions, workshop.supply.now.truncated.add? spec.validity = some last ∧
      spec.subject.name = .ok subject ∧ 1950 ≤ workshop.supply.now.truncated.date.year ∧
      Extension.ofSpec spec key = .ok extensions ∧ body =
        { version := thirdVersion
          serial := Serial.ofRandom (workshop.supply.source.random workshop.supply.serialsDrawn)
          algorithm := signatureAlgorithm
          issuer
          notBefore := .ofInstant workshop.supply.now.truncated
          notAfter := .ofInstant last.truncated
          subject
          key := .ofRsa key
          issuerId := none
          subjectId := none
          extensions := some extensions }) ∧
      after.supply = { workshop.supply with serialsDrawn := workshop.supply.serialsDrawn + 1 } := by
  unfold draftBody at drafted
  obtain ⟨instant, first, told, drafted⟩ := outcome_bind_ok drafted
  cases told
  dsimp only at drafted
  split at drafted
  · rename_i last added
    obtain ⟨notAfter, second, same, drafted⟩ := outcome_bind_ok drafted
    cases same
    obtain ⟨subject, third, named, drafted⟩ := outcome_bind_ok drafted
    obtain rfl := Work.ofExcept_after named
    obtain ⟨serial, fourth, drawn, drafted⟩ := outcome_bind_ok drafted
    cases drawn
    split at drafted
    · cases drafted
    · rename_i early
      obtain ⟨extensions, fifth, extended, drafted⟩ := outcome_bind_ok drafted
      have supply := congrArg Workshop.supply (Work.ofExcept_after extended)
      cases drafted
      exact ⟨⟨last, subject, extensions, added, Work.ofExcept_ok named, Nat.not_lt.mp early,
        Work.ofExcept_ok extended, rfl⟩, supply⟩
  · obtain ⟨notAfter, second, failed, -⟩ := outcome_bind_ok drafted
    cases failed

private theorem signBody_ok {body : Body} {key : Rsa.PrivateKey} {certificate : Certificate}
    (signed : outcome (signBody body key) workshop = (.ok certificate, after)) :
    after = workshop ∧ ∃ signature, key.sign? body.element.encode = some signature ∧
      certificate = ⟨body, signatureAlgorithm, .ofOctets signature⟩ := by
  unfold signBody at signed
  split at signed
  · rename_i signature made
    cases signed
    exact ⟨rfl, signature, made, rfl⟩
  · cases signed

/-- What a certificate is made of: the time and the serial number that a supply gave, a spec, the name
of an issuer, the certified key, the key that signed, and what was added to the extensions of the
spec. -/
structure Made (supply : Supply) (spec : Spec) (issuer : Name) (key : Rsa.PublicKey)
    (signer : Rsa.PrivateKey) (added : List Extension) (certificate : Certificate) : Prop where
  version : certificate.body.version = thirdVersion
  serial : certificate.body.serial = Serial.ofRandom (supply.source.random supply.serialsDrawn)
  plain : certificate.body.algorithm = signatureAlgorithm ∧ certificate.algorithm = signatureAlgorithm
  issuer : certificate.body.issuer = issuer
  starts : 1950 ≤ supply.now.truncated.date.year
  notBefore : certificate.body.notBefore = .ofInstant supply.now.truncated
  notAfter : ∃ last, supply.now.truncated.add? spec.validity = some last ∧
    certificate.body.notAfter = .ofInstant last.truncated
  subject : spec.subject.name = .ok certificate.body.subject
  certified : certificate.body.key = .ofRsa key
  unnumbered : certificate.body.issuerId = none ∧ certificate.body.subjectId = none
  carries : ∃ first, Extension.ofSpec spec key = .ok first ∧
    certificate.body.extensions = some (first ++ added)
  signed : ∃ signature, signer.sign? certificate.body.element.encode = some signature ∧
    certificate.signature = .ofOctets signature

/-- How a self-signed certificate comes about, and what that takes from the supply. -/
theorem buildSelfSigned_made {spec : Spec} {key : Rsa.PrivateKey} {certificate : Certificate}
    (built : outcome (buildSelfSigned spec key) workshop = (.ok certificate, after)) :
    certificate.Made workshop.supply spec certificate.body.subject key.publicKey key [] ∧
      after.supply = { workshop.supply with serialsDrawn := workshop.supply.serialsDrawn + 1 } := by
  obtain ⟨issuer, first, named, rest⟩ := outcome_bind_ok built
  obtain rfl := Work.ofExcept_after named
  obtain ⟨body, second, drafted, signed⟩ := outcome_bind_ok rest
  obtain ⟨⟨last, subject, extensions, added, isSubject, starts, ofSpec, rfl⟩, supply⟩ :=
    draftBody_ok drafted
  obtain ⟨rfl, signature, made, rfl⟩ := signBody_ok signed
  -- the name of the issuer is computed once more than that of the subject
  cases (Work.ofExcept_ok named).symm.trans isSubject
  exact ⟨⟨rfl, rfl, ⟨rfl, rfl⟩, rfl, starts, rfl, ⟨last, added, rfl⟩, isSubject, rfl, ⟨rfl, rfl⟩,
    ⟨extensions, ofSpec, by rw [List.append_nil]⟩, signature, made, rfl⟩, supply⟩

/-- How a signed certificate comes about, and what that takes from the supply. -/
theorem buildSigned_made {spec : Spec} {key : Rsa.PublicKey} {issuer certificate : Certificate}
    {issuerKey : Rsa.PrivateKey}
    (built : outcome (buildSigned spec key issuer issuerKey) workshop = (.ok certificate, after)) :
    certificate.Made workshop.supply spec issuer.body.subject key issuerKey
        [.authorityKeyIdentifier issuerKey.publicKey] ∧
      after.supply = { workshop.supply with serialsDrawn := workshop.supply.serialsDrawn + 1 } := by
  unfold buildSigned at built
  split at built
  · obtain ⟨body, first, drafted, signed⟩ := outcome_bind_ok built
    obtain ⟨⟨last, subject, extensions, added, isSubject, starts, ofSpec, rfl⟩, supply⟩ :=
      draftBody_ok drafted
    obtain ⟨rfl, signature, made, rfl⟩ := signBody_ok signed
    exact ⟨⟨rfl, rfl, ⟨rfl, rfl⟩, rfl, starts, rfl, ⟨last, added, rfl⟩, isSubject, rfl, ⟨rfl, rfl⟩,
      ⟨extensions, ofSpec, rfl⟩, signature, made, rfl⟩, supply⟩
  · cases built

/-- A certificate that a well-formed key signed verifies with its public half. -/
private theorem isSignedWith_of_sign? {body : Body} {key : Rsa.PrivateKey} {signature : Octets}
    (wellFormed : key.WellFormed) (plain : body.algorithm = signatureAlgorithm)
    (signed : key.sign? body.element.encode = some signature) :
    isSignedWith ⟨body, signatureAlgorithm, .ofOctets signature⟩ key.publicKey = true := by
  have scheme : Rsa.Scheme.ofAlgorithm? signatureAlgorithm = some (.plain .sha256) := by decide
  have verified := wellFormed _ _ signed
  simpa [isSignedWith, plain, scheme, Rsa.Scheme.verifies, Der.Bits.ofOctets] using verified

/-- A certificate was signed with a key, in the name of an issuer. -/
structure SignedAs (issuer : Name) (key : Rsa.PrivateKey) (certificate : Certificate) : Prop where
  issuer : certificate.body.issuer = issuer
  plain : certificate.body.algorithm = signatureAlgorithm ∧
    certificate.algorithm = signatureAlgorithm
  signed : ∃ signature, key.sign? certificate.body.element.encode = some signature ∧
    certificate.signature = .ofOctets signature

theorem Made.signedAs {supply : Supply} {spec : Spec} {issuer : Name} {key : Rsa.PublicKey}
    {signer : Rsa.PrivateKey} {added : List Extension} {certificate : Certificate}
    (made : certificate.Made supply spec issuer key signer added) :
    certificate.SignedAs issuer signer :=
  ⟨made.issuer, made.plain, made.signed⟩

theorem rsaKey?_of_certifies {certificate : Certificate} {key : Rsa.PublicKey}
    (certifies : certificate.body.key = .ofRsa key) : certificate.rsaKey? = some key := by
  rw [rsaKey?, certifies, SubjectKey.rsa?_ofRsa]

/-- What was signed with the well-formed key that a certificate is about verifies against it. -/
theorem SignedAs.isIssuedBy {issuer certificate : Certificate} {key : Rsa.PrivateKey}
    (signed : certificate.SignedAs issuer.body.subject key) (wellFormed : key.WellFormed)
    (certifies : issuer.body.key = .ofRsa key.publicKey) :
    certificate.isIssuedBy issuer = true := by
  obtain ⟨named, ⟨plain, plainToo⟩, signature, made, same⟩ := signed
  obtain ⟨body, algorithm, bits⟩ := certificate
  cases plainToo
  cases same
  rw [Certificate.isIssuedBy, rsaKey?_of_certifies certifies]
  exact Bool.and_eq_true_iff.mpr
    ⟨decide_eq_true named, isSignedWith_of_sign? wellFormed plain made⟩

theorem buildSelfSigned_ok {spec : Spec} {key : Rsa.PrivateKey} {certificate : Certificate}
    (wellFormed : key.WellFormed)
    (built : outcome (buildSelfSigned spec key) workshop = (.ok certificate, after)) :
    certificate.body.issuer = certificate.body.subject ∧
      certificate.isIssuedBy certificate = true ∧
      certificate.subjectKeyId? = some key.publicKey.identifier := by
  obtain ⟨made, -⟩ := buildSelfSigned_made built
  obtain ⟨extensions, ofSpec, carries⟩ := made.carries
  obtain ⟨names, rfl, -⟩ := Extension.ofSpec_eq ofSpec
  refine ⟨made.issuer, ?_, subjectKeyId?_eq carries⟩
  exact (made.signedAs).isIssuedBy wellFormed made.certified

private theorem buildSigned_ok {spec : Spec} {key : Rsa.PublicKey} {issuer certificate : Certificate}
    {issuerKey : Rsa.PrivateKey}
    (built : outcome (buildSigned spec key issuer issuerKey) workshop = (.ok certificate, after)) :
    certificate.subjectKeyId? = some key.identifier ∧
      certificate.authorityKeyId? = some issuerKey.publicKey.identifier := by
  obtain ⟨made, -⟩ := buildSigned_made built
  obtain ⟨extensions, ofSpec, carries⟩ := made.carries
  have silent : ∀ extension ∈ extensions, extension.oid ≠ Oid.authorityKeyIdentifier := by
    intro extension member same
    have kind := Extension.oid_mem_specKinds ofSpec member
    rw [same] at kind
    exact absurd kind (by decide)
  have second := authorityKeyId?_eq silent carries
  obtain ⟨names, rfl, -⟩ := Extension.ofSpec_eq ofSpec
  exact ⟨subjectKeyId?_eq carries, second⟩

end Certificate

/-- The certificate of a pair names the pair's own key. -/
def Pair.NamesKey (pair : Pair) : Prop :=
  pair.certificate.subjectKeyId? = some pair.key.publicKey.identifier

theorem Authority.make_ok {pair : Pair} {authority : Authority}
    (made : Authority.make pair = .ok authority) : authority.pair = pair := by
  unfold Authority.make at made
  split at made
  · cases made
  · split at made
    · cases made
      rfl
    · split at made <;> cases made

theorem Pair.certPem_make (baseName : String) (key : Rsa.PrivateKey) (certificate : Certificate)
    {rest : Octets} :
    (Pair.make baseName key certificate (certificate.pem ++ rest)).certPem =
      certificate.pem ++ rest := by
  unfold Pair.make
  split
  · rename_i empty
    obtain ⟨noPem, noRest⟩ := List.append_eq_nil_iff.mp empty
    rw [noPem, noRest]
    rfl
  · rfl

section Issuing

variable {workshop after : Workshop σ}

/-- How a self-signed authority came about. -/
theorem issueSelfSigned_built {spec : Spec} {baseName : String} {keySize : KeySize}
    {authority : Authority}
    (issued : outcome (issueSelfSigned spec baseName keySize) workshop = (.ok authority, after)) :
    spec.isAuthority = true ∧ ∃ key certificate first second,
      outcome (newKey keySize baseName) workshop = (.ok key, first) ∧
      outcome (Certificate.buildSelfSigned spec key) first = (.ok certificate, second) ∧
      after.supply = second.supply ∧
      authority.pair = Pair.make baseName key certificate [] := by
  unfold issueSelfSigned at issued
  split at issued
  · rename_i isAuthority
    obtain ⟨key, first, keyMade, issued⟩ := outcome_bind_ok issued
    obtain ⟨certificate, second, built, issued⟩ := outcome_bind_ok issued
    obtain ⟨_, third, reported, issued⟩ := outcome_bind_ok issued
    have supply : after.supply = second.supply := by
      rw [Work.ofExcept_after issued]
      cases reported
      rfl
    exact ⟨isAuthority, key, certificate, first, second, keyMade, Work.asCryptography_ok built, supply,
      Authority.make_ok (Work.ofExcept_ok issued)⟩
  · cases issued

/-- How a signed pair came about. It is an authority exactly if its spec is that of one. -/
theorem issueWith_built {spec : Spec} {issuer : Authority} {baseName : String} {policy : ChainPolicy}
    {keySize : KeySize} {made : Issued}
    (issued : outcome (issueWith spec issuer baseName policy keySize) workshop =
      (.ok made, after)) :
    made.authority?.isSome = spec.isAuthority ∧ ∃ key certificate first second,
      outcome (newKey keySize baseName) workshop = (.ok key, first) ∧
      outcome (Certificate.buildSigned spec key.publicKey issuer.pair.certificate issuer.pair.key)
        first = (.ok certificate, second) ∧
      certificate.isIssuedBy issuer.pair.certificate = true ∧
      after.supply = second.supply ∧
      made.pair = Pair.make baseName key certificate (certificate.pem ++
        (if policy = .appendParent then issuer.pair.certificate.pem else [])) := by
  unfold issueWith at issued
  dsimp only at issued
  obtain ⟨holds, same, compared, issued⟩ := outcome_bind_ok issued
  rw [Work.ofExcept_after compared] at issued
  split at issued
  · cases issued
  · obtain ⟨key, first, keyMade, issued⟩ := outcome_bind_ok issued
    obtain ⟨certificate, second, built, issued⟩ := outcome_bind_ok issued
    split at issued
    · cases issued
    · rename_i verified
      have chain : chainPem certificate issuer.pair.certificate policy = certificate.pem ++
          (if policy = .appendParent then issuer.pair.certificate.pem else []) := by
        cases policy <;> simp [chainPem]
      obtain ⟨_, third, reported, issued⟩ := outcome_bind_ok issued
      cases reported
      rw [chain] at issued
      split at issued
      · rename_i isAuthority
        obtain ⟨holder, fourth, certified, issued⟩ := outcome_bind_ok issued
        cases issued
        have supply := congrArg Workshop.supply (Work.ofExcept_after certified)
        exact ⟨isAuthority.symm, key, certificate, first, second, keyMade,
          Work.asCryptography_ok built, by simpa using verified, supply,
          Authority.make_ok (Work.ofExcept_ok certified)⟩
      · rename_i leaf
        cases issued
        exact ⟨(Bool.eq_false_of_not_eq_true leaf).symm, key, certificate, first, second, keyMade,
          Work.asCryptography_ok built, by simpa using verified, rfl, rfl⟩

/-- What a self-signed authority is, if keys are well formed: its certificate is issued by itself,
and names its key. -/
theorem issueSelfSigned_ok {spec : Spec} {baseName : String} {keySize : KeySize}
    {authority : Authority} (wellFormed : workshop.supply.source.WellFormed)
    (issued : outcome (issueSelfSigned spec baseName keySize) workshop = (.ok authority, after)) :
    authority.pair.certificate.body.issuer = authority.pair.certificate.body.subject ∧
      authority.pair.certificate.isIssuedBy authority.pair.certificate = true ∧
      authority.pair.NamesKey := by
  obtain ⟨-, key, certificate, first, second, keyMade, built, -, same⟩ := issueSelfSigned_built issued
  rw [same]
  exact Certificate.buildSelfSigned_ok (newKey_ok wellFormed keyMade) built

/-- What a signed pair is: the certificate of the authority issued its certificate, each names the
key that it should, and its file goes on with that of the authority if that is asked for. -/
theorem issueWith_ok {spec : Spec} {issuer : Authority} {baseName : String} {policy : ChainPolicy}
    {keySize : KeySize} {made : Issued}
    (issued : outcome (issueWith spec issuer baseName policy keySize) workshop =
      (.ok made, after)) :
    made.pair.certificate.isIssuedBy issuer.pair.certificate = true ∧
      made.pair.certificate.authorityKeyId? = some issuer.pair.key.publicKey.identifier ∧
      made.pair.certPem = made.pair.certificate.pem ++
        (if policy = .appendParent then issuer.pair.certificate.pem else []) ∧
      made.pair.NamesKey := by
  obtain ⟨-, key, certificate, first, second, -, built, verified, -, pairIs⟩ := issueWith_built issued
  obtain ⟨own, authority⟩ := Certificate.buildSigned_ok built
  rw [Pair.NamesKey, pairIs, Pair.certPem_make]
  exact ⟨verified, authority, rfl, own⟩

private theorem memberPems_ok {name : String} {members : List Authority} {position : Nat}
    {pems : List Octets}
    (read : memberPems name position (members.map fun holder => some (.authority holder)) =
      .ok pems) : pems = members.map fun holder => holder.pair.certPem := by
  induction members generalizing position pems with
  | nil =>
    cases read
    rfl
  | cons holder members ih =>
    simp only [List.map_cons, memberPems] at read
    split at read
    · cases read
    · cases rest : memberPems name (position + 1)
          (members.map fun holder => some (Issued.authority holder)) with
      | error fault =>
        rw [rest] at read
        cases read
      | ok others =>
        rw [rest] at read
        cases read
        rw [ih rest]
        rfl

/-- A bundle has the name meant, and holds the certificate files of its members in order. -/
theorem aggregateBundle_ok {name : String} {members : List Authority} {bundle : Bundle}
    (made : outcome (aggregateBundle name (members.map fun holder => some (.authority holder)))
      workshop = (.ok bundle, after)) :
    bundle.name = name ∧ bundle.data = members.flatMap fun holder => holder.pair.certPem := by
  unfold aggregateBundle at made
  split at made
  · cases made
  · obtain ⟨pems, first, read, made⟩ := outcome_bind_ok made
    obtain ⟨_, second, -, made⟩ := outcome_bind_ok made
    cases made
    rw [Bundle.data, memberPems_ok (Work.ofExcept_ok read), List.flatMap_def]
    exact ⟨rfl, rfl⟩

end Issuing

end CertGraph
