import CertGraph.Proofs.Issuance.Ending

/- Which specs can be issued: exactly those whose common name, DNS names and time of validity can be
written. Nothing else stands in the way of a key that can be used. -/
set_option autoImplicit false
set_option relaxedAutoImplicit false

namespace CertGraph

open CertGraph.Time (Duration Instant)

variable {σ α β : Type}

/-- All values of a list are computed if each of them is. -/
theorem exists_mapM_ok_iff {φ : Type} {compute : α → Except φ β} {inputs : List α} :
    (∃ values, inputs.mapM compute = .ok values) ↔
      ∀ input ∈ inputs, ∃ value, compute input = .ok value := by
  induction inputs with
  | nil => exact ⟨fun _ => nofun, fun _ => ⟨[], rfl⟩⟩
  | cons input inputs ih =>
    rw [List.mapM_cons, List.forall_mem_cons, ← ih]
    rcases compute input with failure | value
    · exact ⟨fun ⟨_, absurd⟩ => (by cases absurd), fun ⟨⟨_, absurd⟩, _⟩ => (by cases absurd)⟩
    · rcases inputs.mapM compute with failure | values
      · exact ⟨fun ⟨_, absurd⟩ => (by cases absurd), fun ⟨_, _, absurd⟩ => (by cases absurd)⟩
      · exact ⟨fun _ => ⟨⟨value, rfl⟩, values, rfl⟩, fun _ => ⟨value :: values, rfl⟩⟩

namespace Der

private theorem length_encode_of_short {element : Element} (short : element.contents.length < 128) :
    element.encode.length = element.contents.length + 2 := by
  simp [Element.encode, lengthOctets, short]

end Der

namespace Rsa

theorem length_digestInfo (message : Octets) : (digestInfo .sha256 message).length = 51 := by
  have digest : (Digest.Algorithm.sha256.digest message).length = 32 :=
    Digest.Sha256.length_digest message
  have algorithm : (Algorithm.plain Digest.Algorithm.sha256.oid).element.encode.length = 15 := by
    decide
  have octets : (Der.octetString (Digest.Algorithm.sha256.digest message)).encode.length = 34 := by
    rw [Der.length_encode_of_short (by rw [Der.octetString, digest]; decide), Der.octetString, digest]
  have contents : (Der.encodeAll [(Algorithm.plain Digest.Algorithm.sha256.oid).element,
      Der.octetString (Digest.Algorithm.sha256.digest message)]).length = 49 := by
    simp only [Der.encodeAll, List.flatMap_cons, List.flatMap_nil, List.append_nil,
      List.length_append, algorithm, octets]
  rw [digestInfo, Der.length_encode_of_short (by rw [Der.sequence, contents]; decide), Der.sequence,
    contents]

private theorem PrivateKey.Usable.sign?_isSome {key : PrivateKey} (usable : key.Usable)
    (message : Octets) :
    ∃ signature, key.sign? message = some signature := by
  have room : (digestInfo .sha256 message).length + 11 ≤ key.publicKey.size := by
    rw [length_digestInfo]
    exact usable.long
  simp only [sign?, padded?, room, if_true]
  exact ⟨_, rfl⟩

end Rsa

namespace Name

theorem toText?_ofText (text : String) : Octets.toText? (Octets.ofText text) = some text := by
  have valid : (⟨(Octets.ofText text).toArray⟩ : ByteArray).IsValidUTF8 := text.isValidUTF8
  exact dif_pos valid

/-- The name of a subject has a step for each attribute, in UTF-8. -/
theorem steps_of_subject {subject : Subject} {name : Name} (named : subject.name = .ok name) :
    name.steps = subject.attributes.map fun entry => [⟨entry.1, Der.utf8String entry.2⟩] := by
  unfold Subject.name at named
  dsimp only at named
  split at named
  · cases named
    rfl
  · cases named

private theorem isText_of_subject {subject : Subject} {name : Name} (named : subject.name = .ok name) :
    name.isText = true := by
  rw [isText, steps_of_subject named, List.all_map]
  refine List.all_eq_true.mpr fun entry _ => ?_
  simp [Attribute.isText, Der.utf8String, toText?_ofText]

end Name

namespace Extension

/-- Only DNS names that are not ASCII keep the extensions of a spec from being written. -/
theorem exists_ofSpec_ok_iff {spec : Spec} {key : Rsa.PublicKey} :
    (∃ extensions, ofSpec spec key = .ok extensions) ↔
      ∀ name ∈ spec.dnsNames, ∀ c ∈ name.toList, c.toNat < 128 := by
  have each (name : String) :
      (∃ element, dnsElement name = .ok element) ↔ ∀ c ∈ name.toList, c.toNat < 128 := by
    simp only [dnsElement, List.all_eq_true, decide_eq_true_eq]
    split
    · rename_i ascii
      exact ⟨fun _ => ascii, fun _ => ⟨_, rfl⟩⟩
    · rename_i other
      exact ⟨fun ⟨_, absurd⟩ => (by cases absurd), fun ascii => absurd ascii other⟩
  have names : (∃ elements, spec.dnsNames.mapM dnsElement = .ok elements) ↔
      ∀ name ∈ spec.dnsNames, ∀ c ∈ name.toList, c.toNat < 128 := by
    rw [exists_mapM_ok_iff]
    exact forall₂_congr fun name _ => each name
  rw [← names]
  unfold ofSpec
  by_cases unnamed : spec.dnsNames = [] ∧ spec.addresses = []
  · simp only [unnamed, and_self, if_true]
    exact ⟨fun _ => ⟨[], rfl⟩, fun _ => ⟨_, rfl⟩⟩
  · simp only [unnamed, if_false, subjectAltName]
    rcases spec.dnsNames.mapM dnsElement with fault | elements
    · exact ⟨fun ⟨_, absurd⟩ => (by cases absurd), fun ⟨_, absurd⟩ => (by cases absurd)⟩
    · exact ⟨fun _ => ⟨elements, rfl⟩, fun _ => ⟨_, rfl⟩⟩

end Extension

/-- A validity can be certified from an instant on: its first second lies in 1950 or later, and its end
within the calendar. -/
structure Time.Instant.Admits (now : Instant) (validity : Duration) : Prop where
  starts : 1950 ≤ now.truncated.date.year
  ends : ∃ after, now.truncated.add? validity = some after

/-- What can be certified for long can be certified for a shorter time as well. -/
theorem Time.Instant.Admits.mono {now : Instant} {longer shorter : Duration}
    (admits : now.Admits longer) (positive : 0 ≤ shorter.micros)
    (le : shorter.micros ≤ longer.micros) : now.Admits shorter := by
  obtain ⟨starts, after, added⟩ := admits
  have inside : 0 ≤ (now.truncated.micros : Int) + longer.micros ∧
      (now.truncated.micros : Int) + longer.micros < Instant.limit := by
    by_contra outside
    rw [Instant.add?, if_neg outside] at added
    cases added
  exact ⟨starts, _, if_pos ⟨by omega, by omega⟩⟩

/-- A spec can be issued at an instant: its common name has a length that can be written, its DNS
names are ASCII, and its validity can be certified from then on. -/
structure Spec.Issuable (spec : Spec) (now : Instant) : Prop where
  commonName : 1 ≤ (Octets.ofText spec.subject.commonName).length ∧
    (Octets.ofText spec.subject.commonName).length ≤ 64
  dnsNames : ∀ name ∈ spec.dnsNames, ∀ c ∈ name.toList, c.toNat < 128
  admits : now.Admits spec.validity

-- a bounded quantifier over characters would be decided by going through all characters there are
theorem ascii_of_all {names : List String}
    (checked : (names.all fun name => name.toList.all fun c => c.toNat < 128) = true) :
    ∀ name ∈ names, ∀ c ∈ name.toList, c.toNat < 128 := by
  simpa only [List.all_eq_true, decide_eq_true_eq] using checked

private theorem Subject.exists_name_ok_iff {subject : Subject} : (∃ name, subject.name = .ok name) ↔
    1 ≤ (Octets.ofText subject.commonName).length ∧
      (Octets.ofText subject.commonName).length ≤ 64 := by
  unfold Subject.name
  dsimp only
  split
  · rename_i fits
    exact ⟨fun _ => fits, fun _ => ⟨_, rfl⟩⟩
  · rename_i other
    exact ⟨fun ⟨_, absurd⟩ => (by cases absurd), fun fits => absurd fits other⟩

namespace Certificate

open Work (Ends)

variable {source : Source} {now : Instant}

private theorem draftBody_ends (spec : Spec) (issuer : Name) (key : Rsa.PublicKey) :
    Ends source now (spec.Issuable now) (fun _ => True)
      (draftBody spec issuer key : Work σ Body) := by
  unfold draftBody
  refine .bind_always .now_eq ?_
  rintro instant rfl
  dsimp only
  split
  · rename_i notAfter added
    have same : Ends source instant True (· = notAfter) (pure notAfter : Work σ Instant) :=
      .pure trivial rfl
    refine .bind_always same ?_
    rintro _ rfl
    refine .bind (.ofExcept fun fault _ => Failure.notMissing_value fault) ?_ fun subject named _ => ?_
    · exact fun issuable => Subject.exists_name_ok_iff.mpr issuable.commonName
    refine .bind_always .drawSerial fun serial _ => ?_
    split
    · rename_i early
      exact .fail (fun issuable => absurd issuable.admits.starts (Nat.not_le.mpr early))
        (Failure.notMissing_value _)
    · rename_i started
      refine .bind (.ofExcept fun fault _ => Failure.notMissing_value fault) ?_
        fun extensions extended _ => ?_
      · exact fun issuable => Extension.exists_ofSpec_ok_iff.mpr issuable.dnsNames
      · exact .pure ⟨Subject.exists_name_ok_iff.mp named,
          Extension.exists_ofSpec_ok_iff.mp extended, Nat.not_lt.mp started, _, added⟩ trivial
  · rename_i past
    have failed : Ends source instant False (fun _ => True)
        (Work.fail .dateOutOfRange : Work σ Instant) := .fail id fun _ => nofun
    refine .bind failed ?_ fun _ absurd => absurd.elim
    rintro ⟨-, -, -, after, added⟩
    cases past.symm.trans added

private theorem signBody_ends {body : Body} {key : Rsa.PrivateKey} (usable : key.Usable) :
    Ends source now True (fun _ => True) (signBody body key : Work σ Certificate) := by
  obtain ⟨signature, signed⟩ := usable.sign?_isSome body.element.encode
  unfold signBody
  rw [signed]
  exact .pure trivial trivial

/-- The certificate of a key, as a spec describes it. At most the extension that names the issuer's key
is added to those of the spec. -/
structure MadeFor (spec : Spec) (key : Rsa.PublicKey) (certificate : Certificate) : Prop where
  subject : spec.subject.name = .ok certificate.body.subject
  certified : certificate.body.key = .ofRsa key
  carries : ∃ first later, Extension.ofSpec spec key = .ok first ∧
    certificate.body.extensions = some (first ++ later) ∧
    (later = [] ∨ ∃ issuer, later = [Extension.authorityKeyIdentifier issuer])

/-- A certificate is made for the spec and the key that it is made of. -/
theorem Made.madeFor {supply : Supply} {spec : Spec} {issuer : Name} {key : Rsa.PublicKey}
    {signer : Rsa.PrivateKey} {added : List Extension} {certificate : Certificate}
    (made : certificate.Made supply spec issuer key signer added)
    (few : added = [] ∨ ∃ other, added = [Extension.authorityKeyIdentifier other]) :
    certificate.MadeFor spec key := by
  obtain ⟨first, ofSpec, carries⟩ := made.carries
  exact ⟨made.subject, made.certified, first, added, ofSpec, carries, few⟩

theorem buildSelfSigned_madeFor {spec : Spec} {key : Rsa.PrivateKey} {certificate : Certificate}
    {workshop after : Workshop σ}
    (built : outcome (buildSelfSigned spec key) workshop = (.ok certificate, after)) :
    certificate.MadeFor spec key.publicKey :=
  (buildSelfSigned_made built).1.madeFor (.inl rfl)

theorem buildSigned_madeFor {spec : Spec} {key : Rsa.PublicKey} {issuer certificate : Certificate}
    {issuerKey : Rsa.PrivateKey} {workshop after : Workshop σ}
    (built : outcome (buildSigned spec key issuer issuerKey) workshop = (.ok certificate, after)) :
    certificate.MadeFor spec key :=
  (buildSigned_made built).1.madeFor (.inr ⟨_, rfl⟩)

theorem buildSelfSigned_ends (spec : Spec) {key : Rsa.PrivateKey} (usable : key.Usable) :
    Ends source now (spec.Issuable now) (MadeFor spec key.publicKey)
      (buildSelfSigned spec key : Work σ Certificate) := by
  have ends : Ends source now (spec.Issuable now) (fun _ => True)
      (buildSelfSigned spec key : Work σ Certificate) := by
    refine .bind (.ofExcept fun fault _ => Failure.notMissing_value fault) ?_ fun issuer named _ => ?_
    · exact fun issuable => Subject.exists_name_ok_iff.mpr issuable.commonName
    refine .bind (draftBody_ends spec issuer key.publicKey) id fun body issuable _ => ?_
    exact (signBody_ends usable).of_iff (iff_of_true trivial issuable)
  exact ends.also fun workshop certificate after _ built _ => buildSelfSigned_madeFor built

private theorem buildSigned_ends (spec : Spec) (key : Rsa.PublicKey) {issuer : Certificate}
    {issuerKey : Rsa.PrivateKey} (isText : issuer.body.subject.isText = true)
    (certifies : issuer.body.key = .ofRsa issuerKey.publicKey) (usable : issuerKey.Usable) :
    Ends source now (spec.Issuable now)
      (fun certificate => certificate.MadeFor spec key ∧ certificate.isIssuedBy issuer = true)
      (buildSigned spec key issuer issuerKey : Work σ Certificate) := by
  have ends : Ends source now (spec.Issuable now) (fun _ => True)
      (buildSigned spec key issuer issuerKey : Work σ Certificate) := by
    unfold buildSigned
    rw [if_pos isText]
    refine .bind (draftBody_ends spec _ key) id fun body issuable _ => ?_
    exact (signBody_ends usable).of_iff (iff_of_true trivial issuable)
  exact ends.also fun workshop certificate after _ built _ =>
    ⟨buildSigned_madeFor built,
      (buildSigned_made built).1.signedAs.isIssuedBy usable.wellFormed certifies⟩

end Certificate

namespace Extension

private theorem firstRepeated?_eq_none {before oids : List Octets} (nodup : oids.Nodup)
    (apart : ∀ oid ∈ oids, oid ∉ before) : firstRepeated? before oids = none := by
  induction oids generalizing before with
  | nil => rfl
  | cons oid oids ih =>
    obtain ⟨fresh, nodup⟩ := List.nodup_cons.mp nodup
    show (if oid ∈ before then some oid else firstRepeated? (oid :: before) oids) = none
    rw [if_neg (apart oid List.mem_cons_self)]
    refine ih nodup fun other member => ?_
    rw [List.mem_cons, not_or]
    exact ⟨fun same => fresh (same ▸ member), apart other (List.mem_cons_of_mem _ member)⟩

private theorem fault?_eq_none_of_oid {extension : Extension} {oid : Octets}
    (kind : extension.oid = oid)
    (unlike : oid ∉ [Oid.basicConstraints, Oid.keyUsage]) : extension.fault? = none := by
  rw [← kind, List.mem_cons, List.mem_singleton, not_or] at unlike
  simp [fault?, unlike]

private theorem fault?_basicConstraints (isAuthority : Bool) :
    (basicConstraints isAuthority).fault? = none := by
  revert isAuthority
  decide

/-- No usage flags that a spec can have restrict an agreement. -/
theorem fault?_keyUsage (usages : KeyUsages) : (keyUsage usages).fault? = none := by
  have all : ∀ bits : BitVec 7, (keyUsage ⟨bits⟩).fault? = none := by decide +kernel
  exact all usages.bits

private theorem IsOf.fault?_eq_none {spec : Spec} {key : Rsa.PublicKey} {extension : Extension}
    (isOf : extension.IsOf spec key) : extension.fault? = none := by
  cases isOf with
  | basicConstraints => exact fault?_basicConstraints _
  | subjectKeyIdentifier =>
    exact fault?_eq_none_of_oid (show _ = Oid.subjectKeyIdentifier from rfl) (by decide)
  | keyUsage used => exact fault?_keyUsage _
  | extendedKeyUsage purposed =>
    exact fault?_eq_none_of_oid (show _ = Oid.extendedKeyUsage from rfl) (by decide)
  | subjectAltName named made => exact fault?_eq_none_of_oid (oid_of_subjectAltName made) (by decide)

private theorem find?_of_nodup {extensions : List Extension} {extension : Extension}
    (once : (extensions.map Extension.oid).Nodup) (member : extension ∈ extensions) :
    extensions.find? (fun other => other.oid = extension.oid) = some extension := by
  induction extensions with
  | nil => cases member
  | cons first others ih =>
    obtain ⟨alone, once⟩ := List.nodup_cons.mp once
    rcases List.mem_cons.mp member with rfl | later
    · exact List.find?_cons_of_pos (decide_eq_true rfl)
    · have unlike : first.oid ≠ extension.oid := fun same =>
        alone (same ▸ List.mem_map_of_mem later)
      rw [List.find?_cons_of_neg (by simpa using unlike)]
      exact ih once later

end Extension

namespace Certificate.MadeFor

variable {spec : Spec} {key : Rsa.PublicKey} {certificate : Certificate}

theorem isText (made : certificate.MadeFor spec key) : certificate.body.subject.isText = true :=
  Name.isText_of_subject made.subject

private theorem mem_of_isOf (made : certificate.MadeFor spec key) {extension : Extension}
    (isOf : extension.IsOf spec key) : extension ∈ certificate.extensions := by
  obtain ⟨first, later, ofSpec, carries, -⟩ := made.carries
  rw [Certificate.extensions, carries, Option.getD_some]
  exact List.mem_append_left later ((Extension.mem_ofSpec_iff ofSpec).mpr isOf)

theorem isOf_of_mem (made : certificate.MadeFor spec key) {extension : Extension}
    (member : extension ∈ certificate.extensions) :
    extension.IsOf spec key ∨ extension.oid = Oid.authorityKeyIdentifier := by
  obtain ⟨first, later, ofSpec, carries, added⟩ := made.carries
  rw [Certificate.extensions, carries, Option.getD_some] at member
  rcases List.mem_append.mp member with own | last
  · exact .inl ((Extension.mem_ofSpec_iff ofSpec).mp own)
  · rcases added with rfl | ⟨issuer, rfl⟩
    · cases last
    · rw [List.mem_singleton.mp last]
      exact .inr rfl

/-- No kind of extension is there twice. -/
private theorem oids_nodup (made : certificate.MadeFor spec key) :
    (certificate.extensions.map Extension.oid).Nodup := by
  obtain ⟨first, later, ofSpec, carries, added⟩ := made.carries
  have oids : (certificate.extensions.map Extension.oid).Sublist
      (Extension.specKinds ++ [Oid.authorityKeyIdentifier]) := by
    rw [Certificate.extensions, carries, Option.getD_some, List.map_append]
    refine (Extension.ofSpec_oids ofSpec).append ?_
    rcases added with rfl | ⟨issuer, rfl⟩
    · exact List.nil_sublist _
    · exact List.Sublist.refl _
  exact oids.nodup (by decide)

/-- Each extension of the spec is the one that is found of its kind. -/
theorem extension?_of_isOf (made : certificate.MadeFor spec key) {extension : Extension}
    (isOf : extension.IsOf spec key) : certificate.extension? extension.oid = some extension :=
  Extension.find?_of_nodup made.oids_nodup (made.mem_of_isOf isOf)

private theorem extensionFault?_eq_none (made : certificate.MadeFor spec key) :
    certificate.extensionFault? = none := by
  have once : Extension.firstRepeated? [] (certificate.extensions.map Extension.oid) = none :=
    Extension.firstRepeated?_eq_none made.oids_nodup fun _ _ => List.not_mem_nil
  rw [extensionFault?, once, List.findSome?_eq_none_iff]
  intro extension member
  rcases made.isOf_of_mem member with isOf | isIssuer
  · exact isOf.fault?_eq_none
  · exact Extension.fault?_eq_none_of_oid isIssuer (by decide)

theorem isAuthority?_eq (made : certificate.MadeFor spec key) :
    certificate.isAuthority? = some spec.isAuthority := by
  have found : certificate.extension? Oid.basicConstraints =
      some (Extension.basicConstraints spec.isAuthority) :=
    made.extension?_of_isOf .basicConstraints
  rw [isAuthority?, found]
  cases spec.isAuthority <;> decide

theorem exists_make_ok (made : certificate.MadeFor spec key) (isAuthority : spec.isAuthority = true)
    (pair : Pair) (same : pair.certificate = certificate) :
    ∃ authority, Authority.make pair = .ok authority := by
  subst same
  unfold Authority.make
  rw [made.extensionFault?_eq_none]
  have called : pair.certificate.isAuthority? = some true := by
    rw [made.isAuthority?_eq, isAuthority]
  exact ⟨⟨pair, called⟩, dif_pos called⟩

end Certificate.MadeFor

theorem Certificate.pem_ne_nil (certificate : Certificate) : certificate.pem ≠ [] := by
  unfold pem Armor.armored
  simp

/-- A pair to sign with: its key can be used, and is the one that its certificate is about; the name in
the certificate is text; and there is something in its certificate file. -/
structure Pair.Sound (pair : Pair) : Prop where
  usable : pair.key.Usable
  certified : pair.certificate.body.key = .ofRsa pair.key.publicKey
  isText : pair.certificate.body.subject.isText = true
  certPem_ne : pair.certPem ≠ []

private theorem Pair.Sound.holds {pair : Pair} (sound : pair.Sound) :
    pair.certificate.holds pair.key = true := by
  rw [Certificate.holds, Certificate.rsaKey?_of_certifies sound.certified]
  exact decide_eq_true rfl

private theorem Pair.Sound.checkHolds {pair : Pair} (sound : pair.Sound) :
    pair.certificate.checkHolds pair.key = .ok true := by
  rw [Certificate.checkHolds, sound.certified, SubjectKey.fault?_ofRsa, sound.holds]

private theorem Pair.sound_make {spec : Spec} {key : Rsa.PrivateKey} {certificate : Certificate}
    (usable : key.Usable) (made : certificate.MadeFor spec key.publicKey) (baseName : String)
    (certPem : Octets) : (Pair.make baseName key certificate certPem).Sound := by
  refine ⟨usable, made.certified, made.isText, ?_⟩
  unfold Pair.make
  dsimp only
  split
  · exact certificate.pem_ne_nil
  · assumption

section Issuing

open Work (Ends)

variable {source : Source} {now : Instant}

/-- An authority can be issued from a spec exactly if it is that of one and can be issued at all, with a
key that is long enough. -/
theorem issueSelfSigned_ends (reliable : source.Reliable) (spec : Spec) (baseName : String)
    (keySize : KeySize) :
    Ends source now
      (spec.isAuthority = true ∧ (∃ bits, keySize = some bits ∧ 1024 ≤ bits) ∧ spec.Issuable now)
      (fun holder => holder.pair.Sound)
      (issueSelfSigned spec baseName keySize : Work σ Authority) := by
  unfold issueSelfSigned
  split
  · rename_i isAuthority
    refine .bind (.newKey reliable keySize baseName) (fun holds => holds.2.1)
      fun key large usable => ?_
    refine .bind (.asCryptography _ (Certificate.buildSelfSigned_ends spec usable))
      (fun holds => holds.2.2) fun certificate issuable made => ?_
    refine .bind_always (.report _ _ _) fun _ _ => ?_
    obtain ⟨holder, certified⟩ := made.exists_make_ok isAuthority
      (Pair.make baseName key certificate []) rfl
    rw [certified]
    refine .pure ⟨isAuthority, large, issuable⟩ ?_
    rw [Authority.make_ok certified]
    exact Pair.sound_make usable made baseName []
  · rename_i leaf
    exact .fail (fun holds => leaf holds.1) (Failure.notMissing_configuration _)

/-- A pair can be issued with a sound authority exactly if its spec can be issued, with a key that is
long enough. -/
theorem issueWith_ends (reliable : source.Reliable) (spec : Spec) {issuer : Authority}
    (sound : issuer.pair.Sound) (baseName : String) (policy : ChainPolicy) (keySize : KeySize) :
    Ends source now ((∃ bits, keySize = some bits ∧ 1024 ≤ bits) ∧ spec.Issuable now)
      (fun issued => issued.pair.Sound)
      (issueWith spec issuer baseName policy keySize : Work σ Issued) := by
  unfold issueWith
  dsimp only
  refine .bind_known sound.checkHolds ?_
  rw [Bool.not_true, if_neg Bool.false_ne_true]
  refine .bind (.newKey reliable keySize baseName) (fun holds => holds.1) fun key large usable => ?_
  refine .bind (.asCryptography _ (Certificate.buildSigned_ends spec key.publicKey sound.isText
    sound.certified sound.usable)) (fun holds => holds.2) fun certificate issuable made => ?_
  rw [made.2, Bool.not_true, if_neg Bool.false_ne_true]
  refine .bind_always (.report _ _ _) fun _ _ => ?_
  have isSound := Pair.sound_make usable made.1 baseName
    (chainPem certificate issuer.pair.certificate policy)
  split
  · rename_i isAuthority
    obtain ⟨holder, certified⟩ := made.1.exists_make_ok isAuthority
      (Pair.make baseName key certificate (chainPem certificate issuer.pair.certificate policy)) rfl
    rw [certified]
    have same : holder.pair.Sound := by
      rw [Authority.make_ok certified]
      exact isSound
    exact .pure ⟨large, issuable⟩ same
  · exact .pure ⟨large, issuable⟩ isSound

private theorem exists_memberPems_ok (name : String) (position : Nat) {members : List Authority}
    (sound : ∀ holder ∈ members, holder.pair.Sound) :
    ∃ pems,
      memberPems name position (members.map fun holder => some (.authority holder)) = .ok pems := by
  induction members generalizing position with
  | nil => exact ⟨[], rfl⟩
  | cons holder members ih =>
    have written : holder.pair.certPem ≠ [] := (sound holder List.mem_cons_self).certPem_ne
    obtain ⟨pems, rest⟩ := ih (position + 1) fun other member =>
      sound other (List.mem_cons_of_mem _ member)
    refine ⟨holder.pair.certPem :: pems, ?_⟩
    simp only [List.map_cons, memberPems, Issued.pair, written, if_false, rest]
    rfl

/-- Sound authorities can always be bundled, if there are any. -/
theorem aggregateBundle_ends (name : String) {members : List Authority} (nonempty : members ≠ [])
    (sound : ∀ holder ∈ members, holder.pair.Sound) :
    Ends source now True (fun _ => True)
      (aggregateBundle name (members.map fun holder => some (.authority holder)) :
        Work σ Bundle) := by
  unfold aggregateBundle
  rw [if_neg (by simpa using nonempty)]
  refine .bind (.ofExcept fun fault _ => Failure.notMissing_configuration fault) ?_ fun pems _ _ => ?_
  · exact fun _ => exists_memberPems_ok name 0 sound
  · exact .bind_always (.report _ _ _) fun _ _ => .pure trivial trivial

end Issuing

end CertGraph
