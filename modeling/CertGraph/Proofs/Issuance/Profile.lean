import CertGraph.Proofs.Issuance.Window

/- What can be read in a certificate of its spec: everything, apart from how long it was meant to be
valid and the zones of addresses. -/
set_option autoImplicit false
set_option relaxedAutoImplicit false

namespace CertGraph

open CertGraph.Net (Address)
open CertGraph.Time (Instant)

namespace Net.Address

/-- The address in whatever zone. -/
def zoneless : Address → Address
  | .v4 bits => .v4 bits
  | .v6 bits _ => .v6 bits none

/-- The address of so many octets. -/
def ofOctets? (octets : Octets) : Option Address :=
  if octets.length = 4 then some (.v4 (BitVec.ofNat 32 (Octets.toNat octets)))
  else if octets.length = 16 then some (.v6 (BitVec.ofNat 128 (Octets.toNat octets)) none)
  else none

theorem ofOctets?_octets (address : Address) :
    ofOctets? address.octets = some address.zoneless := by
  cases address with
  | v4 bits =>
    have value : BitVec.ofNat 32 (bits.toNat % Nat.pow 256 4) = bits := by
      rw [Nat.mod_eq_of_lt bits.isLt, BitVec.ofNat_toNat, BitVec.setWidth_eq]
    rw [octets, ofOctets?, if_pos (Octets.length_ofNatWidth 4 _), Octets.toNat_ofNatWidth, value]
    rfl
  | v6 bits zone =>
    have value : BitVec.ofNat 128 (bits.toNat % Nat.pow 256 16) = bits := by
      rw [Nat.mod_eq_of_lt bits.isLt, BitVec.ofNat_toNat, BitVec.setWidth_eq]
    have length := Octets.length_ofNatWidth 16 bits.toNat
    rw [octets, ofOctets?, if_neg (by omega), if_pos length, Octets.toNat_ofNatWidth, value]
    rfl

end Net.Address

namespace Name

/-- The text of an attribute in UTF-8. -/
def textOf? (entry : Attribute) : Option String := do
  Octets.toText? (← Der.contentsOf? 0x0c entry.value)

/-- The texts of all attributes of a kind, in order. -/
def texts? (name : Name) (oid : Octets) : Option (List String) :=
  (name.steps.flatten.filter fun entry => entry.oid = oid).mapM textOf?

/-- The subject that a name with one common name stands for. -/
def subject? (name : Name) : Option Subject := do
  match ← name.texts? Oid.commonName with
  | [commonName] =>
    some ⟨commonName, ← name.texts? Oid.organization, ← name.texts? Oid.organizationalUnit⟩
  | _ => none

private theorem texts_of_kind (kind oid : Octets) (texts : List String) :
    ((texts.map fun text => (kind, text)).filter fun entry => entry.1 = oid).map Prod.snd =
      if kind = oid then texts else [] := by
  split <;> simp_all [List.filter_map, Function.comp_def]

private theorem texts?_of_subject {subject : Subject} {name : Name} (named : subject.name = .ok name)
    (oid : Octets) :
    name.texts? oid = some ((if Oid.organization = oid then subject.organizations else []) ++
      (if Oid.organizationalUnit = oid then subject.units else []) ++
      if Oid.commonName = oid then [subject.commonName] else []) := by
  have entries : name.steps.flatten =
      subject.attributes.map fun entry => ⟨entry.1, Der.utf8String entry.2⟩ := by
    rw [steps_of_subject named, ← List.flatMap_def, ← List.map_eq_flatMap]
  have common : [(Oid.commonName, subject.commonName)] =
      [subject.commonName].map fun text => (Oid.commonName, text) := rfl
  rw [texts?, entries, List.filter_map, ← texts_of_kind, ← texts_of_kind, ← texts_of_kind,
    ← List.map_append, ← List.map_append, ← List.filter_append, ← List.filter_append, ← common]
  exact mapM_map_eq_some_map fun entry _ => toText?_ofText entry.2

theorem subject?_of_subject {subject : Subject} {name : Name} (named : subject.name = .ok name) :
    name.subject? = some subject := by
  have apart : Oid.organization ≠ Oid.organizationalUnit ∧ Oid.organization ≠ Oid.commonName ∧
      Oid.organizationalUnit ≠ Oid.commonName := by decide
  simp [subject?, texts?_of_subject named, apart, apart.1.symm, apart.2.1.symm, apart.2.2.symm]

end Name

namespace Extension

/-- A DNS name under its number. -/
def taggedName (name : String) : Der.Element :=
  Der.tagged 2 (Octets.ofAscii name.toList)

private theorem mapM_dnsElement_ok {names : List String} {elements : List Der.Element}
    (made : names.mapM dnsElement = .ok elements) :
    (∀ name ∈ names, Stamp.IsAscii name.toList) ∧ elements = names.map taggedName := by
  induction names generalizing elements with
  | nil =>
    cases made
    exact ⟨nofun, rfl⟩
  | cons name names ih =>
    rw [List.mapM_cons, dnsElement] at made
    split at made
    · rename_i ascii
      cases rest : names.mapM dnsElement with
      | error fault =>
        rw [rest] at made
        cases made
      | ok others =>
        rw [rest] at made
        cases made
        obtain ⟨allAscii, rfl⟩ := ih rest
        have isAscii : Stamp.IsAscii name.toList := by simpa [Stamp.IsAscii] using ascii
        exact ⟨List.forall_mem_cons.mpr ⟨isAscii, allAscii⟩, rfl⟩
    · cases made

private theorem subjectAltName_ok {dnsNames : List String} {addresses : List Address}
    {extension : Extension}
    (made : subjectAltName dnsNames addresses = .ok extension) :
    (∀ name ∈ dnsNames, Stamp.IsAscii name.toList) ∧ extension.oid = Oid.subjectAltName ∧
      extension.value =
        (Der.sequence (dnsNames.map taggedName ++ addresses.map addressElement)).encode := by
  obtain ⟨elements, named, rfl⟩ := subjectAltName_eq made
  obtain ⟨ascii, rfl⟩ := mapM_dnsElement_ok named
  exact ⟨ascii, rfl, rfl⟩

end Extension

/-- Whether certificates of the spec carry an extension of a kind; that of the issuer's key may be
missing. -/
def Spec.Carries (spec : Spec) (oid : Octets) : Prop :=
  oid ∈ [Oid.basicConstraints, Oid.subjectKeyIdentifier, Oid.authorityKeyIdentifier] ∨
  oid = Oid.keyUsage ∧ spec.usages ≠ KeyUsages.none ∨
  oid = Oid.extendedKeyUsage ∧ spec.purposes ≠ [] ∨
  oid = Oid.subjectAltName ∧ ¬ (spec.dnsNames = [] ∧ spec.addresses = [])

private theorem Spec.carries_keyUsage_iff {spec : Spec} :
    spec.Carries Oid.keyUsage ↔ spec.usages ≠ KeyUsages.none := by
  have apart : Oid.keyUsage ∉ [Oid.basicConstraints, Oid.subjectKeyIdentifier,
      Oid.authorityKeyIdentifier] ∧ Oid.keyUsage ≠ Oid.extendedKeyUsage ∧
      Oid.keyUsage ≠ Oid.subjectAltName := by decide
  simp only [Carries, apart, true_and, false_and, false_or, or_false]

private theorem Spec.carries_extendedKeyUsage_iff {spec : Spec} :
    spec.Carries Oid.extendedKeyUsage ↔ spec.purposes ≠ [] := by
  have apart : Oid.extendedKeyUsage ∉ [Oid.basicConstraints, Oid.subjectKeyIdentifier,
      Oid.authorityKeyIdentifier] ∧ Oid.extendedKeyUsage ≠ Oid.keyUsage ∧
      Oid.extendedKeyUsage ≠ Oid.subjectAltName := by decide
  simp only [Carries, apart, true_and, false_and, false_or, or_false]

private theorem Spec.carries_subjectAltName_iff {spec : Spec} :
    spec.Carries Oid.subjectAltName ↔ ¬ (spec.dnsNames = [] ∧ spec.addresses = []) := by
  have apart : Oid.subjectAltName ∉ [Oid.basicConstraints, Oid.subjectKeyIdentifier,
      Oid.authorityKeyIdentifier] ∧ Oid.subjectAltName ≠ Oid.keyUsage ∧
      Oid.subjectAltName ≠ Oid.extendedKeyUsage := by decide
  simp only [Carries, apart, true_and, false_and, false_or]

/-- The purpose under an identifier. -/
def Purpose.ofOid? (oid : Octets) : Option Purpose :=
  if oid = Oid.serverAuth then some .serverAuth
  else if oid = Oid.clientAuth then some .clientAuth
  else none

private theorem Purpose.ofOid?_purposeOid (purpose : Purpose) :
    ofOid? (Extension.purposeOid purpose) = some purpose := by
  cases purpose <;> decide

/-- A text of octets that are characters. -/
def Octets.asciiText (octets : Octets) : String :=
  String.ofList (octets.map fun octet => Char.ofNat octet.toNat)

/-- What a certificate says of its subject, and when it starts to be valid. -/
structure Profile where
  subject : Subject
  isAuthority : Bool
  usages : KeyUsages
  purposes : List Purpose
  dnsNames : List String
  addresses : List Address
  start : Instant
deriving DecidableEq

/-- What a certificate has to say that is made from a spec and valid from an instant on. -/
def Spec.profile (spec : Spec) (start : Instant) : Profile where
  subject := spec.subject
  isAuthority := spec.isAuthority
  usages := spec.usages
  purposes := spec.purposes
  dnsNames := spec.dnsNames
  addresses := spec.addresses.map Address.zoneless
  start := start

namespace Certificate

/-- The members of the sequence in an extension; there are none if it is absent. -/
def members? (certificate : Certificate) (oid : Octets) : Option (List Der.Element) :=
  match certificate.extension? oid with
  | none => some []
  | some extension => Der.element? extension.value >>= Der.sequenceMembers?

/-- The usage flags; none are set if nothing is said of them. -/
def usages? (certificate : Certificate) : Option KeyUsages :=
  match certificate.extension? Oid.keyUsage with
  | none => some .none
  | some extension => do
    let bits ← extension.flags?
    some (.ofList (KeyUsage.all.filter fun usage => bits.has usage.index))

/-- The extended purposes. -/
def purposes? (certificate : Certificate) : Option (List Purpose) := do
  (← certificate.members? Oid.extendedKeyUsage).mapM fun member => do
    Purpose.ofOid? (← Der.contentsOf? 0x06 member)

/-- The contents of the alternative names under a number, in order. -/
def names? (certificate : Certificate) (number : UInt8) : Option (List Octets) := do
  some ((← certificate.members? Oid.subjectAltName).filterMap (Der.contentsOf? (0x80 + number)))

/-- The profile of a certificate, if it says one thing of each part. -/
def profile? (certificate : Certificate) : Option Profile := do
  some {
    subject := ← certificate.body.subject.subject?
    isAuthority := ← certificate.isAuthority?
    usages := ← certificate.usages?
    purposes := ← certificate.purposes?
    dnsNames := (← certificate.names? 2).map Octets.asciiText
    addresses := ← (← certificate.names? 7).mapM Address.ofOctets?
    start := certificate.body.notBefore.instant }

namespace MadeFor

variable {spec : Spec} {key : Rsa.PublicKey} {certificate : Certificate}

private theorem carries_of_mem (made : certificate.MadeFor spec key) {extension : Extension}
    (member : extension ∈ certificate.extensions) : spec.Carries extension.oid := by
  rcases made.isOf_of_mem member with isOf | isIssuer
  · cases isOf with
    | basicConstraints => exact .inl List.mem_cons_self
    | subjectKeyIdentifier => exact .inl (List.mem_cons_of_mem _ List.mem_cons_self)
    | keyUsage used => exact .inr (.inl ⟨rfl, used⟩)
    | extendedKeyUsage purposed => exact .inr (.inr (.inl ⟨rfl, purposed⟩))
    | subjectAltName named isNames =>
      exact .inr (.inr (.inr ⟨Extension.oid_of_subjectAltName isNames, named⟩))
  · rw [isIssuer]
    exact .inl (by decide)

private theorem extension?_eq_none (made : certificate.MadeFor spec key) {oid : Octets}
    (silent : ¬ spec.Carries oid) : certificate.extension? oid = none :=
  List.find?_eq_none.mpr fun _ member same =>
    silent (of_decide_eq_true same ▸ made.carries_of_mem member)

private theorem exists_subjectAltName (made : certificate.MadeFor spec key)
    (named : ¬ (spec.dnsNames = [] ∧ spec.addresses = [])) :
    ∃ extension, Extension.subjectAltName spec.dnsNames spec.addresses = .ok extension := by
  obtain ⟨first, later, ofSpec, -, -⟩ := made.carries
  obtain ⟨names, -, ⟨unnamed, -⟩ | ⟨-, extension, -, isNames⟩⟩ := Extension.ofSpec_eq ofSpec
  · exact absurd unnamed named
  · exact ⟨extension, isNames⟩

private theorem members?_of_isOf (made : certificate.MadeFor spec key) {extension : Extension}
    {members : List Der.Element} (isOf : extension.IsOf spec key)
    (value : extension.value = (Der.sequence members).encode) :
    certificate.members? extension.oid = some members := by
  rw [members?, made.extension?_of_isOf isOf]
  simp only [value, Der.element?_encode, Option.bind_eq_bind, Option.bind_some,
    Der.sequenceMembers?_sequence]

private theorem usages?_eq (made : certificate.MadeFor spec key) :
    certificate.usages? = some spec.usages := by
  by_cases unused : spec.usages = KeyUsages.none
  · have absent := made.extension?_eq_none fun carries => Spec.carries_keyUsage_iff.mp carries unused
    rw [usages?, absent, unused]
  · obtain ⟨bits, read, same⟩ := Extension.flags?_keyUsage spec.usages
    have found : certificate.extension? Oid.keyUsage = some (Extension.keyUsage spec.usages) :=
      made.extension?_of_isOf (.keyUsage unused)
    have flags : (KeyUsage.all.filter fun usage => bits.has usage.index) = spec.usages.toList :=
      List.filter_congr fun usage _ => same usage
    rw [usages?, found]
    dsimp only
    rw [read, Option.bind_eq_bind, Option.bind_some, flags, KeyUsages.ofList_toList]

private theorem purposes?_eq (made : certificate.MadeFor spec key) :
    certificate.purposes? = some spec.purposes := by
  have members : certificate.members? Oid.extendedKeyUsage =
      some (spec.purposes.map fun purpose => Der.oid (Extension.purposeOid purpose)) := by
    by_cases purposeless : spec.purposes = []
    · have absent := made.extension?_eq_none fun carries =>
        Spec.carries_extendedKeyUsage_iff.mp carries purposeless
      rw [members?, absent, purposeless]
      rfl
    · exact made.members?_of_isOf (.extendedKeyUsage purposeless) rfl
  rw [purposes?, members, Option.bind_eq_bind, Option.bind_some]
  exact mapM_map_eq_some fun purpose _ => Purpose.ofOid?_purposeOid purpose

/-- The alternative names are those of the spec, the DNS names first; an absent extension stands for
none. -/
private theorem members?_subjectAltName (made : certificate.MadeFor spec key) :
    certificate.members? Oid.subjectAltName =
      some (spec.dnsNames.map Extension.taggedName ++ spec.addresses.map Extension.addressElement) ∧
    ∀ name ∈ spec.dnsNames, Stamp.IsAscii name.toList := by
  by_cases unnamed : spec.dnsNames = [] ∧ spec.addresses = []
  · have absent := made.extension?_eq_none fun carries => Spec.carries_subjectAltName_iff.mp carries unnamed
    rw [members?, absent, unnamed.1, unnamed.2]
    exact ⟨rfl, nofun⟩
  · obtain ⟨extension, isNames⟩ := made.exists_subjectAltName unnamed
    obtain ⟨ascii, kind, value⟩ := Extension.subjectAltName_ok isNames
    rw [← kind]
    exact ⟨made.members?_of_isOf (.subjectAltName unnamed isNames) value, ascii⟩

private theorem names?_eq (made : certificate.MadeFor spec key) :
    certificate.names? 2 = some (spec.dnsNames.map fun name => Octets.ofAscii name.toList) ∧
      certificate.names? 7 = some (spec.addresses.map Address.octets) := by
  have members := made.members?_subjectAltName.1
  have isName : (Der.contentsOf? (0x80 + 2)) ∘ Extension.taggedName =
      some ∘ fun name => Octets.ofAscii name.toList := rfl
  have noName : (Der.contentsOf? (0x80 + 7)) ∘ Extension.taggedName = fun _ => none := rfl
  have isAddress : (Der.contentsOf? (0x80 + 7)) ∘ Extension.addressElement = some ∘ Address.octets := rfl
  have noAddress : (Der.contentsOf? (0x80 + 2)) ∘ Extension.addressElement = fun _ => none := rfl
  rw [names?, names?, members]
  simp only [Option.bind_eq_bind, Option.bind_some, List.filterMap_append, List.filterMap_map]
  rw [isName, noName, isAddress, noAddress]
  simp only [List.filterMap_eq_map, List.filterMap_none, List.append_nil, List.nil_append, and_self]

/-- What was made for a spec says of its subject all that the spec does. -/
theorem profile?_eq (made : certificate.MadeFor spec key) :
    certificate.profile? = some (spec.profile certificate.body.notBefore.instant) := by
  have dnsNames : (spec.dnsNames.map fun name => Octets.ofAscii name.toList).map Octets.asciiText =
      spec.dnsNames := by
    rw [List.map_map]
    refine (List.map_congr_left fun name member => ?_).trans (List.map_id _)
    have ascii := made.members?_subjectAltName.2 name member
    show Octets.asciiText (Octets.ofAscii name.toList) = name
    rw [Octets.asciiText, Stamp.ofNat_ofAscii ascii, String.ofList_toList]
  have addresses : (spec.addresses.map Address.octets).mapM Address.ofOctets? =
      some (spec.addresses.map Address.zoneless) :=
    mapM_map_eq_some_map fun address _ => Address.ofOctets?_octets address
  simp only [profile?, Name.subject?_of_subject made.subject, made.isAuthority?_eq, made.usages?_eq,
    made.purposes?_eq, made.names?_eq, dnsNames, addresses, Option.bind_eq_bind, Option.bind_some]
  rfl

end MadeFor

/-- The profile of an encoded certificate. -/
def readProfile? (octets : Octets) : Option Profile := do
  (← (decode octets).toOption).profile?

private theorem BuiltFrom.readProfile?_eq {spec : Spec} {now : Instant} {certificate : Certificate}
    (built : certificate.BuiltFrom spec now) :
    readProfile? certificate.encode = some (spec.profile now.truncated) := by
  obtain ⟨supply, issuer, key, signer, added, rfl, few, made⟩ := built.made
  rw [readProfile?, decode_encode built.readable, ← made.start_eq]
  exact (made.madeFor few).profile?_eq

/-- A certificate loses nothing of its spec but how long it was meant to be valid and the zones of
addresses: what is read in it, once it is encoded, is all the rest, with the second in which it was
made. So two certificates that are the same were made in the same second from specs that are the same
in all this. -/
theorem built_profile {spec : Spec} {now : Instant} {certificate : Certificate}
    (built : certificate.BuiltFrom spec now) :
    readProfile? certificate.encode = some (spec.profile now.truncated) ∧
    ∀ (other : Spec) (later : Instant) (twin : Certificate), twin.BuiltFrom other later →
      twin.encode = certificate.encode → other.profile later.truncated = spec.profile now.truncated := by
  have read := built.readProfile?_eq
  refine ⟨read, fun other later twin builtToo same => ?_⟩
  have readToo := builtToo.readProfile?_eq
  rw [same, read] at readToo
  exact (Option.some.inj readToo).symm

open Resolution (mersenneKey mersenneWorkshop)

/-- A spec with some of everything: units out of order, a purpose twice, and an address with a zone. -/
def wideSpec (dnsNames : List String) (dnsNames_ne : ∀ name ∈ dnsNames, name ≠ "") : Spec where
  subject := ⟨"wide", ["first", "second"], ["unit", "another"]⟩
  validity := Cluster.oneYear
  usages := .ofList [.crlSign, .digitalSignature]
  purposes := [.clientAuth, .serverAuth, .clientAuth]
  isAuthority := false
  dnsNames := dnsNames
  addresses := [.v6 1#128 (some "eth0"), .v4 0x7f000001#32]
  validity_pos := Cluster.oneYear_pos
  authority_signs := nofun
  dnsNames_ne := dnsNames_ne

/-- All of it but the zone is read back, and with the names in another order the certificate is another.
-/
theorem wide_profile :
    ∃ certificate twin first second,
      outcome (buildSelfSigned (wideSpec ["b", "a"] (by decide)) (mersenneKey 607 521))
        mersenneWorkshop = (.ok certificate, first) ∧
      outcome (buildSelfSigned (wideSpec ["a", "b"] (by decide)) (mersenneKey 607 521))
        mersenneWorkshop = (.ok twin, second) ∧
      readProfile? certificate.encode = some {
        subject := ⟨"wide", ["first", "second"], ["unit", "another"]⟩
        isAuthority := false
        usages := .ofList [.digitalSignature, .crlSign]
        purposes := [.clientAuth, .serverAuth, .clientAuth]
        dnsNames := ["b", "a"]
        addresses := [.v6 1#128 none, .v4 0x7f000001#32]
        start := mersenneWorkshop.supply.now.truncated } ∧
      twin.encode ≠ certificate.encode := by
  have issuable (dnsNames : List String) (dnsNames_ne : ∀ name ∈ dnsNames, name ≠ "")
      (ascii : (dnsNames.all fun name => name.toList.all fun c => c.toNat < 128) = true) :
      (wideSpec dnsNames dnsNames_ne).Issuable mersenneWorkshop.supply.now := by
    have commonName : 1 ≤ (Octets.ofText "wide").length ∧ (Octets.ofText "wide").length ≤ 64 := by
      decide +kernel
    exact ⟨commonName, ascii_of_all ascii, by decide +kernel, _, rfl⟩
  obtain ⟨certificate, first, built⟩ := mersenne_builds (issuable ["b", "a"] (by decide) rfl)
  obtain ⟨twin, second, builtToo⟩ := mersenne_builds (issuable ["a", "b"] (by decide) rfl)
  obtain ⟨read, unlike⟩ := built_profile (.selfSigned rfl built)
  refine ⟨certificate, twin, first, second, built, builtToo, read, fun same => ?_⟩
  have names := congrArg Profile.dnsNames (unlike _ _ twin (.selfSigned rfl builtToo) same)
  exact absurd names (by decide)

end Certificate

end CertGraph
