import CertGraph.Proofs.Armor.Blocks
import CertGraph.Proofs.Certificate.Stamps
import CertGraph.Proofs.Der.RoundTrip

/- Certificates are read back from their encoding and from their armor. -/
set_option autoImplicit false
set_option relaxedAutoImplicit false

namespace CertGraph

private theorem Attribute.ofElement?_element (entry : Attribute) :
    Attribute.ofElement? entry.element = some entry := by
  simp only [Attribute.ofElement?, Attribute.element, Der.sequenceMembers?_sequence, bind,
    Option.bind]
  rfl

private theorem Name.ofElement?_element (name : Name) : Name.ofElement? name.element = some name := by
  have readStep (step : List Attribute) :
      (step.map Attribute.element).mapM Attribute.ofElement? = some step :=
    mapM_map_eq_some fun entry _ => Attribute.ofElement?_element entry
  have readSteps : (name.steps.map fun step => Der.set (step.map Attribute.element)).mapM
      (fun step => do
        (← Der.elements? (← Der.contentsOf? 0x31 step)).mapM Attribute.ofElement?) =
      some name.steps := by
    refine mapM_map_eq_some fun step _ => ?_
    have contents : Der.contentsOf? 0x31 (Der.set (step.map Attribute.element)) =
        some (Der.encodeAll (step.map Attribute.element)) := rfl
    simp only [contents, bind, Option.bind, Der.elements?_encodeAll, readStep]
  simp only [Name.ofElement?, Name.element, Der.sequenceMembers?_sequence, bind, Option.bind]
    at readSteps ⊢
  rw [readSteps]
  exact dif_pos name.proper

theorem Algorithm.ofElement?_element {algorithm : Algorithm}
    (known : (Oid.arcs? algorithm.oid).isSome = true) :
    Algorithm.ofElement? algorithm.element = some algorithm := by
  have named : Der.contentsOf? 0x06 (Der.oid algorithm.oid) = some algorithm.oid := rfl
  have formed : (Oid.arcs? algorithm.oid).isNone = false := by
    simpa [Option.isSome_iff_ne_none, Option.isNone_iff_eq_none] using known
  simp only [Algorithm.ofElement?, Algorithm.element, Der.sequenceMembers?_sequence, bind,
    Option.bind, named, formed]
  cases algorithm with
  | mk oid parameters => cases parameters <;> rfl

/-- The algorithm can be read: its identifier is well formed and its parameters are permitted. -/
def Algorithm.Readable (algorithm : Algorithm) : Prop :=
  (Oid.arcs? algorithm.oid).isSome = true ∧ algorithm.isPermitted = true

instance (algorithm : Algorithm) : Decidable algorithm.Readable :=
  inferInstanceAs (Decidable (_ ∧ _))

private theorem algorithmOf?_element {algorithm : Algorithm} (readable : algorithm.Readable) :
    algorithmOf? algorithm.element = some algorithm := by
  simp only [algorithmOf?, Algorithm.ofElement?_element readable.1, bind, Option.bind, readable.2,
    if_true]

/-- The key can be read. -/
def SubjectKey.Readable (key : SubjectKey) : Prop :=
  key.algorithm.Readable ∧ key.bits.isProper = true

private theorem SubjectKey.ofElement?_element {key : SubjectKey} (readable : key.Readable) :
    SubjectKey.ofElement? key.element = some key := by
  obtain ⟨algorithm, proper⟩ := readable
  simp only [SubjectKey.ofElement?, SubjectKey.element, Der.sequenceMembers?_sequence, bind,
    Option.bind, algorithmOf?_element algorithm, Der.bitsOf?_bitString proper]

private theorem Extension.ofElement?_element {extension : Extension}
    (known : (Oid.arcs? extension.oid).isSome = true) :
    Extension.ofElement? extension.element = some extension := by
  have named : Der.contentsOf? 0x06 (Der.oid extension.oid) = some extension.oid := rfl
  have value : Der.contentsOf? 0x04 (Der.octetString extension.value) = some extension.value := rfl
  obtain ⟨oid, critical, octets⟩ := extension
  cases critical with
  | false =>
    simp only [Extension.ofElement?, Extension.element, Der.sequenceMembers?_sequence, bind,
      Option.bind, Bool.false_eq_true, if_false, List.nil_append]
    simp only [named, value, known, if_true]
  | true =>
    simp only [Extension.ofElement?, Extension.element, Der.sequenceMembers?_sequence, bind,
      Option.bind, if_true, List.cons_append, List.nil_append]
    simp only [named, value, known, if_true]

/-- The body can be read: it is of the third version, without identifiers of the issuer and of the
subject, and all its parts can be read. -/
structure Body.Readable (body : Body) : Prop where
  version : body.version = thirdVersion
  algorithm : body.algorithm.Readable
  notBefore : Stamp.ofElement? body.notBefore.element = some body.notBefore
  notAfter : Stamp.ofElement? body.notAfter.element = some body.notAfter
  key : body.key.Readable
  issuerId : body.issuerId = none
  subjectId : body.subjectId = none
  extensions : ∀ extensions, body.extensions = some extensions →
    ∀ extension ∈ extensions, (Oid.arcs? extension.oid).isSome = true

namespace Body

private theorem readVersion?_third (rest : List Der.Element) :
    readVersion? (Der.wrapped 0 (Der.integer thirdVersion.toNat) :: rest) =
      some (thirdVersion, rest) := by
  have tag : (Der.wrapped 0 (Der.integer thirdVersion.toNat)).tag = 0xa0 := rfl
  have number : Der.element? (Der.wrapped 0 (Der.integer thirdVersion.toNat)).contents =
      some (Der.integer thirdVersion.toNat) := Der.element?_encode _
  simp only [readVersion?, tag, number, Der.natOf?_integer, bind, Option.bind, if_true]
  rfl

/-- No identifier is found where the extensions start. -/
private theorem readId?_extensionElements (body : Body) {number : UInt8}
    (apart : 0x80 + number ≠ 0xa3) :
    readId? number body.extensionElements = some (none, body.extensionElements) := by
  unfold extensionElements
  cases body.extensions with
  | none => rfl
  | some extensions => exact if_neg apart.symm

private theorem readExtensions?_extensionElements {body : Body}
    (known : ∀ extensions, body.extensions = some extensions →
      ∀ extension ∈ extensions, (Oid.arcs? extension.oid).isSome = true) :
    readExtensions? body.extensionElements = some body.extensions := by
  unfold extensionElements
  cases carried : body.extensions with
  | none => rfl
  | some extensions =>
    have contents : Der.contentsOf? 0xa3
        (Der.wrapped 3 (Der.sequence (extensions.map Extension.element))) =
        some (Der.sequence (extensions.map Extension.element)).encode := rfl
    have members : (extensions.map Extension.element).mapM Extension.ofElement? =
        some extensions :=
      mapM_map_eq_some fun extension member =>
        Extension.ofElement?_element (known extensions carried extension member)
    simp only [Option.map_some, Option.toList_some, readExtensions?, contents, bind, Option.bind,
      Der.element?_encode, Der.sequenceMembers?_sequence, members]

private theorem ofElement?_element {body : Body} (readable : body.Readable) :
    ofElement? body.element = some body := by
  have noIssuerId := readId?_extensionElements body (show (0x80 : UInt8) + 1 ≠ 0xa3 by decide)
  have noSubjectId := readId?_extensionElements body (show (0x80 : UInt8) + 2 ≠ 0xa3 by decide)
  have extensionsRead := readExtensions?_extensionElements readable.extensions
  have versions : body.versionElements = [Der.wrapped 0 (Der.integer thirdVersion.toNat)] := by
    rw [versionElements, readable.version]
    rfl
  have ids : body.idElements = [] := by
    rw [idElements, readable.issuerId, readable.subjectId]
    rfl
  have validity : Der.sequenceMembers? (Der.sequence [body.notBefore.element,
      body.notAfter.element]) = some [body.notBefore.element, body.notAfter.element] :=
    Der.sequenceMembers?_sequence _
  simp only [ofElement?, element, Der.sequenceMembers?_sequence, versions, ids, List.cons_append,
    List.nil_append, bind, Option.bind, readVersion?_third, noIssuerId, noSubjectId,
    Der.intOf?_signed, algorithmOf?_element readable.algorithm, Name.ofElement?_element,
    readable.notBefore, readable.notAfter, SubjectKey.ofElement?_element readable.key,
    extensionsRead]
  obtain ⟨version, serial, algorithm, issuer, notBefore, notAfter, subject, key, issuerId,
    subjectId, extensions⟩ := body
  obtain ⟨rfl, -, -, -, -, rfl, rfl, -⟩ := readable
  rfl

end Body

namespace Certificate

/-- The certificate can be read. -/
structure Readable (certificate : Certificate) : Prop where
  body : certificate.body.Readable
  algorithm : certificate.algorithm.Readable
  signature : certificate.signature.isProper = true

private theorem ofElement?_element {certificate : Certificate} (readable : certificate.Readable) :
    ofElement? certificate.element = some certificate := by
  simp only [ofElement?, element, Der.sequenceMembers?_sequence, bind, Option.bind,
    Body.ofElement?_element readable.body, algorithmOf?_element readable.algorithm,
    Der.bitsOf?_bitString readable.signature]

theorem decode_encode {certificate : Certificate} (readable : certificate.Readable) :
    decode certificate.encode = .ok certificate := by
  have read : (Der.element? certificate.encode >>= ofElement?) = some certificate := by
    simp only [encode, Der.element?_encode, bind, Option.bind, ofElement?_element readable]
  simp only [decode, read, if_true, readable.body.version, or_true]

theorem isLabel_label : Armor.IsLabel label := by
  decide

/-- The first certificate of a file is read from it, whatever others follow. -/
theorem ofPem_append {certificate : Certificate} (readable : certificate.Readable)
    (others : List Certificate) :
    ofPem (certificate.pem ++ others.flatMap pem) = .ok certificate := by
  have armored : certificate.pem ++ others.flatMap pem =
      Armor.armoredAll ((certificate :: others).map fun other => (label, other.encode)) := by
    rw [Armor.armoredAll, List.flatMap_map]
    rfl
  have labels : ∀ block ∈ (certificate :: others).map fun other => (label, other.encode),
      Armor.IsLabel block.1 := by
    intro block member
    obtain ⟨other, -, rfl⟩ := List.mem_map.mp member
    exact isLabel_label
  have found : Armor.findBlock? [label, oldLabel] (certificate.pem ++ others.flatMap pem) =
      some ⟨label, [], certificate.encode⟩ := by
    rw [armored, Armor.findBlock?_armoredAll labels]
    simp
  rw [ofPem, found]
  exact decode_encode readable

end Certificate

end CertGraph
