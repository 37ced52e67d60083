import CertGraph.Certificate.Extensions
import Mathlib.Data.List.Nodup

/- Which extensions a spec gives, and in which order. -/
set_option autoImplicit false
set_option relaxedAutoImplicit false

namespace CertGraph.Extension

theorem subjectAltName_eq {dnsNames : List String} {addresses : List Net.Address}
    {extension : Extension} (made : subjectAltName dnsNames addresses = .ok extension) :
    ∃ names, dnsNames.mapM dnsElement = .ok names ∧
      extension = ⟨Oid.subjectAltName, false,
        (Der.sequence (names ++ addresses.map addressElement)).encode⟩ := by
  unfold subjectAltName at made
  cases named : dnsNames.mapM dnsElement with
  | error fault =>
    rw [named] at made
    cases made
  | ok names =>
    rw [named] at made
    cases made
    exact ⟨names, rfl, rfl⟩

theorem oid_of_subjectAltName {dnsNames : List String} {addresses : List Net.Address}
    {extension : Extension} (made : subjectAltName dnsNames addresses = .ok extension) :
    extension.oid = Oid.subjectAltName := by
  obtain ⟨names, -, rfl⟩ := subjectAltName_eq made
  rfl

section OfSpec

variable {spec : Spec} {key : Rsa.PublicKey} {extensions : List Extension} {extension : Extension}

/-- The extensions of a spec in order; the last names the subject, if the spec has names for it. -/
theorem ofSpec_eq (made : ofSpec spec key = .ok extensions) :
    ∃ names : List Extension, extensions =
        [basicConstraints spec.isAuthority, subjectKeyIdentifier key] ++
          (if spec.usages = KeyUsages.none then [] else [keyUsage spec.usages]) ++
          (if spec.purposes = [] then [] else [extendedKeyUsage spec.purposes]) ++ names ∧
      ((spec.dnsNames = [] ∧ spec.addresses = []) ∧ names = [] ∨
        ¬ (spec.dnsNames = [] ∧ spec.addresses = []) ∧ ∃ extension, names = [extension] ∧
          subjectAltName spec.dnsNames spec.addresses = .ok extension) := by
  unfold ofSpec at made
  by_cases unnamed : spec.dnsNames = [] ∧ spec.addresses = []
  · simp only [unnamed, and_self, if_true] at made
    cases made
    exact ⟨[], rfl, .inl ⟨unnamed, rfl⟩⟩
  · simp only [unnamed, if_false] at made
    cases named : subjectAltName spec.dnsNames spec.addresses with
    | error fault =>
      rw [named] at made
      cases made
    | ok extension =>
      rw [named] at made
      cases made
      exact ⟨[extension], rfl, .inr ⟨unnamed, extension, rfl, rfl⟩⟩

/-- The kinds of extensions that specs give, in order. -/
def specKinds : List Octets :=
  [Oid.basicConstraints, Oid.subjectKeyIdentifier, Oid.keyUsage, Oid.extendedKeyUsage,
    Oid.subjectAltName]

/-- Of each kind there is at most one. -/
theorem ofSpec_oids (made : ofSpec spec key = .ok extensions) :
    (extensions.map Extension.oid).Sublist specKinds := by
  obtain ⟨names, rfl, named⟩ := ofSpec_eq made
  rw [List.map_append, List.map_append, List.map_append]
  show List.Sublist _ ([Oid.basicConstraints, Oid.subjectKeyIdentifier] ++ [Oid.keyUsage] ++
    [Oid.extendedKeyUsage] ++ [Oid.subjectAltName])
  refine .append (.append (.append (List.Sublist.refl _) ?_) ?_) ?_
  · split
    · exact List.nil_sublist [Oid.keyUsage]
    · exact List.Sublist.refl _
  · split
    · exact List.nil_sublist [Oid.extendedKeyUsage]
    · exact List.Sublist.refl _
  · rcases named with ⟨-, rfl⟩ | ⟨-, extension, rfl, isNames⟩
    · exact List.nil_sublist [Oid.subjectAltName]
    · rw [List.map_singleton, oid_of_subjectAltName isNames]

theorem oid_mem_specKinds (made : ofSpec spec key = .ok extensions)
    (member : extension ∈ extensions) : extension.oid ∈ specKinds :=
  (ofSpec_oids made).subset (List.mem_map_of_mem member)

/-- An extension that a spec gives for a key. -/
inductive IsOf (spec : Spec) (key : Rsa.PublicKey) : Extension → Prop
  | basicConstraints : IsOf spec key (basicConstraints spec.isAuthority)
  | subjectKeyIdentifier : IsOf spec key (subjectKeyIdentifier key)
  | keyUsage (used : spec.usages ≠ KeyUsages.none) : IsOf spec key (keyUsage spec.usages)
  | extendedKeyUsage (purposed : spec.purposes ≠ []) :
      IsOf spec key (extendedKeyUsage spec.purposes)
  | subjectAltName {extension : Extension} (named : ¬ (spec.dnsNames = [] ∧ spec.addresses = []))
      (made : subjectAltName spec.dnsNames spec.addresses = .ok extension) : IsOf spec key extension

theorem mem_ofSpec_iff (made : ofSpec spec key = .ok extensions) :
    extension ∈ extensions ↔ extension.IsOf spec key := by
  obtain ⟨names, rfl, named⟩ := ofSpec_eq made
  constructor
  · intro member
    simp only [List.mem_append] at member
    rcases member with ((member | member) | member) | member
    · rcases List.mem_cons.mp member with rfl | member
      · exact .basicConstraints
      · rw [List.mem_singleton.mp member]
        exact .subjectKeyIdentifier
    · split at member
      · cases member
      · rename_i used
        rw [List.mem_singleton.mp member]
        exact .keyUsage used
    · split at member
      · cases member
      · rename_i purposed
        rw [List.mem_singleton.mp member]
        exact .extendedKeyUsage purposed
    · rcases named with ⟨-, rfl⟩ | ⟨named, other, rfl, isNames⟩
      · cases member
      · rw [List.mem_singleton.mp member]
        exact .subjectAltName named isNames
  · intro isOf
    cases isOf with
    | basicConstraints => simp
    | subjectKeyIdentifier => simp
    | keyUsage used => simp [used]
    | extendedKeyUsage purposed => simp [purposed]
    | subjectAltName nonempty isNames =>
      rcases named with ⟨unnamed, -⟩ | ⟨-, other, rfl, isNamesToo⟩
      · exact absurd unnamed nonempty
      · rw [Except.ok.inj (isNames.symm.trans isNamesToo)]
        simp

end OfSpec

end CertGraph.Extension
