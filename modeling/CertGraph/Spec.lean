import CertGraph.InstallConfig
import CertGraph.Subject
import CertGraph.Usage

/- Certificate specs: everything needed to issue one certificate, apart from its issuer. -/
set_option autoImplicit false
set_option relaxedAutoImplicit false

namespace CertGraph

open CertGraph.Net (Address)
open CertGraph.Time (Duration)

/-- A list of names as it is handed over: a proper list, or a single text in its place. -/
inductive Listing (α : Type) where
  | single (text : String)
  | many (members : List α)

/-- An address, parsed already or still as text. -/
inductive AddressSource where
  | parsed (address : Address)
  | text (literal : String)

namespace AddressSource

/-- The address meant. -/
def read : AddressSource → Except ConfigurationFault Address
  | .parsed address => .ok address
  | .text literal =>
    match Address.ofText? literal with
    | some address => .ok address
    | none => .error (.ipAddress literal)

end AddressSource

/-- What a spec is made from, unchecked. -/
structure SpecDraft where
  subject : Subject
  validity : Duration
  usages : KeyUsages
  purposes : List Purpose
  isAuthority : Bool
  dnsNames : Listing String
  addresses : Listing AddressSource

/-- A checked spec: it is valid for some time, an authority may sign certificates, and no name is
empty. -/
structure Spec where
  subject : Subject
  validity : Duration
  usages : KeyUsages
  purposes : List Purpose
  isAuthority : Bool
  dnsNames : List String
  addresses : List Address
  validity_pos : 0 < validity.micros
  authority_signs : isAuthority = true → usages.has .certSign = true
  dnsNames_ne : ∀ name ∈ dnsNames, name ≠ ""

/-- The members of a list of names, if it is one. -/
private def membersOf {α : Type} (names : NameList) :
    Listing α → Except ConfigurationFault (List α)
  | .single _ => .error (.notAList names)
  | .many members => .ok members

/-- Check a draft; addresses are read last, in order. -/
def SpecDraft.check (draft : SpecDraft) : Except ConfigurationFault Spec :=
  if validity_pos : 0 < draft.validity.micros then
    if signs : draft.isAuthority = true → draft.usages.has .certSign = true then do
      let dnsNames ← membersOf .dnsNames draft.dnsNames
      let sources ← membersOf .ipAddresses draft.addresses
      if named : ∀ name ∈ dnsNames, name ≠ "" then
        let addresses ← sources.mapM AddressSource.read
        .ok ⟨draft.subject, draft.validity, draft.usages, draft.purposes, draft.isAuthority,
          dnsNames, addresses, validity_pos, signs, named⟩
      else .error .emptyDnsName
    else .error (.certSignMissing draft.subject.commonName)
  else .error (.validityNotPositive draft.validity)

end CertGraph
