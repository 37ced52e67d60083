import CertGraph.Certificate.Basic
import CertGraph.Net.Address
import CertGraph.Rsa.Key
import CertGraph.Spec

/- The extensions that issued certificates carry. -/
set_option autoImplicit false
set_option relaxedAutoImplicit false

namespace CertGraph

open CertGraph.Net (Address)

namespace Extension

/-- Whether the subject is an authority. -/
def basicConstraints (isAuthority : Bool) : Extension :=
  ⟨Oid.basicConstraints, true,
    (Der.sequence (if isAuthority then [Der.boolean true] else [])).encode⟩

/-- The identifier of the certified key. -/
def subjectKeyIdentifier (key : Rsa.PublicKey) : Extension :=
  ⟨Oid.subjectKeyIdentifier, false, (Der.octetString key.identifier).encode⟩

/-- Usage flags as a string of bits, first flag first, up to the last flag that is set. -/
def usageElement (usages : KeyUsages) : Der.Element :=
  match usages.toList.getLast? with
  | none => Der.bitString ⟨0, []⟩
  | some last =>
    let octet := usages.toList.foldl (fun octet usage => octet + 128 >>> usage.index) 0
    Der.bitString ⟨UInt8.ofNat (7 - last.index), [UInt8.ofNat octet]⟩

/-- The usage flags of the key. -/
def keyUsage (usages : KeyUsages) : Extension :=
  ⟨Oid.keyUsage, true, (usageElement usages).encode⟩

/-- The identifier of a purpose. -/
def purposeOid : Purpose → Octets
  | .serverAuth => Oid.serverAuth
  | .clientAuth => Oid.clientAuth

/-- The extended purposes of the key. -/
def extendedKeyUsage (purposes : List Purpose) : Extension :=
  ⟨Oid.extendedKeyUsage, false,
    (Der.sequence (purposes.map fun purpose => Der.oid (purposeOid purpose))).encode⟩

/-- A DNS name; only ASCII can be carried. -/
def dnsElement (name : String) : Except ValueFault Der.Element :=
  let chars := name.toList
  if chars.all fun c => c.toNat < 128 then .ok (Der.tagged 2 (Octets.ofAscii chars))
  else .error .dnsNameNotAscii

/-- An address, without its zone. -/
def addressElement (address : Address) : Der.Element :=
  Der.tagged 7 address.octets

/-- DNS names and addresses of the subject, the names first. -/
def subjectAltName (dnsNames : List String) (addresses : List Address) :
    Except ValueFault Extension := do
  let names ← dnsNames.mapM dnsElement
  .ok ⟨Oid.subjectAltName, false,
    (Der.sequence (names ++ addresses.map addressElement)).encode⟩

/-- The identifier of the issuer's key. -/
def authorityKeyIdentifier (key : Rsa.PublicKey) : Extension :=
  ⟨Oid.authorityKeyIdentifier, false,
    (Der.sequence [Der.tagged 0 key.identifier]).encode⟩

/-- The extensions of a spec; usages, purposes and names only where the spec has some. -/
def ofSpec (spec : Spec) (key : Rsa.PublicKey) : Except ValueFault (List Extension) := do
  let usages := if spec.usages = KeyUsages.none then [] else [keyUsage spec.usages]
  let purposes := if spec.purposes = [] then [] else [extendedKeyUsage spec.purposes]
  let names ←
    if spec.dnsNames = [] ∧ spec.addresses = [] then .ok []
    else do .ok [← subjectAltName spec.dnsNames spec.addresses]
  .ok ([basicConstraints spec.isAuthority, subjectKeyIdentifier key] ++ usages ++ purposes ++
    names)

end Extension

end CertGraph
