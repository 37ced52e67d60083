import CertGraph.Armor.Block
import CertGraph.KeyFault
import CertGraph.Rsa.Key

/- How private keys are read from armor. -/
set_option autoImplicit false
set_option relaxedAutoImplicit false

namespace CertGraph.Rsa.PrivateKey

open CertGraph.Armor (Block findBlock?)

/-- The label of a bare RSA key. -/
def bareLabel : Octets :=
  Octets.ofAscii ['R', 'S', 'A', ' '] ++ infoLabel

/-- The label of a bare key over elliptic curves. -/
def curveLabel : Octets :=
  Octets.ofAscii ['E', 'C', ' '] ++ infoLabel

/-- The label of a bare DSA key. -/
def dsaLabel : Octets :=
  Octets.ofAscii ['D', 'S', 'A', ' '] ++ infoLabel

/-- The label of a key under a password. -/
def encryptedLabel : Octets :=
  Octets.ofAscii ['E', 'N', 'C', 'R', 'Y', 'P', 'T', 'E', 'D', ' '] ++ infoLabel

/-- The RSA key that octets hold. -/
def ofOctets (octets : Octets) : Except KeyFault PrivateKey :=
  match Der.element? octets >>= ofElement? with
  | some key => .ok key
  | none => .error .unreadable

/-- What follows a key and the name of its algorithm: nothing, or attributes. -/
private def isInfoTail : List Der.Element → Bool
  | [] => true
  | [attributes] =>
    attributes.tag = 0xa0 && (Der.elements? attributes.contents).any fun members =>
      members.all fun member => (Der.sequenceMembers? member).isSome
  | _ => false

/-- The key of an algorithm that octets hold. -/
private def ofAlgorithm (algorithm : Algorithm) (octets : Octets) : Except KeyFault PrivateKey :=
  if algorithm.oid = Oid.rsaEncryption ∨ algorithm.oid = Oid.rsaPss then
    if algorithm.isPermitted then ofOctets octets else .error .unreadable
  else .error (.ofAlgorithm algorithm octets)

/-- The key that octets hold beside the name of its algorithm. -/
def ofInfo (octets : Octets) : Except KeyFault PrivateKey :=
  match Der.element? octets >>= Der.sequenceMembers? with
  | some (version :: algorithm :: contents :: rest) =>
    match Algorithm.ofElement? algorithm with
    | some algorithm =>
      if version = Der.integer 0 ∧ contents.tag = 0x04 ∧ isInfoTail rest then
        ofAlgorithm algorithm contents.contents
      else .error .unreadable
    | none => .error .unreadable
  | _ => .error .unreadable

/-- The fault of a key under a password, which names an algorithm. -/
private def encryptedFault (octets : Octets) : KeyFault :=
  match Der.element? octets >>= Der.sequenceMembers? with
  | some [algorithm, contents] =>
    if (Algorithm.ofElement? algorithm).isSome ∧ contents.tag = 0x04 then .encrypted
    else .unreadable
  | _ => .unreadable

/-- The key of a block without a password of its own. -/
private def ofPlainBlock (block : Block) : Except KeyFault PrivateKey :=
  if block.label = infoLabel then ofInfo block.contents
  else if block.label = bareLabel then ofOctets block.contents
  else if block.label = curveLabel then .error (.ofCurveKey none block.contents)
  else if block.label = dsaLabel then .error (.ofDsaKey block.contents)
  else .error (encryptedFault block.contents)

/-- The key of a block. Its headers may say that the block is under a password, and how. -/
def ofBlock (block : Block) : Except KeyFault PrivateKey :=
  match block.header? "Proc-Type" with
  | none => ofPlainBlock block
  | some kind =>
    let isKeyed := ((block.header? "DEK-Info").getD "").toList.contains ','
    .error (if kind = "4,ENCRYPTED" ∧ isKeyed then .encrypted else .unreadable)

/-- The key in the first block of a text that is labelled as one. -/
def ofPem (text : Octets) : Except KeyFault PrivateKey :=
  match findBlock? [infoLabel, bareLabel, curveLabel, dsaLabel, encryptedLabel] text with
  | none => .error .unreadable
  | some block => ofBlock block

end CertGraph.Rsa.PrivateKey
