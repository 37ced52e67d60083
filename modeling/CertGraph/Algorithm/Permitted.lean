import CertGraph.Algorithm.Salted

/- Which parameters an algorithm may have. -/
set_option autoImplicit false
set_option relaxedAutoImplicit false

namespace CertGraph.Algorithm

/-- Algorithms whose parameters are empty or left out: RSA keys, digests, and signatures over
digests. -/
def plainOids : List Octets :=
  [Oid.rsaEncryption, Oid.md5WithRsa, Oid.sha1WithRsa, Oid.sha1WithRsaOld, Oid.sha224WithRsa,
    Oid.sha256WithRsa, Oid.sha384WithRsa, Oid.sha512WithRsa, Oid.sha3x224WithRsa,
    Oid.sha3x256WithRsa, Oid.sha3x384WithRsa, Oid.sha3x512WithRsa, Oid.sha224WithCurve,
    Oid.sha256WithCurve, Oid.sha384WithCurve, Oid.sha512WithCurve] ++
    Digest.Algorithm.all.map Digest.Algorithm.oid

/-- Algorithms that have no parameters. -/
def bareOids : List Octets :=
  [Oid.x25519, Oid.x448, Oid.ed25519, Oid.ed448]

/-- Whether an element names a curve, inherits it, or spells it out. -/
private def isCurve (element : Der.Element) : Bool :=
  if element.tag = 0x06 then (Oid.arcs? element.contents).isSome
  else element = Der.null || (Der.sequenceMembers? element).isSome

/-- Whether the parameters are such as the algorithm may have; those of other algorithms are not
looked into. -/
def isPermitted (algorithm : Algorithm) : Bool :=
  if algorithm.oid ∈ plainOids then algorithm.isPlain
  else if algorithm.oid ∈ bareOids then algorithm.parameters.isNone
  else if algorithm.oid = Oid.rsaPss then
    algorithm.parameters.all fun parameters => (Salted.ofElement? parameters).isSome
  else if algorithm.oid = Oid.ellipticCurve then algorithm.parameters.any isCurve
  else if algorithm.oid = Oid.dsa then
    algorithm.parameters.any fun parameters =>
      ((Der.sequenceMembers? parameters).getD []).length = 3
  else true

end CertGraph.Algorithm
