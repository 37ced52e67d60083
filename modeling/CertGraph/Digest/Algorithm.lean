import CertGraph.Digest.Sha1
import CertGraph.Digest.Sha256
import CertGraph.Digest.Sha3
import CertGraph.Digest.Sha512
import CertGraph.Oid

/- The digests over which signatures may be made, and their identifiers. -/
set_option autoImplicit false
set_option relaxedAutoImplicit false

namespace CertGraph.Digest

/-- A digest. -/
inductive Algorithm where
  | sha1
  | sha224
  | sha256
  | sha384
  | sha512
  | sha3x224
  | sha3x256
  | sha3x384
  | sha3x512
deriving DecidableEq

namespace Algorithm

/-- Every digest. -/
def all : List Algorithm :=
  [.sha1, .sha224, .sha256, .sha384, .sha512, .sha3x224, .sha3x256, .sha3x384, .sha3x512]

/-- The identifier of a digest. -/
def oid : Algorithm → Octets
  | .sha1 => Oid.sha1
  | .sha224 => Oid.sha224
  | .sha256 => Oid.sha256
  | .sha384 => Oid.sha384
  | .sha512 => Oid.sha512
  | .sha3x224 => Oid.sha3x224
  | .sha3x256 => Oid.sha3x256
  | .sha3x384 => Oid.sha3x384
  | .sha3x512 => Oid.sha3x512

/-- The digest of an identifier. -/
def ofOid? (oid : Octets) : Option Algorithm :=
  all.find? fun algorithm => algorithm.oid = oid

/-- The number of octets in a digest. -/
def size : Algorithm → Nat
  | .sha1 => 20
  | .sha224 => 28
  | .sha256 => 32
  | .sha384 => 48
  | .sha512 => 64
  | .sha3x224 => 28
  | .sha3x256 => 32
  | .sha3x384 => 48
  | .sha3x512 => 64

/-- The digest of a message. -/
def digest (algorithm : Algorithm) (message : Octets) : Octets :=
  match algorithm with
  | .sha1 => Sha1.digest message
  | .sha224 => Sha224.digest message
  | .sha256 => Sha256.digest message
  | .sha384 => Sha384.digest message
  | .sha512 => Sha512.digest message
  | sha3 => Sha3.digest sha3.size message

end Algorithm

end CertGraph.Digest
