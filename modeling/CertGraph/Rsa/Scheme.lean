import CertGraph.Algorithm.Salted
import CertGraph.Rsa.SaltedSignature
import CertGraph.Rsa.Signature

/- Schemes of RSA signatures, as algorithms name them. -/
set_option autoImplicit false
set_option relaxedAutoImplicit false

namespace CertGraph.Rsa

/-- How a signature covers a message: by its digest alone, or with a salt under a mask. -/
inductive Scheme where
  | plain (digest : Digest.Algorithm)
  | salted (digest maskDigest : Digest.Algorithm) (saltLength : Nat)
deriving DecidableEq

namespace Scheme

/-- Signatures over a digest alone that are accepted, by their identifiers. -/
def plainDigests : List (Octets × Digest.Algorithm) :=
  [(Oid.sha224WithRsa, .sha224), (Oid.sha256WithRsa, .sha256), (Oid.sha384WithRsa, .sha384),
    (Oid.sha512WithRsa, .sha512), (Oid.sha3x224WithRsa, .sha3x224),
    (Oid.sha3x256WithRsa, .sha3x256), (Oid.sha3x384WithRsa, .sha3x384),
    (Oid.sha3x512WithRsa, .sha3x512)]

/-- The scheme with a salt that parameters describe. -/
def ofSalted? (salted : Algorithm.Salted) : Option Scheme := do
  let digest ← Digest.Algorithm.ofOid? salted.digest.oid
  let maskDigest ← Digest.Algorithm.ofOid? salted.maskDigest.oid
  if salted.mask = Oid.maskGeneration then some (.salted digest maskDigest salted.saltLength)
  else none

/-- The scheme that an algorithm names. -/
def ofAlgorithm? (algorithm : Algorithm) : Option Scheme :=
  if algorithm.oid = Oid.rsaPss then do
    ofSalted? (← Algorithm.Salted.ofElement? (← algorithm.parameters))
  else (plainDigests.lookup algorithm.oid).map plain

/-- Whether a signature of a message was made with the private half of a key. -/
def verifies (scheme : Scheme) (key : PublicKey) (message signature : Octets) : Bool :=
  match scheme with
  | .plain digest => key.verifies digest message signature
  | .salted digest maskDigest saltLength =>
    key.verifiesSalted digest maskDigest saltLength message signature

end Scheme

end CertGraph.Rsa
