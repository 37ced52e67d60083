import CertGraph.Certificate.Constraints
import CertGraph.Rsa.Key

/- What issuing yields: key pairs, authorities, bundles, and the files they are kept in. -/
set_option autoImplicit false
set_option relaxedAutoImplicit false

namespace CertGraph

/-- A file to keep: its name, its contents and its permission bits. -/
structure AssetFile where
  filename : String
  data : Octets
  mode : Nat
  mode_lt : mode < 0o10000
deriving DecidableEq

/-- A file to keep, with the permission bits of a mode. -/
def AssetFile.make (filename : String) (data : Octets) (mode : Nat) : AssetFile :=
  ⟨filename, data, mode % 0o10000, Nat.mod_lt mode (by decide)⟩

/-- Permission to read for everyone, to write for the owner. -/
def sharedMode : Nat := 0o644

theorem sharedMode_lt : sharedMode < 0o10000 := by decide

/-- Permission to read and write for the owner alone. -/
def privateMode : Nat := 0o600

theorem privateMode_lt : privateMode < 0o10000 := by decide

/-- Whether the file of a signed certificate goes on with the certificate of its issuer. -/
inductive ChainPolicy where
  | doNotAppendParent
  | appendParent
deriving DecidableEq

/-- A key and its certificate under the name they are kept by. -/
structure Pair where
  baseName : String
  key : Rsa.PrivateKey
  certificate : Certificate
  certPem : Octets
deriving DecidableEq

namespace Pair

/-- A pair; without other contents its certificate file holds the certificate. -/
def make (baseName : String) (key : Rsa.PrivateKey) (certificate : Certificate)
    (certPem : Octets) : Pair :=
  ⟨baseName, key, certificate, if certPem = [] then certificate.pem else certPem⟩

/-- The name of the file of the key. -/
def keyFilename (pair : Pair) : String := pair.baseName ++ ".key"

/-- The name of the file of the certificate. -/
def certFilename (pair : Pair) : String := pair.baseName ++ ".crt"

/-- The key, for its owner only, and the certificate. -/
def files (pair : Pair) : List AssetFile :=
  [⟨pair.keyFilename, pair.key.pem, privateMode, privateMode_lt⟩,
    ⟨pair.certFilename, pair.certPem, sharedMode, sharedMode_lt⟩]

end Pair

/-- A pair whose certificate may sign others. -/
structure Authority where
  pair : Pair
  certified : pair.certificate.isAuthority? = some true

/-- The pair as an authority, if its certificate calls it one in extensions without fault. -/
def Authority.make (pair : Pair) : Except Failure Authority :=
  match pair.certificate.extensionFault? with
  | some fault => .error (.extension fault)
  | none =>
    if certified : pair.certificate.isAuthority? = some true then .ok ⟨pair, certified⟩
    else if pair.certificate.isAuthority? = none then
      .error (.configuration (.constraintsMissing pair.baseName))
    else .error (.configuration (.notAuthority pair.baseName))

/-- A pair that was issued, as an authority or not. -/
inductive Issued where
  | leaf (pair : Pair)
  | authority (authority : Authority)

namespace Issued

/-- The pair in either case. -/
def pair : Issued → Pair
  | .leaf pair => pair
  | .authority holder => holder.pair

/-- The pair as an authority, if it was issued as one. -/
def authority? : Issued → Option Authority
  | .leaf _ => none
  | .authority holder => some holder

end Issued

/-- The certificates of several authorities, in order. -/
structure Bundle where
  name : String
  certificates : List Octets
deriving DecidableEq

namespace Bundle

/-- The certificates one after the other. -/
def data (bundle : Bundle) : Octets :=
  bundle.certificates.flatten

/-- The name of the file. -/
def filename (bundle : Bundle) : String :=
  bundle.name ++ ".crt"

/-- The one file of the bundle. -/
def files (bundle : Bundle) : List AssetFile :=
  [⟨bundle.filename, bundle.data, sharedMode, sharedMode_lt⟩]

end Bundle

end CertGraph
