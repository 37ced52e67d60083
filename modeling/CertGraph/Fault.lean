import CertGraph.Net.Network
import CertGraph.Oid
import CertGraph.Time.Duration

/- Everything that can go wrong on the way to a certificate, by cause, and its wording. -/
set_option autoImplicit false
set_option relaxedAutoImplicit false

namespace CertGraph

open CertGraph.Net (Address Network NetworkFault)
open CertGraph.Text (quoted)

/-- The lists of alternative names that a spec has. -/
inductive NameList where
  | dnsNames
  | ipAddresses

/-- A list of alternative names as messages call it. -/
def NameList.label : NameList → String
  | .dnsNames => "dns_names"
  | .ipAddresses => "ip_addresses"

/-- Values that an encoder, a key source or a reader of addresses refuses, or that cannot be shown. -/
inductive ValueFault where
  | network (fault : NetworkFault)
  | address (text : String)
  | commonNameLength (size : Nat)
  | dnsNameNotAscii
  | startBefore1950
  | keySizeTooSmall
  | keySizeMissing
  | keySource (message : String)
  | modulusTooShort
  | nameNotText
  | tooManyDigits

/-- The wording of a refused value. -/
def ValueFault.message : ValueFault → String
  | .network fault => fault.message
  | .address text => quoted text ++ " does not appear to be an IPv4 or IPv6 address"
  | .commonNameLength size =>
    "Attribute's length must be >= 1 and <= 64, but it was " ++ toString size
  | .dnsNameNotAscii =>
    "DNSName values should be passed as an A-label string. This means unicode characters " ++
      "should be encoded via a library like idna."
  | .startBefore1950 => "The not valid before date must be on or after 1950 January 1)."
  | .keySizeTooSmall => "key_size must be at least 1024-bits."
  | .keySizeMissing => "'<' not supported between instances of 'list' and 'int'"
  | .keySource message => message
  | .modulusTooShort =>
    "Digest or salt length too long for key size. Use a larger key or shorter salt length " ++
      "if you are specifying a PSS salt"
  | .nameNotText => "error parsing asn1 value: ParseError \x7b kind: InvalidValue \x7d"
  | .tooManyDigits =>
    "Exceeds the limit (" ++ toString Text.maxDigits ++ " digits) for integer string conversion; " ++
      "use sys.set_int_max_str_digits() to increase the limit"

/-- Invalid input: malformed names and networks, inconsistent specs, misuse of a catalog. -/
inductive ConfigurationFault where
  | cidr (text : String) (fault : NetworkFault)
  | serviceCidr (text : String) (fault : NetworkFault)
  | offsetOutside (shown : String) (network : Network)
  | apiAddressMissing
  | validityNotPositive (validity : Time.Duration)
  | certSignMissing (commonName : String)
  | notAList (names : NameList)
  | emptyDnsName
  | ipAddress (text : String)
  | selfSignedNotAuthority (baseName : String)
  | issuerNotAuthority (baseName : String)
  | constraintsMissing (baseName : String)
  | notAuthority (baseName : String)
  | bundleEmpty (name : String)
  | bundleMemberEmpty (position : Nat) (name : String)
  | alreadyRegistered (key : String)
  | alreadyGenerated (key : String)
  | factoryMismatch (key built : String)
  | assetNotAuthority (name : String)
  | assetNotInstallConfig (key : String)

/-- The wording of invalid input. -/
def ConfigurationFault.message : ConfigurationFault → String
  | .cidr text fault => "invalid CIDR " ++ quoted text ++ ": " ++ fault.message
  | .serviceCidr text fault => "invalid service CIDR " ++ quoted text ++ ": " ++ fault.message
  | .offsetOutside shown network =>
    "offset " ++ shown ++ " is outside " ++ network.text ++ " (" ++ toString network.size ++
      " addresses)"
  | .apiAddressMissing => "api_address is required"
  | .validityNotPositive validity => "validity must be positive, got " ++ validity.text
  | .certSignMissing commonName =>
    "CA certificate " ++ quoted commonName ++ " must include the cert-sign key usage"
  | .notAList names => names.label ++ " must be a sequence, not a single string"
  | .emptyDnsName => "DNS subject alternative names must not be empty"
  | .ipAddress text => "invalid IP subject alternative name " ++ quoted text
  | .selfSignedNotAuthority baseName =>
    "self-signed certificate " ++ baseName ++ " must be a CA"
  | .issuerNotAuthority baseName => "issuer of " ++ baseName ++ " is not a signing authority"
  | .constraintsMissing baseName => baseName ++ " has no basic constraints"
  | .notAuthority baseName => baseName ++ " is not a certificate authority"
  | .bundleEmpty name => "bundle " ++ name ++ " needs at least one authority"
  | .bundleMemberEmpty position name =>
    "authority " ++ toString position ++ " of bundle " ++ name ++ " has no certificate"
  | .alreadyRegistered key => "asset " ++ quoted key ++ " is already registered"
  | .alreadyGenerated key => "asset " ++ quoted key ++ " was already generated"
  | .factoryMismatch key built => "factory for " ++ quoted key ++ " built asset " ++ quoted built
  | .assetNotAuthority name => "asset " ++ quoted name ++ " is not a signing authority"
  | .assetNotInstallConfig key => "asset " ++ quoted key ++ " is not an install config"

/-- What the fault was found by, if by a reader of values. -/
def ConfigurationFault.cause? : ConfigurationFault → Option ValueFault
  | .cidr _ fault => some (.network fault)
  | .serviceCidr _ fault => some (.network fault)
  | .ipAddress text => some (.address text)
  | _ => none

/-- Key generation or signing failed. -/
inductive CryptographyFault where
  | keyGeneration (baseName : String) (cause : ValueFault)
  | selfSigning (baseName : String) (cause : ValueFault)
  | signing (baseName issuer : String) (cause : ValueFault)
  | keyMismatch (issuer : String)
  | unverified (baseName issuer : String)

/-- The wording of a failure of key generation or signing. -/
def CryptographyFault.message : CryptographyFault → String
  | .keyGeneration baseName cause =>
    "failed to generate private key for " ++ baseName ++ ": " ++ cause.message
  | .selfSigning baseName cause => "failed to self-sign " ++ baseName ++ ": " ++ cause.message
  | .signing baseName issuer cause =>
    "failed to sign " ++ baseName ++ " with " ++ issuer ++ ": " ++ cause.message
  | .keyMismatch issuer => "private key of " ++ issuer ++ " does not match its certificate"
  | .unverified baseName issuer => baseName ++ " does not verify against " ++ issuer

/-- The refused value behind the failure, if there is one. -/
def CryptographyFault.cause? : CryptographyFault → Option ValueFault
  | .keyGeneration _ cause => some cause
  | .selfSigning _ cause => some cause
  | .signing _ _ cause => some cause
  | .keyMismatch _ => none
  | .unverified _ _ => none

/-- Extensions that contradict themselves: one that is there twice, a length of the path to an
authority without an authority, and a restriction of an agreement without the agreement. -/
inductive ExtensionFault where
  | duplicate (oid : Octets)
  | pathWithoutAuthority
  | usageWithoutAgreement
deriving DecidableEq

/-- The wording of extensions that contradict themselves. -/
def ExtensionFault.message : ExtensionFault → String
  | .duplicate oid => "Duplicate " ++ Oid.text oid ++ " extension found"
  | .pathWithoutAuthority => "path_length must be None when ca is False"
  | .usageWithoutAgreement =>
    "encipher_only and decipher_only can only be true when key_agreement is true"

/-- Why the key in a certificate cannot be compared with another one: nothing is known of its scheme or
of its curve, it is malformed, or keys of its kind have no numbers. -/
inductive SubjectKeyFault where
  | unknownScheme (oid : Octets)
  | unknownCurve (oid : Octets)
  | malformed
  | withoutNumbers (kind : String)
deriving DecidableEq

/-- The most characters of a kind's name that are shown. -/
def SubjectKeyFault.maxKind : Nat := 50

/-- The wording of a key that cannot be compared. -/
def SubjectKeyFault.message : SubjectKeyFault → String
  | .unknownScheme oid => "Unknown key type: " ++ Oid.text oid
  | .unknownCurve oid => "Curve " ++ Oid.text oid ++ " is not supported"
  | .malformed => "Invalid key"
  | .withoutNumbers kind =>
    "'" ++ String.ofList (kind.toList.take maxKind) ++ "' object has no attribute 'public_numbers'"

/-- What an asset was doing when it failed. -/
inductive Stage where
  | fetching
  | generating
deriving DecidableEq

/-- A failure of a run. The last two constructors carry the failure they were raised from. -/
inductive Failure where
  | configuration (fault : ConfigurationFault)
  | cryptography (fault : CryptographyFault)
  | value (fault : ValueFault)
  | extension (fault : ExtensionFault)
  | subjectKey (fault : SubjectKeyFault)
  | dateOutOfRange
  | networkMissing
  | notGenerated (key : String)
  | unknownAsset (key : String)
  | cycle (path : List String)
  | application (kind message : String)
  | because (failure cause : Failure)
  | generation (stage : Stage) (name : String) (cause : Failure)
deriving Inhabited

namespace Failure

/-- The wording of a failure. -/
def message : Failure → String
  | .configuration fault => fault.message
  | .cryptography fault => fault.message
  | .value fault => fault.message
  | .extension fault => fault.message
  | .subjectKey fault => fault.message
  | .dateOutOfRange => "date value out of range"
  | .networkMissing => "'list' object has no attribute 'num_addresses'"
  | .notGenerated key => quoted ("asset " ++ quoted key ++ " has not been generated")
  | .unknownAsset key => "no asset registered for key " ++ quoted key
  | .cycle path => "dependency cycle detected: " ++ " -> ".intercalate path
  | .application _ message => message
  | .because failure _ => failure.message
  | .generation .fetching name cause =>
    "failed to fetch dependency of " ++ quoted name ++ ": " ++ cause.message
  | .generation .generating name cause =>
    "failed to generate asset " ++ quoted name ++ ": " ++ cause.message

/-- The last failure along the chain of causes. -/
def root : Failure → Failure
  | .configuration fault => (fault.cause?.map value).getD (.configuration fault)
  | .cryptography fault => (fault.cause?.map value).getD (.cryptography fault)
  | .because _ cause => cause.root
  | .generation _ _ cause => cause.root
  | failure => failure

/-- Whether a failure is one of the asset graph: unknown key, cycle or failed generation. -/
def isOfGraph : Failure → Bool
  | .unknownAsset _ => true
  | .cycle _ => true
  | .generation _ _ _ => true
  | .because failure _ => failure.isOfGraph
  | _ => false

end Failure

end CertGraph
