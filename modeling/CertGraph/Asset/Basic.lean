import CertGraph.Asset.Parents
import CertGraph.Issuance

/- Assets before they are generated: what they are, what they need, and how they are generated. -/
set_option autoImplicit false
set_option relaxedAutoImplicit false

namespace CertGraph

variable {σ ε : Type}

/-- A spec that stands fast, or one that is computed from the generated assets. -/
inductive SpecSource (ε : Type) where
  | fixed (spec : Spec)
  | computed (compute : Parents ε → Except Failure Spec)

/-- The spec that a source amounts to. -/
def SpecSource.read (source : SpecSource ε) (parents : Parents ε) : Except Failure Spec :=
  match source with
  | .fixed spec => .ok spec
  | .computed compute => compute parents

/-- The name that an asset is kept by: one of its own unless that is empty, else its key. -/
def keptAs (name key : String) : String :=
  if name = "" then key else name

/-- An authority that signs its own certificate. -/
structure SelfSigned (ε : Type) where
  key : String
  spec : SpecSource ε
  baseName : String
  others : List String
  keySize : KeySize

/-- A pair signed by the authority under another key. -/
structure Signed (ε : Type) where
  key : String
  issuer : String
  spec : SpecSource ε
  policy : ChainPolicy
  baseName : String
  others : List String
  keySize : KeySize

/-- The certificates of the authorities under some keys. -/
structure Collected where
  key : String
  authorities : List String
  bundleName : String

/-- An asset of an application. What it holds is its own: no pair or authority is read from it. -/
structure Custom (σ ε : Type) where
  key : String
  name : String
  dependencies : List String
  files : Option (List AssetFile)
  artifact : ε
  generate : Parents ε → Work σ (Option (List AssetFile) × ε)

/-- An asset: installation settings, certificates, bundles, or one of the application's own. -/
inductive Asset (σ ε : Type) where
  | installConfig (config : InstallConfig)
  | selfSigned (declared : SelfSigned ε)
  | signed (declared : Signed ε)
  | bundle (declared : Collected)
  | custom (declared : Custom σ ε)

namespace Asset

/-- The key that names an asset in its graph. -/
def key : Asset σ ε → String
  | .installConfig _ => installConfigKey
  | .selfSigned declared => declared.key
  | .signed declared => declared.key
  | .bundle declared => declared.key
  | .custom declared => declared.key

/-- The name of an asset that is kept as a certificate. -/
private def certificateName (keptName : String) : String :=
  "Certificate (" ++ keptName ++ ")"

/-- The name of an asset in reports and messages. -/
def name : Asset σ ε → String
  | .installConfig _ => "Install Config"
  | .selfSigned declared => certificateName declared.baseName
  | .signed declared => certificateName declared.baseName
  | .bundle declared => certificateName declared.bundleName
  | .custom declared => declared.name

/-- The keys of the assets that have to be generated first, in order. -/
def dependencies : Asset σ ε → List String
  | .installConfig _ => []
  | .selfSigned declared => declared.others
  | .signed declared => declared.issuer :: declared.others
  | .bundle declared => declared.authorities
  | .custom declared => declared.dependencies

/-- What an asset holds before it is generated. -/
def blank : Asset σ ε → Product ε
  | .installConfig config => .settings config
  | .selfSigned _ => .authority none
  | .signed _ => .pair none
  | .bundle _ => .bundle none
  | .custom declared => .custom declared.files declared.artifact

/-- The asset as a node of the graph, holding a product. -/
def holding (asset : Asset σ ε) (product : Product ε) : Node ε :=
  ⟨asset.key, asset.name, asset.dependencies, product⟩

/-- A value read from the generated assets, or the failure to read it. -/
private def reading {α : Type} (outcome : Except Failure α) : Work σ α :=
  Work.ofExcept id outcome

/-- Generate an asset from the assets generated before it. -/
def generate (asset : Asset σ ε) (parents : Parents ε) : Work σ (Product ε) :=
  match asset with
  | .installConfig config => pure (.settings config)
  | .selfSigned declared => do
    let spec ← reading (declared.spec.read parents)
    return .authority (some (← issueSelfSigned spec declared.baseName declared.keySize))
  | .signed declared => do
    let issuer ← reading (parents.authorityOf declared.issuer)
    let spec ← reading (declared.spec.read parents)
    return .pair (some
      (← issueWith spec issuer declared.baseName declared.policy declared.keySize))
  | .bundle declared => do
    let members ← reading (declared.authorities.mapM parents.authorityOf)
    return .bundle (some (← aggregateBundle declared.bundleName
      (members.map fun holder => some (.authority holder))))
  | .custom declared => do
    let (files, artifact) ← declared.generate parents
    return .custom files artifact

end Asset

end CertGraph
