import CertGraph.Fault
import CertGraph.InstallConfig
import CertGraph.Issued

/- Generated assets, as other assets see them. -/
set_option autoImplicit false
set_option relaxedAutoImplicit false

namespace CertGraph

variable {ε : Type}

/-- What an asset holds; before it is generated, certificates and bundles are missing. Assets of an
application hold an artifact of their own, and files if they are kept in files. -/
inductive Product (ε : Type) where
  | settings (config : InstallConfig)
  | authority (issued : Option Authority)
  | pair (issued : Option Issued)
  | bundle (made : Option Bundle)
  | custom (files : Option (List AssetFile)) (artifact : ε)

namespace Product

/-- The authority held, if there is one; none is read from an asset of an application. -/
def authority? : Product ε → Option Authority
  | .authority issued => issued
  | .pair issued => issued.bind Issued.authority?
  | _ => none

/-- The certificate held, if there is one; none is read from an asset of an application. -/
def certificate? : Product ε → Option Certificate
  | .authority issued => issued.map fun holder => holder.pair.certificate
  | .pair issued => issued.map fun holder => holder.pair.certificate
  | _ => none

/-- The files to keep, if the asset is of a kind that has files. -/
def files? : Product ε → Option (List AssetFile)
  | .settings _ => none
  | .authority issued => some ((issued.map fun holder => holder.pair.files).getD [])
  | .pair issued => some ((issued.map fun holder => holder.pair.files).getD [])
  | .bundle made => some ((made.map Bundle.files).getD [])
  | .custom files _ => files

end Product

/-- An asset of the graph: its key, its name, the keys it depends on, and what it holds. -/
structure Node (ε : Type) where
  key : String
  name : String
  dependencies : List String
  product : Product ε

/-- Generated assets under their keys, in the order of generation. -/
structure Parents (ε : Type) where
  entries : List (String × Node ε)

namespace Parents

/-- No asset yet. -/
def empty : Parents ε := ⟨[]⟩

/-- The keys, in order. -/
def keys (parents : Parents ε) : List String :=
  parents.entries.map Prod.fst

/-- The asset under a key, if there is one. -/
def get? (parents : Parents ε) (key : String) : Option (Node ε) :=
  parents.entries.lookup key

/-- Whether there is an asset under a key. -/
def has (parents : Parents ε) (key : String) : Bool :=
  (parents.get? key).isSome

/-- The asset under a key. -/
def get (parents : Parents ε) (key : String) : Except Failure (Node ε) :=
  match parents.get? key with
  | some node => .ok node
  | none => .error (.notGenerated key)

/-- Put an asset under its key, where there may be none yet. -/
def record (parents : Parents ε) (node : Node ε) : Except ConfigurationFault (Parents ε) :=
  if parents.has node.key then .error (.alreadyGenerated node.key)
  else .ok ⟨parents.entries ++ [(node.key, node)]⟩

/-- The authority that the asset under a key holds. -/
def authorityOf (parents : Parents ε) (key : String) : Except Failure Authority := do
  let node ← parents.get key
  match node.product.authority? with
  | some holder => .ok holder
  | none => .error (.configuration (.assetNotAuthority node.name))

end Parents

/-- The key of the installation settings. -/
def installConfigKey : String := "install-config"

/-- The installation settings among the generated assets. -/
def Parents.installConfig (parents : Parents ε) : Except Failure InstallConfig := do
  let node ← parents.get installConfigKey
  match node.product with
  | .settings config => .ok config
  | _ => .error (.configuration (.assetNotInstallConfig installConfigKey))

end CertGraph
