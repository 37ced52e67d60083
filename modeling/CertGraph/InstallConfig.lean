import CertGraph.Fault

/- The installation settings that certificate declarations read. -/
set_option autoImplicit false
set_option relaxedAutoImplicit false

namespace CertGraph

open CertGraph.Net (Address Network)

/-- A network, parsed already or still as text, or none at all. -/
inductive NetworkSource where
  | parsed (network : Network)
  | text (cidr : String)
  | missing

/-- The service network, which only some certificates need, and the name under which the API is
reached from outside. -/
structure InstallConfig where
  serviceNetwork : Option Network
  apiAddress : String
  apiAddress_ne : apiAddress ≠ ""

namespace InstallConfig

/-- Settings with a well-formed network and an API address. -/
def make (source : NetworkSource) (apiAddress : String) :
    Except ConfigurationFault InstallConfig := do
  let network ← match source with
    | .parsed network => .ok (some network)
    | .text cidr => ((Network.ofText cidr).map some).mapError (.serviceCidr cidr)
    | .missing => .ok none
  if present : apiAddress ≠ "" then .ok ⟨network, apiAddress, present⟩
  else .error .apiAddressMissing

end InstallConfig

/-- The address at an offset into a network. Offsets past either end are refused with a message that
shows them; there is none for an offset that has too many digits to be shown. -/
def hostAtOffset (source : NetworkSource) (offset : Int) : Except Failure Address := do
  let network ← match source with
    | .parsed network => .ok network
    | .text cidr => (Network.ofText cidr).mapError fun fault => .configuration (.cidr cidr fault)
    | .missing => .error .networkMissing
  match network.addressAt? offset with
  | some address => .ok address
  | none =>
    match Text.decimal? offset with
    | some shown => .error (.configuration (.offsetOutside shown network))
    | none => .error (.value .tooManyDigits)

/-- The service network as a source. -/
def InstallConfig.networkSource (config : InstallConfig) : NetworkSource :=
  match config.serviceNetwork with
  | some network => .parsed network
  | none => .missing

/-- The first host of the service network, where the service of the API lives. -/
def InstallConfig.serviceAddress (config : InstallConfig) : Except Failure Address :=
  hostAtOffset config.networkSource 1

end CertGraph
