import CertGraph.Asset.Parents
import CertGraph.Spec

/- The specs of the certificates around the API server of a cluster. -/
set_option autoImplicit false
set_option relaxedAutoImplicit false

namespace CertGraph.Cluster

open CertGraph.Net (Address)
open CertGraph.Time (Duration)

variable {ε : Type}

/-- A validity of one day. -/
def oneDay : Duration := Duration.ofDays 1

/-- A validity of one year. -/
def oneYear : Duration := Duration.ofDays 365

/-- A validity of ten years. -/
def tenYears : Duration := Duration.ofDays 3650

theorem oneYear_pos : 0 < oneYear.micros := by decide

theorem tenYears_pos : 0 < tenYears.micros := by decide

/-- The uses of the key of a signer. -/
def signerUsages : KeyUsages :=
  KeyUsages.ofList [.keyEncipherment, .digitalSignature, .certSign]

/-- The uses of any other key. -/
def leafUsages : KeyUsages :=
  KeyUsages.ofList [.keyEncipherment, .digitalSignature]

/-- The subject of every certificate that is not a signer's. -/
def apiserverSubject : Subject :=
  ⟨"system:kube-apiserver", ["kube-master"], []⟩

/-- The names under which the service of the API is reached inside the cluster. -/
def serviceNames : List String :=
  ["kubernetes", "kubernetes.default", "kubernetes.default.svc",
   "kubernetes.default.svc.cluster.local"]

/-- The unit of a signer unless another is given. -/
def defaultUnit : String := "openshift"

/-- The draft that all signers share. -/
def signerDraft (commonName : String) (validity : Duration) (unit : String) : SpecDraft where
  subject := ⟨commonName, [], [unit]⟩
  validity := validity
  usages := signerUsages
  purposes := []
  isAuthority := true
  dnsNames := .many []
  addresses := .many []

/-- The spec of a signer that is valid for some time. -/
def signerSpec (commonName : String) (validity : Duration) (unit : String)
    (validity_pos : 0 < validity.micros) : Spec where
  subject := ⟨commonName, [], [unit]⟩
  validity := validity
  usages := signerUsages
  purposes := []
  isAuthority := true
  dnsNames := []
  addresses := []
  validity_pos := validity_pos
  authority_signs := fun _ => by decide
  dnsNames_ne := by simp

/-- The address by which a host reaches itself. -/
def loopback : Address := .v4 0x7f000001#32

/-- The same address of the longer family. -/
def loopback6 : Address := .v6 1#128 none

/-- The draft of a server's or client's certificate. -/
def leafDraft (validity : Duration) (purposes : List Purpose) (dnsNames : List String)
    (addresses : List Address) : SpecDraft where
  subject := apiserverSubject
  validity := validity
  usages := leafUsages
  purposes := purposes
  isAuthority := false
  dnsNames := .many dnsNames
  addresses := .many (addresses.map .parsed)

/-- A fixed spec of a server's or client's certificate. -/
def leafSpec (validity : Duration) (purposes : List Purpose) (dnsNames : List String)
    (addresses : List Address) (validity_pos : 0 < validity.micros)
    (dnsNames_ne : ∀ name ∈ dnsNames, name ≠ "") : Spec where
  subject := apiserverSubject
  validity := validity
  usages := leafUsages
  purposes := purposes
  isAuthority := false
  dnsNames := dnsNames
  addresses := addresses
  validity_pos := validity_pos
  authority_signs := fun contradiction => by cases contradiction
  dnsNames_ne := dnsNames_ne

/-- The client certificate with which the API server reaches the nodes. -/
def kubeletClientSpec : Spec :=
  leafSpec oneYear [.clientAuth] [] [] (by decide) (by simp)

/-- The server certificate for callers on the same host. -/
def localhostServerSpec : Spec :=
  leafSpec oneDay [.serverAuth] ["localhost"] [loopback, loopback6] (by decide) (by simp)

/-- Invalid input as a failure. -/
def ofFault {α : Type} (outcome : Except ConfigurationFault α) : Except Failure α :=
  outcome.mapError .configuration

/-- The certificate under all names and addresses of the API server. -/
def apiserverSpec (parents : Parents ε) : Except Failure Spec := do
  let config ← parents.installConfig
  let address ← config.serviceAddress
  ofFault (leafDraft tenYears [.serverAuth, .clientAuth]
    (config.apiAddress :: serviceNames ++ ["localhost"]) [address, loopback]).check

/-- The server certificate for callers inside the cluster. -/
def serviceNetworkServerSpec (parents : Parents ε) : Except Failure Spec := do
  let config ← parents.installConfig
  let address ← config.serviceAddress
  ofFault (leafDraft oneDay [.serverAuth] serviceNames [address]).check

/-- The server certificate for callers outside the cluster. -/
def lbServerSpec (parents : Parents ε) : Except Failure Spec := do
  let config ← parents.installConfig
  ofFault (leafDraft oneDay [.serverAuth] [config.apiAddress] []).check

end CertGraph.Cluster
