import CertGraph.Asset.Catalog
import CertGraph.Cluster.Specs

/- The assets around the API server of a cluster. -/
set_option autoImplicit false
set_option relaxedAutoImplicit false

namespace CertGraph.Cluster

open CertGraph.Time (Duration)

variable {σ ε : Type}

/-- The signer of the API server. -/
def kubeCa : String := "kube-ca"

/-- The API server. -/
def apiserver : String := "apiserver"

/-- The signer of the API server as a client of the nodes. -/
def kubeletSigner : String := "kube-apiserver-to-kubelet-signer"

/-- The bundle of that signer. -/
def kubeletCaBundle : String := "kube-apiserver-to-kubelet-ca-bundle"

/-- The API server as a client of the nodes. -/
def kubeletClient : String := "kube-apiserver-to-kubelet-client"

/-- The signer for callers on the same host. -/
def localhostSigner : String := "kube-apiserver-localhost-signer"

/-- The bundle of that signer. -/
def localhostCaBundle : String := "kube-apiserver-localhost-ca-bundle"

/-- The server for callers on the same host. -/
def localhostServer : String := "kube-apiserver-localhost-server"

/-- The signer for callers inside the cluster. -/
def serviceNetworkSigner : String := "kube-apiserver-service-network-signer"

/-- The bundle of that signer. -/
def serviceNetworkCaBundle : String := "kube-apiserver-service-network-ca-bundle"

/-- The server for callers inside the cluster. -/
def serviceNetworkServer : String := "kube-apiserver-service-network-server"

/-- The signer for callers outside the cluster. -/
def lbSigner : String := "kube-apiserver-lb-signer"

/-- The bundle of that signer. -/
def lbCaBundle : String := "kube-apiserver-lb-ca-bundle"

/-- The server for callers outside the cluster. -/
def lbServer : String := "kube-apiserver-lb-server"

/-- The bundle of all signers of servers. -/
def completeServerCaBundle : String := "kube-apiserver-complete-server-ca-bundle"

/-- What is generated unless something else is asked for. -/
def defaultTargets : List String :=
  [kubeCa, apiserver, kubeletSigner, kubeletCaBundle, kubeletClient, localhostSigner,
   localhostCaBundle, localhostServer, serviceNetworkSigner, serviceNetworkCaBundle,
   serviceNetworkServer, lbSigner, lbCaBundle, lbServer, completeServerCaBundle]

/-- A signer, which signs its own certificate. -/
def signer (key : String) (validity : Duration) (unit : String) (keySize : KeySize)
    (validity_pos : 0 < validity.micros) : Asset σ ε :=
  .selfSigned ⟨key, .fixed (signerSpec key validity unit validity_pos), key, [], keySize⟩

/-- The bundle of some signers. -/
def bundleOf (key : String) (authorities : List String) : Asset σ ε :=
  .bundle ⟨key, authorities, key⟩

/-- A server or client, signed by one of the signers. -/
def signedBy (key issuer : String) (spec : SpecSource ε) (policy : ChainPolicy)
    (others : List String) (keySize : KeySize) : Asset σ ε :=
  .signed ⟨key, issuer, spec, policy, key, others, keySize⟩

/-- The assets in the order of their registration. -/
def assets (config : InstallConfig) (keySize : KeySize) : List (Asset σ ε) :=
  [.installConfig config,
   signer kubeCa tenYears "bootkube" keySize tenYears_pos,
   signer kubeletSigner oneYear defaultUnit keySize oneYear_pos,
   signer localhostSigner tenYears defaultUnit keySize tenYears_pos,
   signer serviceNetworkSigner tenYears defaultUnit keySize tenYears_pos,
   signer lbSigner tenYears defaultUnit keySize tenYears_pos,
   bundleOf kubeletCaBundle [kubeletSigner],
   bundleOf localhostCaBundle [localhostSigner],
   bundleOf serviceNetworkCaBundle [serviceNetworkSigner],
   bundleOf lbCaBundle [lbSigner],
   bundleOf completeServerCaBundle [localhostSigner, serviceNetworkSigner, lbSigner],
   signedBy apiserver kubeCa (.computed apiserverSpec) .appendParent [installConfigKey] keySize,
   signedBy kubeletClient kubeletSigner (.fixed kubeletClientSpec) .doNotAppendParent [] keySize,
   signedBy localhostServer localhostSigner (.fixed localhostServerSpec) .appendParent [] keySize,
   signedBy serviceNetworkServer serviceNetworkSigner (.computed serviceNetworkServerSpec)
     .appendParent [installConfigKey] keySize,
   signedBy lbServer lbSigner (.computed lbServerSpec) .appendParent [installConfigKey] keySize]

/-- The catalog of the assets; the keys double as the names that they are kept by. -/
def catalog (config : InstallConfig) (keySize : KeySize) : Catalog σ ε where
  entries := (assets config keySize).map fun asset => (asset.key, Factory.always asset)
  nodup := by
    simp only [assets, signer, bundleOf, signedBy, List.map_cons, List.map_nil, Asset.key]
    decide

end CertGraph.Cluster
