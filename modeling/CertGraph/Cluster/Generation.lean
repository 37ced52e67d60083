import CertGraph.Cluster.Catalog
import CertGraph.Publication

/- Generating the certificates of a cluster and publishing them. -/
set_option autoImplicit false
set_option relaxedAutoImplicit false

namespace CertGraph.Cluster

variable {σ : Type}

/-- The name of the directory for the files unless another is given. -/
def defaultTlsDir : String := "tls"

/-- The targets meant; no target means all of them. -/
def wanted (targets : List String) : List String :=
  if targets = [] then defaultTargets else targets

/-- Resolve targets of the cluster's catalog. -/
def resolve (config : InstallConfig) (keySize : KeySize) (targets : List String) :
    Run σ (Executor Unit) :=
  Publication.resolveTargets (catalog config keySize : Catalog σ Unit) (wanted targets)

/-- Generate targets of the cluster's catalog and publish them. -/
def generate (config : InstallConfig) (keySize : KeySize) (tlsDir : String) (outputDir : Path)
    (targets : List String) (suffixes : List String) : Run σ Publication :=
  Publication.generate (catalog config keySize : Catalog σ Unit) (wanted targets) outputDir tlsDir
    suffixes

end CertGraph.Cluster
