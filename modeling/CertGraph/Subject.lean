/- Who a certificate is about. -/
set_option autoImplicit false
set_option relaxedAutoImplicit false

namespace CertGraph

/-- A common name with organizations and organizational units, each list in order. -/
structure Subject where
  commonName : String
  organizations : List String
  units : List String
deriving DecidableEq

end CertGraph
