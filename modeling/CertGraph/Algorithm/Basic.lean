import CertGraph.Der
import CertGraph.Oid

/- Algorithms of keys and signatures, named by identifiers. -/
set_option autoImplicit false
set_option relaxedAutoImplicit false

namespace CertGraph

/-- An algorithm: its identifier, and its parameters if it has some. -/
structure Algorithm where
  oid : Octets
  parameters : Option Der.Element
deriving DecidableEq

namespace Algorithm

/-- An algorithm whose parameters are the empty value. -/
def plain (oid : Octets) : Algorithm :=
  ⟨oid, some Der.null⟩

/-- The algorithm as an element. -/
def element (algorithm : Algorithm) : Der.Element :=
  Der.sequence (Der.oid algorithm.oid :: algorithm.parameters.toList)

/-- The algorithm that an element names; its identifier is well formed. -/
def ofElement? (element : Der.Element) : Option Algorithm := do
  match ← Der.sequenceMembers? element with
  | name :: parameters =>
    let oid ← Der.contentsOf? 0x06 name
    if (Oid.arcs? oid).isNone then none
    else
      match parameters with
      | [] => some ⟨oid, none⟩
      | [parameters] => some ⟨oid, some parameters⟩
      | _ => none
  | [] => none

/-- Whether the parameters are left out or the empty value. -/
def isPlain (algorithm : Algorithm) : Bool :=
  algorithm.parameters.all fun parameters => parameters = Der.null

end Algorithm

end CertGraph
