import CertGraph.Algorithm.Permitted

/- Why no RSA key was read: keys of other schemes are told from those that are malformed. -/
set_option autoImplicit false
set_option relaxedAutoImplicit false

namespace CertGraph

/-- Why no RSA key was read. -/
inductive KeyFault where
  | unreadable
  | encrypted
  | otherScheme
  | unknownScheme
deriving DecidableEq

namespace KeyFault

/-- The fault of a key of another scheme, which is well formed or not. -/
private def ofOther (isWellFormed : Bool) : KeyFault :=
  if isWellFormed then .otherScheme else .unreadable

/-- The only element of octets is a string of as many octets as given. -/
private def isRaw (length : Nat) (octets : Octets) : Bool :=
  (Der.element? octets >>= Der.contentsOf? 0x04).any fun key => key.length = length

private def isNumber (octets : Octets) : Bool :=
  (Der.element? octets).any Der.isInteger

/-- What an element holds in a numbered tag, if it has that tag. -/
private def inTag (number : UInt8) (element : Der.Element) : Option Der.Element := do
  Der.element? (← Der.contentsOf? (0xa0 + number) element)

/-- What follows the version and the secret number of a key over a curve: the curve and the public
point, each of which may be left out. -/
private def curveTail? : List Der.Element → Option (Option Der.Element)
  | [] => some none
  | [last] =>
    match inTag 0 last with
    | some curve => some (some curve)
    | none => do
      let _ ← Der.bitsOf? (← inTag 1 last)
      some none
  | [curve, point] => do
    let _ ← Der.bitsOf? (← inTag 1 point)
    some (some (← inTag 0 curve))
  | _ => none

/-- The fault of a key over a named curve; a curve that is spelled out is not read. -/
private def ofCurve (curve : Der.Element) : KeyFault :=
  if curve.tag ≠ 0x06 ∨ (Oid.arcs? curve.contents).isNone then .unreadable
  else if Oid.curves.contains curve.contents then .otherScheme
  else .unknownScheme

/-- The fault of a key over a curve. The curve is given outside, in the key, or the same in both. -/
def ofCurveKey (outer : Option Der.Element) (octets : Octets) : KeyFault :=
  match Der.element? octets >>= Der.sequenceMembers? with
  | some (version :: secret :: rest) =>
    if version ≠ Der.integer 1 ∨ secret.tag ≠ 0x04 then .unreadable
    else
      match curveTail? rest, outer with
      | none, _ => .unreadable
      | some none, none => .unreadable
      | some none, some curve => ofCurve curve
      | some (some curve), none => ofCurve curve
      | some (some inner), some curve => if inner = curve then ofCurve curve else .unreadable
  | _ => .unreadable

/-- The fault of a DSA key: a zero and the numbers of the key. -/
def ofDsaKey (octets : Octets) : KeyFault :=
  ofOther <| match Der.element? octets >>= Der.sequenceMembers? with
    | some (version :: numbers) =>
      version = Der.integer 0 && numbers.length = 5 && numbers.all Der.isInteger
    | _ => false

/-- The fault of a key of an algorithm other than RSA. -/
def ofAlgorithm (algorithm : Algorithm) (octets : Octets) : KeyFault :=
  let oid := algorithm.oid
  if !algorithm.isPermitted then .unreadable
  else if oid = Oid.ellipticCurve then ofCurveKey algorithm.parameters octets
  else if oid = Oid.ed25519 ∨ oid = Oid.x25519 then ofOther (isRaw 32 octets)
  else if oid = Oid.ed448 then ofOther (isRaw 57 octets)
  else if oid = Oid.x448 then ofOther (isRaw 56 octets)
  else if [Oid.dsa, Oid.diffieHellman, Oid.diffieHellmanX].contains oid then
    ofOther (isNumber octets)
  else .unknownScheme

end KeyFault

end CertGraph
