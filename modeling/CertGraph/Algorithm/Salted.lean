import CertGraph.Algorithm.Basic
import CertGraph.Digest.Algorithm

/- The parameters of signatures with a salt. -/
set_option autoImplicit false
set_option relaxedAutoImplicit false

namespace CertGraph.Algorithm

/-- What a signature with a salt is made with: the digest of the message, the mask generation
function with its parameters, and the length of the salt. -/
structure Salted where
  digest : Algorithm
  mask : Octets
  maskDigest : Algorithm
  saltLength : Nat
deriving DecidableEq

namespace Salted

/-- What stands for the parameters that are left out. -/
def usual : Salted :=
  ⟨plain Oid.sha1, Oid.maskGeneration, plain Oid.sha1, 20⟩

/-- The longest salt. -/
def maxSaltLength : Nat := 65535

private def maskElement (salted : Salted) : Der.Element :=
  Der.sequence [Der.oid salted.mask, salted.maskDigest.element]

/-- The parameters as an element; those that are the usual ones are left out. -/
def element (salted : Salted) : Der.Element :=
  let digest := if salted.digest = usual.digest then []
    else [Der.wrapped 0 salted.digest.element]
  let mask := if maskElement salted = maskElement usual then []
    else [Der.wrapped 1 (maskElement salted)]
  let salt := if salted.saltLength = usual.saltLength then []
    else [Der.wrapped 2 (Der.integer salted.saltLength)]
  Der.sequence (digest ++ mask ++ salt)

/-- What an element in a numbered tag holds, if it comes next, and the elements after it. -/
private def readWrapped? (number : UInt8) :
    List Der.Element → Option (Option Der.Element × List Der.Element)
  | [] => some (none, [])
  | next :: rest =>
    if next.tag = 0xa0 + number then do some (some (← Der.element? next.contents), rest)
    else some (none, next :: rest)

private def readMask? (element : Der.Element) : Option (Octets × Algorithm) := do
  match ← Der.sequenceMembers? element with
  | [mask, digest] =>
    let mask ← Der.contentsOf? 0x06 mask
    if (Oid.arcs? mask).isSome then some (mask, ← Algorithm.ofElement? digest) else none
  | _ => none

/-- A digest of a known name has the empty parameters or none. -/
private def isProper (algorithm : Algorithm) : Bool :=
  (Digest.Algorithm.ofOid? algorithm.oid).isNone || algorithm.isPlain

/-- The parameters that an element holds, in their only permitted form. -/
def ofElement? (element : Der.Element) : Option Salted := do
  let (digest, members) ← readWrapped? 0 (← Der.sequenceMembers? element)
  let (mask, members) ← readWrapped? 1 members
  let (salt, members) ← readWrapped? 2 members
  let digest ← match digest with
    | some digest => Algorithm.ofElement? digest
    | none => some usual.digest
  let (mask, maskDigest) ← match mask with
    | some mask => readMask? mask
    | none => some (usual.mask, usual.maskDigest)
  let saltLength ← match salt with
    | some salt => Der.natOf? salt
    | none => some usual.saltLength
  let salted : Salted := ⟨digest, mask, maskDigest, saltLength⟩
  if members = [] ∧ saltLength ≤ maxSaltLength ∧ isProper digest ∧ isProper maskDigest ∧
      salted.element = element then
    some salted
  else none

end Salted

end CertGraph.Algorithm
