/- What a certificate's key may be used for: usage flags and extended purposes. -/
set_option autoImplicit false
set_option relaxedAutoImplicit false

namespace CertGraph

/-- One use of a key. -/
inductive KeyUsage where
  | digitalSignature
  | contentCommitment
  | keyEncipherment
  | dataEncipherment
  | keyAgreement
  | certSign
  | crlSign
deriving DecidableEq

namespace KeyUsage

/-- Every use, in the order of their bits. -/
def all : List KeyUsage :=
  [.digitalSignature, .contentCommitment, .keyEncipherment, .dataEncipherment, .keyAgreement,
   .certSign, .crlSign]

/-- The place of a use among the bits, the first having number zero. -/
def index : KeyUsage → Nat
  | .digitalSignature => 0
  | .contentCommitment => 1
  | .keyEncipherment => 2
  | .dataEncipherment => 3
  | .keyAgreement => 4
  | .certSign => 5
  | .crlSign => 6

end KeyUsage

/-- A set of uses, one bit each. -/
structure KeyUsages where
  bits : BitVec 7
deriving DecidableEq

namespace KeyUsages

/-- No use at all. -/
def none : KeyUsages := ⟨0⟩

/-- Whether a use is in the set. -/
def has (usages : KeyUsages) (usage : KeyUsage) : Bool :=
  usages.bits.getLsbD usage.index

/-- The set with one more use. -/
def insert (usages : KeyUsages) (usage : KeyUsage) : KeyUsages :=
  ⟨usages.bits ||| BitVec.twoPow 7 usage.index⟩

/-- The set of the uses in a list. -/
def ofList (usages : List KeyUsage) : KeyUsages :=
  usages.foldl insert none

/-- The uses in the set, in the order of their bits. -/
def toList (usages : KeyUsages) : List KeyUsage :=
  KeyUsage.all.filter usages.has

/-- A set is determined by the list of its uses. -/
theorem ofList_toList (usages : KeyUsages) : ofList usages.toList = usages := by
  cases usages with
  | mk bits => revert bits; decide

end KeyUsages

/-- A purpose that goes beyond the usage flags. -/
inductive Purpose where
  | serverAuth
  | clientAuth
deriving DecidableEq

end CertGraph
