import CertGraph.Net.Address
import CertGraph.Text.Number
import CertGraph.Text.Quoted

/- Networks: an address and how many of its leading bits all members share. -/
set_option autoImplicit false
set_option relaxedAutoImplicit false

namespace CertGraph.Net

open CertGraph.Text (maxDigits natOfDigits? quoted)

/-- A network, given by its first address: the bits past the shared ones are zero there. -/
structure Network where
  address : Address
  length : Nat
  length_le : length ≤ address.width
  aligned : address.value % Nat.pow 2 (address.width - length) = 0

/-- Why a text is no network. -/
inductive NetworkFault where
  | unrecognised (text : String)
  | hostBits (address : Address) (length : Nat)
deriving DecidableEq

/-- An address and the number of shared bits, divided by a slash. -/
def blockText (address : Address) (length : Nat) : String :=
  address.text ++ "/" ++ toString length

/-- The wording of a fault. -/
def NetworkFault.message : NetworkFault → String
  | .unrecognised text => quoted text ++ " does not appear to be an IPv4 or IPv6 network"
  | .hostBits address length => blockText address length ++ " has host bits set"

namespace Network

/-- The network as text. -/
def text (network : Network) : String :=
  blockText network.address network.length

/-- The number of addresses in the network. -/
def size (network : Network) : Nat :=
  Nat.pow 2 (network.address.width - network.length)

/-- The network of an address, if all bits of the address past the shared ones are zero. -/
def ofAddress (address : Address) (length : Nat) (length_le : length ≤ address.width) :
    Except NetworkFault Network :=
  if aligned : address.value % Nat.pow 2 (address.width - length) = 0 then
    .ok ⟨address, length, length_le, aligned⟩
  else .error (.hostBits address length)

/-- The number of leading ones, if only zeros follow them. -/
def leadingOnes? (width mask : Nat) : Option Nat :=
  (List.range (width + 1)).find? fun length => mask == Nat.pow 2 width - Nat.pow 2 (width - length)

/-- A number of shared bits in decimal, not longer than numbers are. -/
def readLength? (width : Nat) (digits : List Char) : Option Nat := do
  let length ← natOfDigits? 10 digits
  if digits.length ≤ maxDigits ∧ length ≤ width then some length else none

/-- A mask for the shorter family: a number of bits, a dotted mask, or a dotted mask inverted. -/
def readMask? (chars : List Char) : Option Nat :=
  readLength? 32 chars <|> do
    let mask ← Address.readDotted? chars
    leadingOnes? 32 mask <|> leadingOnes? 32 (Nat.pow 2 32 - 1 - mask)

/-- The address and the number of shared bits that a text names, in the shorter family first. -/
def readBlock? (text : String) : Option (Address × Nat) :=
  match text.toList.splitOn '/' with
  | [address] =>
    (do some (← Address.readV4? address, 32)) <|> (do some (← Address.readV6? address, 128))
  | [address, mask] =>
    (do some (← Address.readV4? address, ← readMask? mask)) <|>
      (do some (← Address.readV6? address, ← readLength? 128 mask))
  | _ => none

/-- The network that a text names. -/
def ofText (text : String) : Except NetworkFault Network :=
  match readBlock? text with
  | none => .error (.unrecognised text)
  | some (address, length) =>
    if fits : length ≤ address.width then ofAddress address length fits
    else .error (.unrecognised text)

/-- The address at an offset, if the network is that large. -/
def addressAt? (network : Network) (offset : Int) : Option Address :=
  if 0 ≤ offset ∧ offset < network.size then some (network.address.advance offset.toNat) else none

end Network

end CertGraph.Net
