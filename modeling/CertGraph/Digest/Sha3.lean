import CertGraph.Octets

/- The SHA-3 digests: messages soaked up, piece by piece, by a state of five times five lanes. -/
set_option autoImplicit false
set_option relaxedAutoImplicit false

namespace CertGraph.Digest.Sha3

/-- Twenty-five lanes of sixty-four bits, row after row. -/
abbrev State := Array UInt64

/-- Nothing soaked up yet. -/
def start : State := Array.replicate 25 0

/-- The lane in a column and a row, both taken modulo five. -/
def lane (state : State) (column row : Nat) : UInt64 :=
  state.getD (column % 5 + 5 * (row % 5)) 0

/-- The state with the lane that a function gives for every column and row. -/
def State.make (lanes : Nat → Nat → UInt64) : State :=
  (Array.range 25).map fun place => lanes (place % 5) (place / 5)

/-- The constants of the rounds. -/
def constants : List UInt64 :=
  [0x0000000000000001, 0x0000000000008082, 0x800000000000808a, 0x8000000080008000,
   0x000000000000808b, 0x0000000080000001, 0x8000000080008081, 0x8000000000008009,
   0x000000000000008a, 0x0000000000000088, 0x0000000080008009, 0x000000008000000a,
   0x000000008000808b, 0x800000000000008b, 0x8000000000008089, 0x8000000000008003,
   0x8000000000008002, 0x8000000000000080, 0x000000000000800a, 0x800000008000000a,
   0x8000000080008081, 0x8000000000008080, 0x0000000080000001, 0x8000000080008008]

/-- How far every lane is turned. -/
def turns : State :=
  #[0, 1, 62, 28, 27, 36, 44, 6, 55, 20, 3, 10, 43, 25, 39, 41, 45, 15, 21, 8, 18, 2, 61, 56, 14]

/-- A lane turned left by some bits. -/
private def turned (word count : UInt64) : UInt64 :=
  if count = 0 then word else (word <<< count) ||| (word >>> (64 - count))

/-- The parity of a column. -/
private def parity (state : State) (column : Nat) : UInt64 :=
  lane state column 0 ^^^ lane state column 1 ^^^ lane state column 2 ^^^ lane state column 3 ^^^
    lane state column 4

/-- Every lane with the parities of two neighbouring columns. -/
private def diffused (state : State) : State :=
  State.make fun column row =>
    lane state column row ^^^ parity state (column + 4) ^^^ turned (parity state (column + 1)) 1

/-- Every lane turned, and put where its column becomes its row. -/
private def dispersed (state : State) : State :=
  State.make fun column row =>
    let source := column + 3 * row
    turned (lane state source column) (lane turns source column)

/-- Every lane mixed with the two after it in its row. -/
private def mixed (state : State) : State :=
  State.make fun column row =>
    lane state column row ^^^ (~~~lane state (column + 1) row &&& lane state (column + 2) row)

private def round (state : State) (constant : UInt64) : State :=
  (mixed (dispersed (diffused state))).modify 0 (· ^^^ constant)

/-- The state after all rounds. -/
def permuted (state : State) : State :=
  constants.foldl round state

/-- The octets of a lane, the last one first. -/
private def laneOctets (word : UInt64) : Octets :=
  (Octets.ofNatWidth 8 word.toNat).reverse

/-- The octets of a state. -/
def State.octets (state : State) : Octets :=
  state.toList.flatMap laneOctets

/-- The state mixed with a piece of at most two hundred octets, and permuted. -/
def absorb (state : State) (piece : Octets) : State :=
  permuted (State.make fun column row =>
    let octets := (piece.drop (8 * (column + 5 * row))).take 8
    lane state column row ^^^ UInt64.ofNat (Octets.toNat octets.reverse))

/-- The message with its end marked, up to a multiple of a size. -/
def padded (size : Nat) (message : Octets) : Octets :=
  let room := size - message.length % size
  if room = 1 then message ++ [0x86]
  else message ++ 0x06 :: List.replicate (room - 2) 0 ++ [0x80]

/-- The state after consecutive pieces of a size, as many as given. -/
private def absorbAll (size : Nat) : Nat → State → Octets → State
  | 0, state, _ => state
  | count + 1, state, octets =>
    absorbAll size count (absorb state (octets.take size)) (octets.drop size)

/-- The digest of a message with a number of octets; twice as many octets of the state stay apart
from the message. -/
def digest (length : Nat) (message : Octets) : Octets :=
  let size := 200 - 2 * length
  let octets := padded size message
  (absorbAll size (octets.length / size) start octets).octets.take length

end CertGraph.Digest.Sha3
