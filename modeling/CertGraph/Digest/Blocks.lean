import CertGraph.Octets

/- Messages cut into blocks of sixteen words, short or long ones, as some digests take them. -/
set_option autoImplicit false
set_option relaxedAutoImplicit false

namespace CertGraph.Digest

/-- Four octets as a word. -/
def wordOf (octets : Octets) : UInt32 :=
  UInt32.ofNat (Octets.toNat octets)

/-- A word as four octets. -/
def wordOctets (word : UInt32) : Octets :=
  Octets.ofNatWidth 4 word.toNat

/-- Eight octets as a long word. -/
def longWordOf (octets : Octets) : UInt64 :=
  UInt64.ofNat (Octets.toNat octets)

/-- A long word as eight octets. -/
def longWordOctets (word : UInt64) : Octets :=
  Octets.ofNatWidth 8 word.toNat

/-- Consecutive pieces of a size, as many as asked for. -/
def pieces (size : Nat) : Nat → Octets → List Octets
  | 0, _ => []
  | count + 1, octets => octets.take size :: pieces size count (octets.drop size)

/-- The message, a one bit, zeros, and its length in bits on two words at the end of a block of
sixteen words. -/
def padded (word : Nat) (message : Octets) : Octets :=
  let block := 16 * word
  let filler := (2 * block - 1 - 2 * word - message.length % block) % block
  message ++ 0x80 :: List.replicate filler 0 ++ Octets.ofNatWidth (2 * word) (message.length * 8)

/-- The blocks of the padded message, sixteen pieces of the size of a word each. -/
def blocksOf (word : Nat) (message : Octets) : List (List Octets) :=
  let octets := padded word message
  (pieces (16 * word) (octets.length / (16 * word)) octets).map (pieces word 16)

/-- The blocks of the padded message, sixteen words each. -/
def blocks (message : Octets) : List (List UInt32) :=
  (blocksOf 4 message).map fun block => block.map wordOf

/-- The blocks of the padded message, sixteen long words each. -/
def longBlocks (message : Octets) : List (List UInt64) :=
  (blocksOf 8 message).map fun block => block.map longWordOf

/-- A word turned left by some bits. -/
def turnLeft (word : UInt32) (count : UInt32) : UInt32 :=
  (word <<< count) ||| (word >>> (32 - count))

/-- A word turned right by some bits. -/
def turnRight (word : UInt32) (count : UInt32) : UInt32 :=
  (word >>> count) ||| (word <<< (32 - count))

/-- The words of a block followed by more, each made from the ones before it, latest first. -/
def schedule {α : Type} (next : List α → α) (block : List α) (count : Nat) : List α :=
  ((List.range count).foldl (fun words _ => next words :: words) block.reverse).reverse

end CertGraph.Digest
