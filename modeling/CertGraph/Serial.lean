/- Serial numbers: made from random bits, and shown two digits at a time. -/
set_option autoImplicit false
set_option relaxedAutoImplicit false

namespace CertGraph.Serial

/-- The serial number of 128 random bits: six of them are fixed to mark a random identifier. -/
def ofRandom (random : BitVec 128) : Nat :=
  let version : BitVec 128 := 0xf#128 <<< 76
  let variant : BitVec 128 := 0x3#128 <<< 62
  ((random &&& ~~~version &&& ~~~variant) ||| 0x4#128 <<< 76 ||| 0x2#128 <<< 62).toNat

/-- Upper-case hexadecimal digits, after a sign below zero; a zero in front makes their count
even. -/
def digits (serial : Int) : List Char :=
  let digits := (Nat.toDigits 16 serial.natAbs).map Char.toUpper
  let digits := if serial < 0 then '-' :: digits else digits
  if digits.length % 2 = 0 then digits else '0' :: digits

/-- Characters in groups of two. -/
def pairs : List Char → List String
  | first :: second :: rest => String.ofList [first, second] :: pairs rest
  | [last] => [String.ofList [last]]
  | [] => []

/-- The digits in groups of two with colons between them. -/
def text (serial : Int) : String :=
  ":".intercalate (pairs (digits serial))

end CertGraph.Serial
