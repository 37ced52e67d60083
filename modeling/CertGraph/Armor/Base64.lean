import CertGraph.Octets

/- Octets in base sixty-four: four characters for three octets, padded at the end. -/
set_option autoImplicit false
set_option relaxedAutoImplicit false

namespace CertGraph.Armor.Base64

/-- The sixty-four digits, in order. -/
def alphabet : Octets :=
  Octets.ofAscii ['A', 'B', 'C', 'D', 'E', 'F', 'G', 'H', 'I', 'J', 'K', 'L', 'M', 'N', 'O', 'P',
    'Q', 'R', 'S', 'T', 'U', 'V', 'W', 'X', 'Y', 'Z', 'a', 'b', 'c', 'd', 'e', 'f', 'g', 'h', 'i',
    'j', 'k', 'l', 'm', 'n', 'o', 'p', 'q', 'r', 's', 't', 'u', 'v', 'w', 'x', 'y', 'z', '0', '1',
    '2', '3', '4', '5', '6', '7', '8', '9', '+', '/']

/-- The character that fills the last group. -/
def filler : UInt8 := 61

/-- The digit of a value below sixty-four. -/
def digit (value : Nat) : UInt8 :=
  alphabet.getD value 0

/-- The value of a digit. -/
def value? (digit : UInt8) : Option Nat :=
  alphabet.findIdx? (· = digit)

/-- Octets as digits. -/
def encode : Octets → Octets
  | [] => []
  | [a] =>
    let n := a.toNat * 16
    [digit (n / 64), digit (n % 64), filler, filler]
  | [a, b] =>
    let n := (a.toNat * 256 + b.toNat) * 4
    [digit (n / 4096), digit (n / 64 % 64), digit (n % 64), filler]
  | a :: b :: c :: rest =>
    let n := (a.toNat * 256 + b.toNat) * 256 + c.toNat
    digit (n / 262144) :: digit (n / 4096 % 64) :: digit (n / 64 % 64) :: digit (n % 64) ::
      encode rest

/-- The octets of a last group; the bits that its filling stands for are zero. -/
def decodeLast? (a b c d : UInt8) : Option Octets := do
  let x ← value? a
  let y ← value? b
  if d ≠ filler then none
  else if c = filler then
    if y % 16 = 0 then some [UInt8.ofNat ((x * 64 + y) / 16)] else none
  else
    let z ← value? c
    if z % 4 = 0 then
      let n := ((x * 64 + y) * 64 + z) / 4
      some [UInt8.ofNat (n / 256), UInt8.ofNat n]
    else none

/-- The three octets of a full group. -/
def decodeGroup? (a b c d : UInt8) : Option Octets := do
  let n := ((← value? a) * 64 + (← value? b)) * 64 + (← value? c)
  let n := n * 64 + (← value? d)
  some [UInt8.ofNat (n / 65536), UInt8.ofNat (n / 256), UInt8.ofNat n]

/-- The octets that digits stand for; only a last group may be filled. -/
def decode? : Octets → Option Octets
  | [] => some []
  | [a, b, c, d] => decodeGroup? a b c d <|> decodeLast? a b c d
  | a :: b :: c :: d :: rest => do
    let group ← decodeGroup? a b c d
    some (group ++ (← decode? rest))
  | _ => none

end CertGraph.Armor.Base64
