/- Numbers in positional notation: ASCII digits up to base sixteen. -/
set_option autoImplicit false
set_option relaxedAutoImplicit false

namespace CertGraph.Text

/-- The value of an ASCII digit, letters of either case from ten on. -/
def digitValue? (c : Char) : Option Nat :=
  if '0' ≤ c ∧ c ≤ '9' then some (c.toNat - '0'.toNat)
  else if 'a' ≤ c ∧ c ≤ 'f' then some (c.toNat - 'a'.toNat + 10)
  else if 'A' ≤ c ∧ c ≤ 'F' then some (c.toNat - 'A'.toNat + 10)
  else none

/-- The number that digits of a base stand for; no digits stand for none. -/
def natOfDigits? (base : Nat) (digits : List Char) : Option Nat :=
  if digits = [] then none
  else digits.foldl (fun value? c => do
    let value ← value?
    let digit ← digitValue? c
    if digit < base then some (value * base + digit) else none) (some 0)

/-- Digits of a number on at least `width` places. -/
def paddedDigits (base width n : Nat) : List Char :=
  let digits := Nat.toDigits base n
  List.replicate (width - digits.length) '0' ++ digits

/-- A number in decimal on at least `width` places. -/
def padded (width n : Nat) : String :=
  String.ofList (paddedDigits 10 width n)

/-- The two lower-case hexadecimal digits of an octet. -/
def octetDigits (octet : UInt8) : List Char :=
  paddedDigits 16 2 octet.toNat

/-- Octets in lower-case hexadecimal. -/
def hex (octets : List UInt8) : String :=
  String.ofList (octets.flatMap octetDigits)

end CertGraph.Text
