import CertGraph.Octets
import CertGraph.Text.Digits

/- Internet addresses of both families: their text, their octets and how texts are read. -/
set_option autoImplicit false
set_option relaxedAutoImplicit false

namespace CertGraph.Net

open CertGraph.Text (natOfDigits? digitValue?)

/-- An address; one of the longer family may name the zone it is meant in. -/
inductive Address where
  | v4 (bits : BitVec 32)
  | v6 (bits : BitVec 128) (zone : Option String)
deriving DecidableEq

namespace Address

/-- The version number of the address family. -/
def version : Address → Nat
  | .v4 _ => 4
  | .v6 _ _ => 6

/-- The number of bits in an address. -/
def width : Address → Nat
  | .v4 _ => 32
  | .v6 _ _ => 128

/-- The address as a number. -/
def value : Address → Nat
  | .v4 bits => bits.toNat
  | .v6 bits _ => bits.toNat

/-- The address in network order. -/
def octets : Address → Octets
  | .v4 bits => Octets.ofNatWidth 4 bits.toNat
  | .v6 bits _ => Octets.ofNatWidth 16 bits.toNat

theorem value_lt (address : Address) : address.value < Nat.pow 2 address.width := by
  cases address with
  | v4 bits => exact bits.isLt
  | v6 bits zone => exact bits.isLt

/-- The address so many places further on, without a zone; after the last address of the family
comes the first. -/
def advance : Address → Nat → Address
  | .v4 bits, offset => .v4 (bits + BitVec.ofNat 32 offset)
  | .v6 bits _, offset => .v6 (bits + BitVec.ofNat 128 offset) none

theorem value_advance (address : Address) (offset : Nat) :
    (address.advance offset).value = (address.value + offset) % Nat.pow 2 address.width := by
  cases address <;> simp [advance, value, width]

/-! ### Text -/

/-- The numbers of sixteen bits are those below. -/
def groupBound : Nat := 65536

/-- The eight groups of sixteen bits, first group first. -/
def groups (bits : BitVec 128) : List Nat :=
  (List.range 8).map fun i => bits.toNat / Nat.pow 2 (112 - 16 * i) % groupBound

/-- Where the longest run of zeros starts and how long it is; the leftmost of equals. -/
def longestZeroRun (values : List Nat) : Nat × Nat :=
  (List.range values.length).foldl (fun best start =>
    let length := ((values.drop start).takeWhile (· = 0)).length
    if best.2 < length then (start, length) else best) (0, 0)

def hexGroup (value : Nat) : List Char :=
  Nat.toDigits 16 value

/-- Groups in hexadecimal; the longest run of at least two zero groups is left out. -/
def groupsText (values : List Nat) : List Char :=
  let (start, length) := longestZeroRun values
  if length ≤ 1 then [':'].intercalate (values.map hexGroup)
  else
    [':'].intercalate ((values.take start).map hexGroup) ++ ':' :: ':' ::
      [':'].intercalate ((values.drop (start + length)).map hexGroup)

/-- Four decimal octets, or hexadecimal groups with the zone after a percent sign. -/
def text : Address → String
  | .v4 bits =>
    String.ofList (['.'].intercalate ((Octets.ofNatWidth 4 bits.toNat).map fun octet =>
      Nat.toDigits 10 octet.toNat))
  | .v6 bits none => String.ofList (groupsText (groups bits))
  | .v6 bits (some zone) => String.ofList (groupsText (groups bits)) ++ "%" ++ zone

/-! ### Reading -/

/-- An octet in decimal: at most three digits, no leading zero, at most 255. -/
def readOctet? (digits : List Char) : Option Nat := do
  let value ← natOfDigits? 10 digits
  if digits.length ≤ 3 ∧ (digits = ['0'] ∨ digits.head? ≠ some '0') ∧ value ≤ 255 then
    some value
  else none

/-- Four octets between dots as one number. -/
def readDotted? (chars : List Char) : Option Nat := do
  let octets ← (chars.splitOn '.').mapM readOctet?
  if octets.length = 4 then some (octets.foldl (fun value octet => value * 256 + octet) 0)
  else none

/-- An address of the shorter family. -/
def readV4? (chars : List Char) : Option Address := do
  let value ← readDotted? chars
  some (.v4 (BitVec.ofNat 32 value))

/-- One to four hexadecimal digits. -/
def readGroup? (digits : List Char) : Option Nat :=
  if digits.length ≤ 4 then natOfDigits? 16 digits else none

/-- Groups with a dotted last part replaced by the two groups it stands for. -/
def withoutDots? (groups : List (List Char)) : Option (List (List Char)) :=
  match groups.getLast? with
  | none => none
  | some last =>
    if '.' ∈ last then do
      let value ← readDotted? last
      some (groups.dropLast ++ [hexGroup (value / groupBound), hexGroup (value % groupBound)])
    else some groups

/-- The groups before a gap; an empty first part only stands beside the gap. -/
def beforeGap? (groups : List (List Char)) : Option (List (List Char)) :=
  match groups with
  | [] :: rest => if rest = [] then some [] else none
  | _ => some groups

/-- The groups after a gap; an empty last part only stands beside the gap. -/
def afterGap? (groups : List (List Char)) : Option (List (List Char)) :=
  match groups.getLast? with
  | some [] => if groups.length = 1 then some [] else none
  | _ => some groups

/-- The groups on both sides of a gap, fewer than eight. -/
def aroundGap? (before after : List (List Char)) :
    Option (List (List Char) × List (List Char)) := do
  let left ← beforeGap? before
  let right ← afterGap? after
  if left.length + right.length < 8 then some (left, right) else none

/-- Eight groups, or fewer with one gap that stands for the missing zeros. -/
def eightGroups? (groups : List (List Char)) : Option (List Nat) := do
  let inner := (groups.drop 1).dropLast
  match inner.findIdx? (· = []) with
  | none => if groups.length = 8 then groups.mapM readGroup? else none
  | some i =>
    if (inner.drop (i + 1)).contains [] then none
    else
      let (left, right) ← aroundGap? (groups.take (i + 1)) (groups.drop (i + 2))
      let high ← left.mapM readGroup?
      let low ← right.mapM readGroup?
      some (high ++ List.replicate (8 - high.length - low.length) 0 ++ low)

/-- The text before a percent sign and the zone after it, which may not be empty. -/
def splitZone? (chars : List Char) : Option (List Char × Option String) :=
  match chars.splitOn '%' with
  | [address] => some (address, none)
  | [address, zone] => if zone = [] then none else some (address, some (String.ofList zone))
  | _ => none

/-- An address of the longer family, with or without a zone. -/
def readV6? (chars : List Char) : Option Address := do
  let (chars, zone) ← splitZone? chars
  let groups := chars.splitOn ':'
  if groups.length < 3 then none
  else
    let groups ← withoutDots? groups
    if 9 < groups.length then none
    else
      let values ← eightGroups? groups
      let value := values.foldl (fun value group => value * groupBound + group) 0
      some (.v6 (BitVec.ofNat 128 value) zone)

/-- An address of either family; a slash is no part of one. -/
def ofText? (text : String) : Option Address :=
  let chars := text.toList
  if '/' ∈ chars then none else readV4? chars <|> readV6? chars

end Address

end CertGraph.Net
