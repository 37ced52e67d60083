import CertGraph.Armor.Base64

/- Armor: labelled octets in lines of base sixty-four between two boundaries. -/
set_option autoImplicit false
set_option relaxedAutoImplicit false

namespace CertGraph.Armor

/-- The end of a line. -/
def newline : UInt8 := 10

/-- The five dashes on both sides of a boundary. -/
def dashes : Octets := [45, 45, 45, 45, 45]

/-- The start of an opening boundary. -/
def beginMark : Octets :=
  dashes ++ Octets.ofAscii ['B', 'E', 'G', 'I', 'N', ' ']

/-- The start of a closing boundary. -/
def endMark : Octets :=
  dashes ++ Octets.ofAscii ['E', 'N', 'D', ' ']

/-- Lines of at most the width given, each ended, at most as many as given. -/
def lines (width : Nat) : Nat → Octets → Octets
  | 0, _ => []
  | count + 1, octets =>
    if octets = [] then []
    else octets.take width ++ newline :: lines width count (octets.drop width)

/-- A block: boundaries around lines of sixty-four digits. -/
def armored (label : Octets) (contents : Octets) : Octets :=
  let digits := Base64.encode contents
  beginMark ++ label ++ dashes ++ newline :: lines 64 digits.length digits ++
    endMark ++ label ++ dashes ++ [newline]

end CertGraph.Armor
