/- Natural numbers as big-endian octet strings, minimal or of a fixed width. -/
set_option autoImplicit false
set_option relaxedAutoImplicit false

namespace CertGraph

/-- Octets, most significant first. -/
abbrev Octets := List UInt8

namespace Octets

/-- The `width` low octets of a number. -/
def ofNatWidth : Nat → Nat → Octets
  | 0, _ => []
  | width + 1, n => ofNatWidth width (n / 256) ++ [UInt8.ofNat n]

/-- The fewest octets that hold a number; zero takes none. -/
def ofNat (n : Nat) : Octets :=
  if n = 0 then [] else ofNatWidth (n.log2 / 8 + 1) n

/-- The number that octets stand for. -/
def toNat (octets : Octets) : Nat :=
  octets.foldl (fun value octet => value * 256 + octet.toNat) 0

/-- The UTF-8 form of a text. -/
def ofText (text : String) : Octets :=
  text.toUTF8.data.toList

/-- ASCII characters, an octet each. -/
def ofAscii (chars : List Char) : Octets :=
  chars.map fun c => UInt8.ofNat c.toNat

/-- The text whose UTF-8 form the octets are, if there is one. -/
def toText? (octets : Octets) : Option String :=
  String.fromUTF8? ⟨octets.toArray⟩

theorem toNat_concat (octets : Octets) (last : UInt8) :
    toNat (octets ++ [last]) = toNat octets * 256 + last.toNat := by
  simp [toNat, List.foldl_append]

theorem toNat_ofNatWidth (width n : Nat) :
    toNat (ofNatWidth width n) = n % Nat.pow 256 width := by
  induction width generalizing n with
  | zero => simp [ofNatWidth, toNat, Nat.mod_one]
  | succ width ih =>
    have wider : Nat.pow 256 (width + 1) = 256 * Nat.pow 256 width := Nat.mul_comm ..
    rw [ofNatWidth, toNat_concat, ih, wider, Nat.mod_mul]
    simp only [UInt8.toNat_ofNat']
    omega

theorem length_ofNatWidth (width n : Nat) : (ofNatWidth width n).length = width := by
  induction width generalizing n with
  | zero => rfl
  | succ width ih => simp [ofNatWidth, ih]

/-- A number is read back from its shortest octets. -/
theorem toNat_ofNat (n : Nat) : toNat (ofNat n) = n := by
  unfold ofNat
  split
  · subst n; rfl
  · rw [toNat_ofNatWidth, Nat.pow_eq]
    apply Nat.mod_eq_of_lt
    have below : n < 2 ^ (n.log2 + 1) := Nat.lt_log2_self
    have wide : 2 ^ (n.log2 + 1) ≤ 256 ^ (n.log2 / 8 + 1) := by
      rw [show (256 : Nat) = 2 ^ 8 from rfl, ← Nat.pow_mul]
      exact Nat.pow_le_pow_right (by omega) (by omega)
    omega

end Octets

end CertGraph
