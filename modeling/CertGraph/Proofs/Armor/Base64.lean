import CertGraph.Armor.Base64
import Mathlib.Data.List.Basic

/- Octets are read back from their digits in base sixty-four. -/
set_option autoImplicit false
set_option relaxedAutoImplicit false

namespace CertGraph.Armor.Base64

private theorem value?_digit {value : Nat} (small : value < 64) :
    value? (digit value) = some value := by
  have all : ∀ value < 64, value? (digit value) = some value := by decide
  exact all value small

private theorem value?_filler : value? filler = none := by decide

private theorem ofNat_eq {octet : UInt8} {n : Nat} (same : n % 256 = octet.toNat) :
    UInt8.ofNat n = octet := by
  apply UInt8.toNat_inj.mp
  rw [UInt8.toNat_ofNat', same]

private theorem decodeGroup?_digits (a b c : UInt8) :
    let n := (a.toNat * 256 + b.toNat) * 256 + c.toNat
    decodeGroup? (digit (n / 262144)) (digit (n / 4096 % 64)) (digit (n / 64 % 64))
      (digit (n % 64)) = some [a, b, c] := by
  intro n
  have belowA := a.toNat_lt
  have belowB := b.toNat_lt
  have belowC := c.toNat_lt
  have whole : ((n / 262144 * 64 + n / 4096 % 64) * 64 + n / 64 % 64) * 64 + n % 64 = n := by omega
  have first : UInt8.ofNat (n / 65536) = a := ofNat_eq (by omega)
  have second : UInt8.ofNat (n / 256) = b := ofNat_eq (by omega)
  have third : UInt8.ofNat n = c := ofNat_eq (by omega)
  rw [decodeGroup?, value?_digit (by omega), value?_digit (by omega), value?_digit (by omega),
    value?_digit (by omega)]
  simp only [bind, Option.bind, whole, first, second, third]

private theorem decodeGroup?_filler (a b c : UInt8) : decodeGroup? a b c filler = none := by
  rw [decodeGroup?, value?_filler]
  rcases value? a with _ | x <;> rcases value? b with _ | y <;> rcases value? c with _ | z <;> rfl

private theorem decodeLast?_one (a : UInt8) :
    let n := a.toNat * 16
    decodeLast? (digit (n / 64)) (digit (n % 64)) filler filler = some [a] := by
  intro n
  have belowA := a.toNat_lt
  have first : UInt8.ofNat ((n / 64 * 64 + n % 64) / 16) = a := ofNat_eq (by omega)
  have clear : n % 64 % 16 = 0 := by omega
  rw [decodeLast?, value?_digit (by omega), value?_digit (by omega)]
  simp only [bind, Option.bind, ne_eq, not_true_eq_false, if_false, if_true, clear, first]

private theorem digit_ne_filler {value : Nat} (small : value < 64) : digit value ≠ filler := by
  intro same
  have read := value?_digit small
  rw [same, value?_filler] at read
  cases read

private theorem decodeLast?_two (a b : UInt8) :
    let n := (a.toNat * 256 + b.toNat) * 4
    decodeLast? (digit (n / 4096)) (digit (n / 64 % 64)) (digit (n % 64)) filler =
      some [a, b] := by
  intro n
  have belowA := a.toNat_lt
  have belowB := b.toNat_lt
  have apart : digit (n % 64) ≠ filler := digit_ne_filler (by omega)
  have first : UInt8.ofNat (((n / 4096 * 64 + n / 64 % 64) * 64 + n % 64) / 4 / 256) = a :=
    ofNat_eq (by omega)
  have second : UInt8.ofNat (((n / 4096 * 64 + n / 64 % 64) * 64 + n % 64) / 4) = b :=
    ofNat_eq (by omega)
  have clear : n % 64 % 4 = 0 := by omega
  rw [decodeLast?, value?_digit (by omega), value?_digit (by omega), value?_digit (by omega)]
  simp only [bind, Option.bind, ne_eq, not_true_eq_false, if_false, if_true, apart, clear, first,
    second]

private theorem encode_eq_nil_iff {octets : Octets} : encode octets = [] ↔ octets = [] := by
  constructor
  · intro nothing
    match octets with
    | [] => rfl
    | [_] => cases nothing
    | [_, _] => cases nothing
    | _ :: _ :: _ :: _ => cases nothing
  · rintro rfl
    rfl

theorem decode?_encode (octets : Octets) : decode? (encode octets) = some octets := by
  induction octets using encode.induct with
  | case1 => rfl
  | case2 a =>
    have last := decodeLast?_one a
    simp only [encode, decode?, decodeGroup?_filler]
    exact last
  | case3 a b =>
    have last := decodeLast?_two a b
    simp only [encode, decode?, decodeGroup?_filler]
    exact last
  | case4 a b c rest ih =>
    have group := decodeGroup?_digits a b c
    cases more : encode rest with
    | nil =>
      obtain rfl := encode_eq_nil_iff.mp more
      simp only [encode, decode?, group]
      rfl
    | cons first others =>
      rw [more] at ih
      simp only [encode, more, decode?, group, ih]
      rfl

/-- Every octet of the digits is a digit or fills the last group. -/
theorem mem_encode {octets : Octets} {octet : UInt8} (member : octet ∈ encode octets) :
    octet = filler ∨ ∃ value < 64, octet = digit value := by
  induction octets using encode.induct with
  | case1 => cases member
  | case2 a =>
    have belowA := a.toNat_lt
    simp only [encode, List.mem_cons, List.not_mem_nil, or_false] at member
    rcases member with rfl | rfl | rfl | rfl
    · exact .inr ⟨_, by omega, rfl⟩
    · exact .inr ⟨_, by omega, rfl⟩
    · exact .inl rfl
    · exact .inl rfl
  | case3 a b =>
    have belowA := a.toNat_lt
    have belowB := b.toNat_lt
    simp only [encode, List.mem_cons, List.not_mem_nil, or_false] at member
    rcases member with rfl | rfl | rfl | rfl
    · exact .inr ⟨_, by omega, rfl⟩
    · exact .inr ⟨_, by omega, rfl⟩
    · exact .inr ⟨_, by omega, rfl⟩
    · exact .inl rfl
  | case4 a b c rest ih =>
    have belowA := a.toNat_lt
    have belowB := b.toNat_lt
    have belowC := c.toNat_lt
    simp only [encode, List.mem_cons] at member
    rcases member with rfl | rfl | rfl | rfl | member
    · exact .inr ⟨_, by omega, rfl⟩
    · exact .inr ⟨_, by omega, rfl⟩
    · exact .inr ⟨_, by omega, rfl⟩
    · exact .inr ⟨_, by omega, rfl⟩
    · exact ih member

end CertGraph.Armor.Base64
