import CertGraph.Rsa.Generation
import CertGraph.Rsa.Signature
import Mathlib.FieldTheory.Finite.Basic

/- What a key of two primes signs verifies with its public half: the exponents undo each other modulo
either prime, hence modulo their product, and a padded block is below that. -/
set_option autoImplicit false
set_option relaxedAutoImplicit false

namespace CertGraph

namespace Octets

theorem toNat_lt (octets : Octets) : toNat octets < 256 ^ octets.length := by
  induction octets using List.reverseRecOn with
  | nil => decide
  | append_singleton octets last ih =>
    have small : last.toNat < 256 := last.toNat_lt
    rw [toNat_concat, List.length_append, List.length_singleton, Nat.pow_succ]
    omega

private theorem toNat_zero_cons (octets : Octets) : toNat (0 :: octets) = toNat octets := rfl

theorem toNat_append (high low : Octets) :
    toNat (high ++ low) = toNat high * 256 ^ low.length + toNat low := by
  induction low using List.reverseRecOn with
  | nil => simp [toNat]
  | append_singleton low last ih =>
    rw [← List.append_assoc, toNat_concat, toNat_concat, ih, List.length_append,
      List.length_singleton, Nat.pow_succ]
    ring

private theorem lt_pow_length_ofNat (n : Nat) : n < 256 ^ (ofNat n).length := by
  have bound := toNat_lt (ofNat n)
  rwa [toNat_ofNat] at bound

private theorem pow_length_ofNat_le {n : Nat} (positive : n ≠ 0) :
    256 ^ ((ofNat n).length - 1) ≤ n := by
  rw [ofNat, if_neg positive, length_ofNatWidth, Nat.add_sub_cancel]
  calc 256 ^ (n.log2 / 8) = 2 ^ (8 * (n.log2 / 8)) := by rw [Nat.pow_mul]
    _ ≤ 2 ^ n.log2 := Nat.pow_le_pow_right (by decide) (Nat.mul_div_le _ _)
    _ ≤ n := Nat.log2_self_le positive

end Octets

namespace Rsa

/-- A padded block is as long as the modulus and starts with a zero. -/
private theorem toNat_padded?_lt {digest : Digest.Algorithm} {size : Nat} {message block : Octets}
    (made : padded? digest size message = some block) : Octets.toNat block < 256 ^ (size - 1) := by
  unfold padded? at made
  dsimp only at made
  split at made
  · rename_i room
    cases made
    rw [List.cons_append, Octets.toNat_zero_cons]
    refine (Octets.toNat_lt _).trans_eq (congrArg (256 ^ ·) ?_)
    simp only [List.cons_append, List.length_cons, List.length_append, List.length_replicate]
    omega
  · cases made

/-- Raising to a power that leaves one when divided by a prime less one does nothing modulo the
prime. -/
theorem pow_modEq_self {p exponent : Nat} (prime : p.Prime) (positive : 0 < exponent)
    (whole : p - 1 ∣ exponent - 1) (base : Nat) : base ^ exponent ≡ base [MOD p] := by
  by_cases divides : p ∣ base
  · have power : p ∣ base ^ exponent := dvd_pow divides positive.ne'
    exact (Nat.modEq_zero_iff_dvd.mpr power).trans (Nat.modEq_zero_iff_dvd.mpr divides).symm
  · obtain ⟨rounds, whole⟩ := whole
    have round : base ^ (p - 1) ≡ 1 [MOD p] := by
      rw [← Nat.totient_prime prime]
      exact Nat.ModEq.pow_totient ((Nat.Prime.coprime_iff_not_dvd prime).mpr divides).symm
    calc base ^ exponent = (base ^ (p - 1)) ^ rounds * base := by
          rw [← Nat.pow_mul, ← whole, ← Nat.pow_succ]
          congr 1
          omega
      _ ≡ 1 ^ rounds * base [MOD p] := (round.pow rounds).mul_right base
      _ = base := by rw [Nat.one_pow, Nat.one_mul]

/-- A power by exponents that undo each other does nothing modulo the product of the primes. -/
private theorem pow_modEq_of_period {p q exponent : Nat} (primeP : p.Prime) (primeQ : q.Prime)
    (distinct : p ≠ q) (undone : exponent % PrivateKey.period p q = 1) (base : Nat) :
    base ^ exponent ≡ base [MOD p * q] := by
  have positive : 0 < exponent := by
    by_contra none
    rw [Nat.eq_zero_of_not_pos none, Nat.zero_mod] at undone
    cases undone
  have divides : PrivateKey.period p q ∣ exponent - 1 := by
    have split := Nat.dvd_sub_mod (n := PrivateKey.period p q) exponent
    rwa [undone] at split
  have coprime : p.Coprime q := (Nat.coprime_primes primeP primeQ).mpr distinct
  refine (Nat.modEq_and_modEq_iff_modEq_mul coprime).mp ⟨?_, ?_⟩
  · exact pow_modEq_self primeP positive ((Nat.dvd_lcm_left _ _).trans divides) base
  · exact pow_modEq_self primeQ positive ((Nat.dvd_lcm_right _ _).trans divides) base

namespace PrivateKey

@[simp]
theorem publicKey_modulus (key : PrivateKey) : key.publicKey.modulus = key.modulus := rfl

@[simp]
theorem publicKey_exponent (key : PrivateKey) : key.publicKey.exponent = key.exponent := rfl

theorem padded?_of_sign? {key : PrivateKey} {message signature : Octets}
    (signed : key.sign? message = some signature) :
    ∃ block, padded? .sha256 key.publicKey.size message = some block ∧
      signature = Octets.ofNatWidth key.publicKey.size
        (powMod (Octets.toNat block) key.secret key.modulus) := by
  unfold sign? at signed
  dsimp only at signed
  cases made : padded? .sha256 key.publicKey.size message with
  | none =>
    rw [made] at signed
    cases signed
  | some block =>
    rw [made] at signed
    cases signed
    exact ⟨block, rfl, rfl⟩

/-- What a key signs verifies with its public half. -/
def WellFormed (key : PrivateKey) : Prop :=
  ∀ message signature, key.sign? message = some signature →
    key.publicKey.verifies .sha256 message signature = true

/-- A padded block is below the modulus that it was made for. -/
private theorem toNat_padded?_lt_modulus {key : PrivateKey} (positive : 0 < key.modulus)
    {message block : Octets}
    (made : padded? .sha256 key.publicKey.size message = some block) :
    Octets.toNat block < key.modulus :=
  (toNat_padded?_lt made).trans_le (Octets.pow_length_ofNat_le positive.ne')

/-- What a key signs verifies exactly if its exponents undo each other on the padded block. -/
theorem verifies_sign?_iff {key : PrivateKey} (positive : 0 < key.modulus)
    {message block signature : Octets}
    (made : padded? .sha256 key.publicKey.size message = some block)
    (signed : key.sign? message = some signature) :
    key.publicKey.verifies .sha256 message signature = true ↔
      Octets.toNat block ^ (key.secret * key.exponent) ≡ Octets.toNat block [MOD key.modulus] := by
  obtain ⟨other, same, rfl⟩ := padded?_of_sign? signed
  cases made.symm.trans same
  have reduced : powMod (Octets.toNat block) key.secret key.modulus < key.modulus := by
    rw [powMod_eq]
    exact Nat.mod_lt _ positive
  have value : Octets.toNat (Octets.ofNatWidth key.publicKey.size
      (powMod (Octets.toNat block) key.secret key.modulus)) =
        powMod (Octets.toNat block) key.secret key.modulus := by
    rw [Octets.toNat_ofNatWidth]
    exact Nat.mod_eq_of_lt (reduced.trans (Octets.lt_pow_length_ofNat key.modulus))
  have restored : powMod (powMod (Octets.toNat block) key.secret key.modulus) key.exponent
      key.modulus = Octets.toNat block ^ (key.secret * key.exponent) % key.modulus := by
    simp only [powMod_eq, Nat.pow_eq]
    rw [← Nat.pow_mod, ← Nat.pow_mul]
  unfold PublicKey.verifies
  rw [made]
  simp only [value, Octets.length_ofNatWidth, publicKey_modulus, publicKey_exponent, reduced, restored,
    decide_true, Bool.and_self, Bool.true_and, decide_eq_true_eq, Nat.ModEq,
    Nat.mod_eq_of_lt (toNat_padded?_lt_modulus positive made)]

/-- A key of two primes whose exponents undo each other is well formed. -/
theorem wellFormed_of_primes {key : PrivateKey} (primeP : key.p.Prime) (primeQ : key.q.Prime)
    (distinct : key.p ≠ key.q) (undone : key.secret * key.exponent % period key.p key.q = 1) :
    key.WellFormed := by
  intro message signature signed
  obtain ⟨block, made, -⟩ := padded?_of_sign? signed
  have positive : 0 < key.modulus := Nat.mul_pos primeP.pos primeQ.pos
  exact (verifies_sign?_iff positive made signed).mpr
    (pow_modEq_of_period primeP primeQ distinct undone (Octets.toNat block))

end PrivateKey

end Rsa

end CertGraph
