import CertGraph.Rsa.Arithmetic

/- Primality, by the square roots of one. -/
set_option autoImplicit false
set_option relaxedAutoImplicit false

namespace CertGraph.Rsa

/-- The primes by which a number is tried first. -/
def smallPrimes : List Nat :=
  [2, 3, 5, 7, 11, 13, 17, 19, 23, 29, 31, 37, 41, 43, 47, 53, 59, 61, 67, 71, 73, 79, 83, 89, 97]

/-- How often two divides a number, at most so many times, and the rest. -/
private def halvings : Nat → Nat → Nat × Nat
  | 0, n => (0, n)
  | most + 1, n =>
    if n % 2 = 0 then
      let (count, odd) := halvings most (n / 2)
      (count + 1, odd)
    else (0, n)

/-- Whether squaring so many times leads to minus one. -/
private def reachesMinusOne (n : Nat) : Nat → Nat → Bool
  | 0, _ => false
  | squarings + 1, x => x = n - 1 || reachesMinusOne n squarings (x * x % n)

/-- Whether a number behaves like a prime when a base is raised to the number less one: on the way
there, one has no square root but one and minus one. -/
def passes (n base : Nat) : Bool :=
  let (count, odd) := halvings (n.log2 + 1) (n - 1)
  let x := powMod base odd n
  x = 1 || reachesMinusOne n count x

private theorem halvings_spec (most n : Nat) :
    (halvings most n).2 * Nat.pow 2 (halvings most n).1 = n := by
  induction most generalizing n with
  | zero => exact Nat.mul_one n
  | succ most ih =>
    unfold halvings
    split
    · next even =>
      have half := ih (n / 2)
      have double : Nat.pow 2 ((halvings most (n / 2)).1 + 1) =
          Nat.pow 2 (halvings most (n / 2)).1 * 2 := rfl
      simp only [double, ← Nat.mul_assoc, half]
      omega
    · exact Nat.mul_one n

/-- Squares that come to one come there through minus one, where one has no other square root. -/
private theorem reachesMinusOne_of_roots {n : Nat}
    (roots : ∀ x, x < n → x * x % n = 1 → x = 1 ∨ x = n - 1) (squarings x : Nat) (below : x < n)
    (power : Nat.pow x (Nat.pow 2 squarings) % n = 1) :
    x = 1 ∨ reachesMinusOne n squarings x = true := by
  induction squarings generalizing x with
  | zero =>
    have itself : Nat.pow x (Nat.pow 2 0) = x := Nat.pow_one x
    rw [itself, Nat.mod_eq_of_lt below] at power
    exact .inl power
  | succ squarings ih =>
    have squared : Nat.pow (x * x % n) (Nat.pow 2 squarings) % n = 1 := by
      have double : Nat.pow 2 (squarings + 1) = 2 * Nat.pow 2 squarings := Nat.mul_comm ..
      simp only [double, Nat.pow_eq] at power ⊢
      rwa [← Nat.pow_mod, ← Nat.pow_two, ← Nat.pow_mul]
    simp only [reachesMinusOne, Bool.or_eq_true, decide_eq_true_eq]
    rcases ih (x * x % n) (Nat.mod_lt _ (by omega)) squared with root | reached
    · exact (roots x below root).imp id .inl
    · exact .inr (.inr reached)

/-- A number passes for a base whose power is one, if one has no square roots but itself and minus
one. -/
theorem passes_of_roots {n base : Nat} (large : 1 < n)
    (roots : ∀ x, x < n → x * x % n = 1 → x = 1 ∨ x = n - 1)
    (power : Nat.pow base (n - 1) % n = 1) : passes n base = true := by
  have whole := halvings_spec (n.log2 + 1) (n - 1)
  have steps : Nat.pow (powMod base (halvings (n.log2 + 1) (n - 1)).2 n)
      (Nat.pow 2 (halvings (n.log2 + 1) (n - 1)).1) % n = 1 := by
    rw [powMod_eq]
    simp only [Nat.pow_eq] at power whole ⊢
    rwa [← Nat.pow_mod, ← Nat.pow_mul, whole]
  have below : powMod base (halvings (n.log2 + 1) (n - 1)).2 n < n := by
    rw [powMod_eq]
    exact Nat.mod_lt _ (by omega)
  simp only [passes, Bool.or_eq_true, decide_eq_true_eq]
  exact reachesMinusOne_of_roots roots _ _ below steps

/-- Whether a number is a prime, as far as the small primes tell by division and as bases. -/
def isProbablePrime (n : Nat) : Bool :=
  smallPrimes.contains n ||
    1 < n && smallPrimes.all (fun p => n % p ≠ 0) && smallPrimes.all (passes n)

end CertGraph.Rsa
