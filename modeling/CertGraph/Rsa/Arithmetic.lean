/- Powers and inverses modulo a number. -/
set_option autoImplicit false
set_option relaxedAutoImplicit false

namespace CertGraph.Rsa

/-- A power modulo a number by repeated squaring, for exponents of at most so many bits. -/
private def powModBits (modulus : Nat) : Nat → Nat → Nat → Nat
  | 0, _, _ => 1 % modulus
  | bits + 1, base, exponent =>
    let rest := powModBits modulus bits (base * base % modulus) (exponent / 2)
    if exponent % 2 = 1 then rest * base % modulus else rest

/-- A power modulo a number. -/
def powMod (base exponent modulus : Nat) : Nat :=
  powModBits modulus (exponent.log2 + 1) base exponent

private theorem powModBits_eq (modulus bits base exponent : Nat)
    (short : exponent < Nat.pow 2 bits) :
    powModBits modulus bits base exponent = Nat.pow base exponent % modulus := by
  induction bits generalizing base exponent with
  | zero =>
    have : exponent = 0 := by simpa using short
    subst exponent
    simp [powModBits]
  | succ bits ih =>
    have half : exponent / 2 < Nat.pow 2 bits := by
      have longer : Nat.pow 2 (bits + 1) = Nat.pow 2 bits * 2 := rfl
      omega
    have squared : Nat.pow (base * base % modulus) (exponent / 2) % modulus =
        Nat.pow base (2 * (exponent / 2)) % modulus := by
      simp only [Nat.pow_eq]
      rw [← Nat.pow_mod, Nat.pow_mul, Nat.pow_two]
    unfold powModBits
    simp only [ih _ _ half, squared]
    split
    · next odd =>
      have whole : exponent = 2 * (exponent / 2) + 1 := by omega
      have step : Nat.pow base exponent = Nat.pow base (2 * (exponent / 2)) * base :=
        congrArg (Nat.pow base) whole
      rw [step, Nat.mod_mul_mod]
    · next even =>
      have whole : exponent = 2 * (exponent / 2) := by omega
      exact congrArg (fun power => Nat.pow base power % modulus) whole.symm

/-- Repeated squaring computes the power. -/
theorem powMod_eq (base exponent modulus : Nat) :
    powMod base exponent modulus = Nat.pow base exponent % modulus :=
  powModBits_eq modulus _ base exponent Nat.lt_log2_self

/-- Euclid's division chain; beside each remainder stands a multiplier that reaches it. -/
private def inverseSteps : Nat → Nat × Int → Nat × Int → Nat × Int
  | 0, earlier, _ => earlier
  | steps + 1, earlier, later =>
    if later.1 = 0 then earlier
    else
      inverseSteps steps later
        (earlier.1 % later.1, earlier.2 - (earlier.1 / later.1 : Nat) * later.2)

/-- The number that multiplies `n` to one modulo `modulus`, when the two are coprime. -/
def inverse (n modulus : Nat) : Nat :=
  let last := inverseSteps (2 * modulus.log2 + 3) (modulus, 0) (n % modulus, 1)
  (last.2 % (modulus : Int)).toNat

end CertGraph.Rsa
