import CertGraph.Rsa.Key
import CertGraph.Rsa.Primality
import CertGraph.Seed

/- Keys from seeds: the search for two primes of the size asked for. -/
set_option autoImplicit false
set_option relaxedAutoImplicit false

namespace CertGraph.Rsa

/-- The public exponent of new keys. -/
def usualExponent : Nat := 65537

/-- The first factor for a key among so many odd numbers. It is prime and leaves the exponent
invertible. -/
def factor? : Nat → Nat → Option Nat
  | 0, _ => none
  | most + 1, n =>
    if isProbablePrime n ∧ Nat.gcd usualExponent (n - 1) = 1 then some n else factor? most (n + 2)

/-- An odd number whose two highest bits of so many are set; two such numbers have a product with
all the bits of both. -/
def start (seed : Seed) (bits : Nat) : Nat :=
  3 * Nat.pow 2 (bits - 2) + seed.number (bits - 3) * 2 + 1

/-- How many odd numbers are tried for each factor; few searches take a tenth of them. -/
def maxTries (bits : Nat) : Nat := 20 * bits

/-- The key of a size that follows from a seed, unless a search finds no factor. -/
def PrivateKey.generate? (size : Nat) (seed : Seed) : Option PrivateKey := do
  let long := (size + 1) / 2
  let short := size / 2
  let p ← factor? (maxTries long) (start (seed.child 0) long)
  let q ← factor? (maxTries short) (start (seed.child 1) short)
  if p = q then none else some (PrivateKey.ofPrimes (max p q) (min p q) usualExponent)

end CertGraph.Rsa
