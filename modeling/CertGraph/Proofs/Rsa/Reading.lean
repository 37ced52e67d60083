import CertGraph.Proofs.Certificate.KeyIdentifiers
import CertGraph.Proofs.Certificate.RoundTrip
import CertGraph.Rsa.Armored
import Mathlib.FieldTheory.Finite.Basic
import Mathlib.Tactic.NormNum.Prime

/- RSA keys are read back from their encoding and from their armor: their factors pass for the primes
that they are. -/
set_option autoImplicit false
set_option relaxedAutoImplicit false

namespace CertGraph.Rsa

/-- Modulo a prime, one has no square roots but itself and minus one. -/
theorem eq_of_square_mod_prime {p x : Nat} (prime : p.Prime) (below : x < p)
    (square : x * x % p = 1) : x = 1 ∨ x = p - 1 := by
  have positive : x ≠ 0 := by
    rintro rfl
    rw [Nat.zero_mul, Nat.zero_mod] at square
    cases square
  have factors : (x - 1) * (x + 1) = x * x - 1 := by
    rw [Nat.mul_comm, ← Nat.mul_self_sub_mul_self_eq, Nat.one_mul]
  have divides : p ∣ (x - 1) * (x + 1) := by
    rw [factors]
    exact (Nat.modEq_iff_dvd' (Nat.mul_pos (by omega) (by omega))).mp
      ((Nat.mod_eq_of_lt prime.one_lt).trans square.symm)
  rcases (Nat.Prime.dvd_mul prime).mp divides with lower | upper
  · left
    have := Nat.eq_zero_of_dvd_of_lt lower (by omega)
    omega
  · right
    have := Nat.le_of_dvd (by omega) upper
    omega

/-- A prime passes for every base that it does not divide. -/
private theorem passes_of_prime {p base : Nat} (prime : p.Prime) (coprime : ¬ p ∣ base) :
    passes p base = true := by
  have power : base ^ (p - 1) ≡ 1 [MOD p] := by
    rw [← Nat.totient_prime prime]
    exact Nat.ModEq.pow_totient ((Nat.Prime.coprime_iff_not_dvd prime).mpr coprime).symm
  have one : base ^ (p - 1) % p = 1 := Eq.trans power (Nat.mod_eq_of_lt prime.one_lt)
  exact passes_of_roots prime.one_lt (fun x => eq_of_square_mod_prime prime) one

private theorem prime_of_mem_smallPrimes : ∀ small ∈ smallPrimes, small.Prime := by
  norm_num [smallPrimes]

/-- Every prime is found to be one. -/
theorem isProbablePrime_of_prime {p : Nat} (prime : p.Prime) : isProbablePrime p = true := by
  by_cases listed : p ∈ smallPrimes
  · simp [isProbablePrime, listed]
  · have apart : ∀ small ∈ smallPrimes, small ≠ p := fun small member same =>
      listed (same ▸ member)
    have undivided : ∀ small ∈ smallPrimes, p % small ≠ 0 := fun small member divides =>
      apart small member ((Nat.prime_dvd_prime_iff_eq (prime_of_mem_smallPrimes small member)
        prime).mp (Nat.dvd_of_mod_eq_zero divides))
    have passed : ∀ small ∈ smallPrimes, passes p small = true := fun small member =>
      passes_of_prime prime fun divides => apart small member ((Nat.prime_dvd_prime_iff_eq prime
        (prime_of_mem_smallPrimes small member)).mp divides).symm
    simp only [isProbablePrime, prime.one_lt, decide_true, Bool.true_and, Bool.or_eq_true,
      Bool.and_eq_true, List.all_eq_true, decide_eq_true_eq]
    exact .inr ⟨undivided, passed⟩

namespace PrivateKey

/-- The factors of a key are primes, its public exponent is odd and not one, and the exponents undo
each other. -/
structure Genuine (key : PrivateKey) : Prop where
  primes : key.p.Prime ∧ key.q.Prime
  exponent : 1 < key.exponent ∧ key.exponent % 2 = 1
  undone : key.secret * key.exponent % period key.p key.q = 1

private theorem Genuine.isConsistent {key : PrivateKey} (genuine : key.Genuine) :
    key.isConsistent = true := by
  simp only [PrivateKey.isConsistent, isProbablePrime_of_prime genuine.primes.1,
    isProbablePrime_of_prime genuine.primes.2, genuine.exponent.1, genuine.exponent.2,
    genuine.undone, decide_true, Bool.and_self]

private theorem ofElement?_element {key : PrivateKey} (genuine : key.Genuine) :
    ofElement? key.element = some key := by
  have members : Der.sequenceMembers? key.element = _ := Der.sequenceMembers?_sequence _
  have consistent := genuine.isConsistent
  rw [ofElement?, members]
  simp only [bind, Option.bind, List.map_cons, List.map_nil, Der.natOf?_integer]
  exact if_pos ⟨consistent, trivial⟩

private theorem ofOctets_encode {key : PrivateKey} (genuine : key.Genuine) :
    ofOctets key.element.encode = .ok key := by
  have read : (Der.element? key.element.encode >>= ofElement?) = some key := by
    rw [Der.element?_encode]
    exact ofElement?_element genuine
  rw [ofOctets, read]

private theorem ofInfo_encode {key : PrivateKey} (genuine : key.Genuine) :
    ofInfo key.info.encode = .ok key := by
  have members : (Der.element? key.info.encode >>= Der.sequenceMembers?) =
      some [Der.integer 0, keyAlgorithm.element, Der.octetString key.element.encode] := by
    rw [Der.element?_encode]
    exact Der.sequenceMembers?_sequence _
  have algorithm : Algorithm.ofElement? keyAlgorithm.element = some keyAlgorithm :=
    Algorithm.ofElement?_element (by decide)
  have permitted : keyAlgorithm.isPermitted = true := by decide +kernel
  rw [ofInfo, members]
  dsimp only
  rw [algorithm]
  calc _ = _ := if_pos ⟨rfl, rfl, rfl⟩
    _ = _ := if_pos (.inl rfl)
    _ = ofOctets key.element.encode := if_pos permitted
    _ = .ok key := ofOctets_encode genuine

/-- A genuine key is read back from its armor. -/
theorem ofPem_pem {key : PrivateKey} (genuine : key.Genuine) : ofPem key.pem = .ok key := by
  have armored : key.pem = Armor.armoredAll [(infoLabel, key.info.encode)] :=
    (List.append_nil _).symm
  have isLabel : Armor.IsLabel infoLabel := by decide
  have found : Armor.findBlock? [infoLabel, bareLabel, curveLabel, dsaLabel, encryptedLabel]
      key.pem = some ⟨infoLabel, [], key.info.encode⟩ := by
    rw [armored, Armor.findBlock?_armoredAll (List.forall_mem_singleton.mpr isLabel)]
    simp
  have headless : (⟨infoLabel, [], key.info.encode⟩ : Armor.Block).header? "Proc-Type" = none := rfl
  rw [ofPem, found]
  dsimp only
  rw [ofBlock, headless]
  exact (if_pos rfl).trans (ofInfo_encode genuine)

end PrivateKey

end CertGraph.Rsa
