import CertGraph.Certificate.Basic
import CertGraph.Proofs.Serial

/- Serial numbers in groups of two upper-case hexadecimal digits: the shape of the text, and that no
two serial numbers share one. -/
set_option autoImplicit false
set_option relaxedAutoImplicit false

namespace CertGraph

namespace Serial

/-- A group of two upper-case digits. -/
def IsOctet (group : String) : Prop :=
  ∃ high ∈ upperDigits, ∃ low ∈ upperDigits, group = String.ofList [high, low]

private theorem upper_eq_zero {value : Nat} (small : value < 16)
    (isZero : (Nat.digitChar value).toUpper = '0') : Nat.digitChar value = '0' := by
  have all : ∀ value < 16, (Nat.digitChar value).toUpper = '0' → Nat.digitChar value = '0' := by
    decide
  exact all value small isZero

private theorem pairs_octets {chars : List Char} (even : chars.length % 2 = 0)
    (upper : ∀ char ∈ chars, char ∈ upperDigits) : ∀ group ∈ pairs chars, IsOctet group := by
  induction chars using pairs.induct with
  | case1 high low rest ih =>
    intro group member
    rcases List.mem_cons.mp member with rfl | member
    · exact ⟨high, upper high (by simp), low, upper low (by simp), rfl⟩
    · have evenRest : rest.length % 2 = 0 := by
        simp only [List.length_cons] at even
        omega
      exact ih evenRest (fun char inRest => upper char (by simp [inRest])) group member
  | case2 last => cases even
  | case3 =>
    intro group member
    cases member

private theorem pairs_head? {chars : List Char} {high low : Char}
    (first : (pairs chars).head? = some (String.ofList [high, low])) :
    ∃ rest, chars = high :: low :: rest := by
  cases chars using pairs.induct with
  | case1 first' second rest =>
    have same := String.ofList_injective (Option.some.inj first)
    cases same
    exact ⟨rest, rfl⟩
  | case2 last =>
    have same := String.ofList_injective (Option.some.inj first)
    cases same
  | case3 => cases first

/-- Two zeros in front are the digits of zero. -/
private theorem eq_zero_of_digits {n : Nat} {rest : List Char} (zeros : digits n = '0' :: '0' :: rest) :
    n = 0 := by
  have plain : signedDigits n = (Nat.toDigits 16 n).map Char.toUpper := by
    rw [signedDigits, if_neg (by omega), List.nil_append, Int.natAbs_natCast]
  -- one zero may be there for the count, so that at least the other is a digit of the number
  have starts : ((Nat.toDigits 16 n).map Char.toUpper).head? = some '0' := by
    rcases (digits_cases n).1 with shown | shown <;> rw [zeros, plain] at shown
    · exact (congrArg List.head? shown).symm
    · exact (congrArg List.head? (List.tail_eq_of_cons_eq shown)).symm
  obtain ⟨first, isFirst, upper⟩ : ∃ first, (Nat.toDigits 16 n).head? = some first ∧
      first.toUpper = '0' := by simpa using starts
  obtain ⟨value, small, rfl⟩ := Text.mem_toDigits (by decide) (List.mem_of_head? isFirst)
  rw [upper_eq_zero small upper] at isFirst
  exact Text.eq_zero_of_head?_toDigits (by decide) (by decide) isFirst

/-- The groups of a natural number: pairs of digits, the first of which is not zero unless the number
is. -/
private theorem octets_of_digits (n : Nat) :
    pairs (digits n) ≠ [] ∧ (∀ group ∈ pairs (digits n), IsOctet group) ∧
      ((pairs (digits n)).head? = some "00" ↔ n = 0) := by
  have even := (digits_cases n).2
  refine ⟨?_, pairs_octets even fun char member => ?_, fun first => ?_, ?_⟩
  · intro none
    have nothing := flatten_pairs (digits n)
    rw [none] at nothing
    have amount := amount_of_digits n
    rw [← nothing] at amount
    cases amount
  · exact (mem_digits member).resolve_left fun signed => absurd signed.1 (by omega)
  · obtain ⟨rest, zeros⟩ : ∃ rest, digits n = '0' :: '0' :: rest := pairs_head? first
    exact eq_zero_of_digits zeros
  · rintro rfl
    rfl

end Serial

namespace Certificate

/-- The serial number of a certificate as text, for any natural number: groups of two upper-case
hexadecimal digits with colons between them, of which the first is not zero unless the number is; without
colons they are the number in base sixteen. No other serial number, of either sign, is shown so. -/
theorem serialText_octets (certificate : Certificate) (n : Nat)
    (numbered : certificate.body.serial = n) :
    (∃ groups, groups ≠ [] ∧ certificate.serialText = ":".intercalate groups ∧
      (∀ group ∈ groups, Serial.IsOctet group) ∧ (groups.head? = some "00" ↔ n = 0)) ∧
    Serial.read? certificate.serialText = some n ∧
    ∀ other : Certificate, other.serialText = certificate.serialText ↔
      other.body.serial = certificate.body.serial := by
  obtain ⟨nonempty, octets, leading⟩ := Serial.octets_of_digits n
  refine ⟨⟨Serial.pairs (Serial.digits n), nonempty, ?_, octets, leading⟩, ?_, fun other =>
    Serial.text_inj⟩
  · rw [serialText, numbered, Serial.text]
  · rw [serialText, numbered, Serial.read?_text]

/-- A certificate about nothing, with a serial number. -/
def blank (serial : Int) : Certificate where
  body :=
    { version := firstVersion
      serial
      algorithm := signatureAlgorithm
      issuer := ⟨[], rfl⟩
      notBefore := ⟨⟨0⟩, true⟩
      notAfter := ⟨⟨0⟩, true⟩
      subject := ⟨[], rfl⟩
      key := ⟨signatureAlgorithm, .ofOctets []⟩
      issuerId := none
      subjectId := none
      extensions := none }
  algorithm := signatureAlgorithm
  signature := .ofOctets []

/-- An odd count of digits, zeros within: the serial number is shown as `0F:00:1A`. -/
theorem blank_octets :
    (blank 0xf001a).serialText = "0F:00:1A" ∧
    Serial.read? (blank 0xf001a).serialText = some 0xf001a ∧
    (blank 0x0f).serialText ≠ (blank 0xf001a).serialText ∧
    (blank (-0xf001a)).serialText ≠ (blank 0xf001a).serialText := by
  obtain ⟨-, reads, unlike⟩ := serialText_octets (blank 0xf001a) 0xf001a rfl
  exact ⟨by decide +kernel, reads, (unlike _).not.mpr (by decide), (unlike _).not.mpr (by decide)⟩

end Certificate

end CertGraph
