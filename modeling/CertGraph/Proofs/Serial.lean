import CertGraph.Proofs.Text.Digits
import CertGraph.Serial

/- Serial numbers are read back from their texts, and agree only where their random bits do. -/
set_option autoImplicit false
set_option relaxedAutoImplicit false

namespace CertGraph.Serial

open CertGraph.Text (natOfDigits?)

/-- The number that a text without its colons is in base sixteen. -/
def read? (text : String) : Option Nat :=
  natOfDigits? 16 (text.toList.filter (· ≠ ':'))

theorem flatten_pairs (chars : List Char) : (pairs chars).flatMap String.toList = chars := by
  induction chars using pairs.induct with
  | case1 first second rest ih => simp [pairs, ih]
  | case2 last => simp [pairs]
  | case3 => rfl

/-- What is left of texts with colons between them when all colons are taken away. -/
private theorem filter_intercalate (texts : List String) :
    (":".intercalate texts).toList.filter (· ≠ ':') =
      (texts.flatMap String.toList).filter (· ≠ ':') := by
  induction texts with
  | nil => rfl
  | cons first rest ih =>
    cases rest with
    | nil => simp
    | cons second rest =>
      rw [String.intercalate_cons_cons]
      simp only [String.toList_append, List.filter_append, List.flatMap_cons] at ih ⊢
      rw [ih]
      simp

/-- The digits of serial numbers. -/
def upperDigits : List Char :=
  "0123456789ABCDEF".toList

private theorem upper_digitChar {value : Nat} (small : value < 16) :
    (Nat.digitChar value).toUpper ∈ upperDigits := by
  have all : ∀ value < 16, (Nat.digitChar value).toUpper ∈ upperDigits := by decide
  exact all value small

/-- The sign and the digits of a serial number, whatever their count. -/
def signedDigits (serial : Int) : List Char :=
  (if serial < 0 then ['-'] else []) ++ (Nat.toDigits 16 serial.natAbs).map Char.toUpper

/-- What stands in a text beside colons: a zero in front if that makes the count of the rest even. -/
theorem digits_cases (serial : Int) :
    (digits serial = signedDigits serial ∨ digits serial = '0' :: signedDigits serial) ∧
      (digits serial).length % 2 = 0 := by
  have signed : (if serial < 0 then '-' :: (Nat.toDigits 16 serial.natAbs).map Char.toUpper
      else (Nat.toDigits 16 serial.natAbs).map Char.toUpper) = signedDigits serial := by
    unfold signedDigits
    split <;> rfl
  simp only [digits, signed]
  split
  · exact ⟨.inl rfl, ‹_›⟩
  · refine ⟨.inr rfl, ?_⟩
    rw [List.length_cons]
    omega

private theorem upper_of_mem_toDigits {n : Nat} {char : Char}
    (member : char ∈ (Nat.toDigits 16 n).map Char.toUpper) : char ∈ upperDigits := by
  obtain ⟨plain, inPlain, rfl⟩ := List.mem_map.mp member
  obtain ⟨value, small, rfl⟩ := Text.mem_toDigits (by decide) inPlain
  exact upper_digitChar small

private theorem mem_signedDigits {serial : Int} {char : Char} (member : char ∈ signedDigits serial) :
    serial < 0 ∧ char = '-' ∨ char ∈ upperDigits := by
  rcases List.mem_append.mp member with isSign | inDigits
  · split at isSign
    · exact .inl ⟨‹_›, List.mem_singleton.mp isSign⟩
    · cases isSign
  · exact .inr (upper_of_mem_toDigits inDigits)

theorem mem_digits {serial : Int} {char : Char} (member : char ∈ digits serial) :
    serial < 0 ∧ char = '-' ∨ char ∈ upperDigits := by
  rcases (digits_cases serial).1 with shown | shown
  · exact mem_signedDigits (shown ▸ member)
  · rw [shown] at member
    rcases List.mem_cons.mp member with rfl | member
    · exact .inr (by decide)
    · exact mem_signedDigits member

/-- The digits are what is left of a text without its colons. -/
private theorem filter_text (serial : Int) : (text serial).toList.filter (· ≠ ':') = digits serial := by
  rw [text, filter_intercalate, flatten_pairs, List.filter_eq_self]
  intro char member
  have apart : char ≠ ':' := by
    rintro rfl
    have unlike : ':' ∉ upperDigits := by decide
    rcases mem_digits member with ⟨-, isSign⟩ | upper
    · cases isSign
    · exact unlike upper
  simpa using apart

private theorem sign_mem_digits {serial : Int} : '-' ∈ digits serial ↔ serial < 0 := by
  constructor
  · intro member
    have unlike : '-' ∉ upperDigits := by decide
    exact (mem_digits member).resolve_right unlike |>.1
  · intro negative
    have signed : '-' ∈ signedDigits serial := by simp [signedDigits, negative]
    rcases (digits_cases serial).1 with shown | shown
    · exact shown ▸ signed
    · exact shown ▸ List.mem_cons_of_mem _ signed

/-- The digits without the sign are those of the amount. -/
theorem amount_of_digits (serial : Int) :
    natOfDigits? 16 ((digits serial).filter (· ≠ '-')) = some serial.natAbs := by
  have unsigned : (signedDigits serial).filter (· ≠ '-') =
      (Nat.toDigits 16 serial.natAbs).map Char.toUpper := by
    have kept : ((Nat.toDigits 16 serial.natAbs).map Char.toUpper).filter (· ≠ '-') =
        (Nat.toDigits 16 serial.natAbs).map Char.toUpper := by
      refine List.filter_eq_self.mpr fun char member => ?_
      have apart : char ≠ '-' := by
        rintro rfl
        have unlike : '-' ∉ upperDigits := by decide
        exact unlike (upper_of_mem_toDigits member)
      simpa using apart
    rw [signedDigits, List.filter_append, kept]
    split <;> rfl
  have reads : natOfDigits? 16 ((Nat.toDigits 16 serial.natAbs).map Char.toUpper) =
      some serial.natAbs :=
    Text.natOfDigits?_toDigits (by decide) (fun value small => Text.digitValue?_toUpper small) _
  rcases (digits_cases serial).1 with shown | shown
  · rw [shown, unsigned, reads]
  · have some_digits : (Nat.toDigits 16 serial.natAbs).map Char.toUpper ≠ [] := by simp
    have padded : natOfDigits? 16
        (List.replicate 1 '0' ++ (Nat.toDigits 16 serial.natAbs).map Char.toUpper) =
          natOfDigits? 16 ((Nat.toDigits 16 serial.natAbs).map Char.toUpper) :=
      Text.natOfDigits?_replicate (by decide) some_digits 1
    rw [shown, List.filter_cons_of_pos (by decide), unsigned, ← reads, ← padded]
    rfl

/-- No two serial numbers are shown alike. -/
theorem text_inj {first second : Int} : text first = text second ↔ first = second := by
  refine ⟨fun same => ?_, fun same => same ▸ rfl⟩
  have sameDigits : digits first = digits second := by
    rw [← filter_text, ← filter_text, same]
  have sameAmount : first.natAbs = second.natAbs := by
    have amounts := amount_of_digits first
    rw [sameDigits, amount_of_digits second] at amounts
    exact (Option.some.inj amounts).symm
  have sameSign : first < 0 ↔ second < 0 := by
    rw [← sign_mem_digits, ← sign_mem_digits, sameDigits]
  omega

theorem read?_text (n : Nat) : read? (text n) = some n := by
  have unsigned : '-' ∉ digits n := by
    rw [sign_mem_digits]
    omega
  have kept : (digits n).filter (· ≠ '-') = digits n := by
    rw [List.filter_eq_self]
    intro char member
    have apart : char ≠ '-' := fun isSign => unsigned (isSign ▸ member)
    simpa using apart
  rw [read?, filter_text, ← kept, amount_of_digits]
  rfl

/-- The bits of a random number that its serial number keeps. -/
def freeBits : List Nat :=
  (List.range 128).filter fun bit => !(bit = 62 || bit = 63 || (76 ≤ bit && bit < 80))

private theorem mem_freeBits {bit : Nat} :
    bit ∈ freeBits ↔ bit < 128 ∧ bit ≠ 62 ∧ bit ≠ 63 ∧ (bit < 76 ∨ 80 ≤ bit) := by
  simp only [freeBits, List.mem_filter, List.mem_range, Bool.not_eq_true', Bool.or_eq_false_iff,
    Bool.and_eq_false_iff, decide_eq_false_iff_not]
  omega

/-- A serial number as bits. -/
private def bitsOf (random : BitVec 128) : BitVec 128 :=
  (random &&& ~~~(0xf#128 <<< 76) &&& ~~~(0x3#128 <<< 62)) ||| 0x4#128 <<< 76 ||| 0x2#128 <<< 62

private theorem toNat_bitsOf (random : BitVec 128) : (bitsOf random).toNat = ofRandom random := rfl

/-- Each bit of a serial number is that of the random number or fixed. -/
private theorem getLsbD_bitsOf (random : BitVec 128) {bit : Nat} (inside : bit < 128) :
    (bitsOf random).getLsbD bit = if bit ∈ freeBits then random.getLsbD bit
      else decide (bit = 78 ∨ bit = 63) := by
  have masks : ∀ bit < 128,
      ((~~~(0xf#128 <<< 76) &&& ~~~(0x3#128 <<< 62)).getLsbD bit = decide (bit ∈ freeBits)) ∧
      ((0x4#128 <<< 76 ||| 0x2#128 <<< 62).getLsbD bit = decide (bit = 78 ∨ bit = 63)) := by
    decide +kernel
  obtain ⟨kept, fixed⟩ := masks bit inside
  rw [bitsOf, BitVec.or_assoc, BitVec.and_assoc, BitVec.getLsbD_or, BitVec.getLsbD_and, kept, fixed]
  by_cases free : bit ∈ freeBits
  · have apart : ¬ (bit = 78 ∨ bit = 63) := by
      have := mem_freeBits.mp free
      omega
    simp only [free, apart, decide_true, decide_false, Bool.and_true, Bool.or_false, if_true]
  · simp only [free, decide_false, Bool.and_false, Bool.false_or, if_false]

/-- Serial numbers are equal exactly if the random numbers agree in their free bits. -/
theorem ofRandom_eq_iff {first second : BitVec 128} :
    ofRandom first = ofRandom second ↔
      ∀ bit ∈ freeBits, first.getLsbD bit = second.getLsbD bit := by
  rw [← toNat_bitsOf, ← toNat_bitsOf, ← BitVec.toNat_eq]
  constructor
  · intro same bit free
    have equal := congrArg (·.getLsbD bit) same
    simpa only [getLsbD_bitsOf _ (mem_freeBits.mp free).1, free, if_true] using equal
  · intro agree
    refine BitVec.eq_of_getLsbD_eq fun bit inside => ?_
    rw [getLsbD_bitsOf _ inside, getLsbD_bitsOf _ inside]
    split
    · exact agree bit ‹_›
    · rfl

example : freeBits.length = 122 := by decide +kernel

theorem ofRandom_lt (random : BitVec 128) : ofRandom random < 2 ^ 128 :=
  (bitsOf random).isLt

theorem ofRandom_pos (random : BitVec 128) : 0 < ofRandom random := by
  have set : (bitsOf random).getLsbD 78 = true := by
    rw [getLsbD_bitsOf random (by decide), if_neg (by simp [mem_freeBits])]
    rfl
  refine Nat.pos_of_ne_zero fun zero => ?_
  have none : bitsOf random = 0#128 := BitVec.eq_of_toNat_eq zero
  rw [none] at set
  cases set

end CertGraph.Serial
