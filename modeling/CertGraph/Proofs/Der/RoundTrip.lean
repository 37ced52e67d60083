import CertGraph.Der
import Mathlib.Data.List.Basic

/- What is written as elements is read back as the same elements. -/
set_option autoImplicit false
set_option relaxedAutoImplicit false

namespace CertGraph.Der

private theorem length_ofNat_pos {n : Nat} (positive : n ≠ 0) : 0 < (Octets.ofNat n).length := by
  rw [Octets.ofNat, if_neg positive, Octets.length_ofNatWidth]
  omega

/-- The octets of a long length: a head that tells how many follow, and these. -/
private theorem lengthOctets_long {length : Nat} (isLong : ¬ length < 128) (rest : Octets) :
    ∃ first body, lengthOctets length ++ rest = first :: body ∧ ¬ first.toNat < 128 ∧
      longHead first body = ((Octets.ofNat length).length, Octets.ofNat length ++ rest) := by
  have positive := length_ofNat_pos (n := length) (by omega)
  rw [lengthOctets, if_neg isLong]
  dsimp only
  generalize Octets.ofNat length = digits at positive ⊢
  by_cases few : digits.length ≤ 126
  · have value : (UInt8.ofNat (128 + digits.length)).toNat = 128 + digits.length := by
      rw [UInt8.toNat_ofNat']
      omega
    refine ⟨UInt8.ofNat (128 + digits.length), digits ++ rest, by rw [if_pos few]; rfl, by omega, ?_⟩
    have notFull : UInt8.ofNat (128 + digits.length) ≠ 0xff := by
      intro full
      have := congrArg UInt8.toNat full
      rw [value] at this
      simp at this
      omega
    rw [longHead, if_neg notFull, value]
    simp
  · obtain ⟨more, count⟩ : ∃ more, digits.length = more + 1 :=
      Nat.exists_eq_succ_of_ne_zero (by omega)
    refine ⟨0xff, List.replicate more 0xff ++ 0 :: digits ++ rest, ?_, by decide, ?_⟩
    · rw [if_neg few, count, List.replicate_succ]
      simp
    · have marks : (List.replicate more 0xff ++ 0 :: digits ++ rest).takeWhile
          (fun octet : UInt8 => octet = 0xff) = List.replicate more 0xff := by
        rw [List.append_assoc, List.takeWhile_append_of_pos (by simp)]
        simp
      have after : (List.replicate more 0xff ++ 0 :: digits ++ rest).dropWhile
          (fun octet : UInt8 => octet = 0xff) = 0 :: digits ++ rest := by
        rw [List.append_assoc, List.dropWhile_append_of_pos (by simp)]
        simp
      rw [longHead, if_pos rfl, marks, after, count]
      simp

/-- A length is read back, with what follows it. -/
theorem readLength?_lengthOctets (length : Nat) (rest : Octets) :
    readLength? (lengthOctets length ++ rest) = some (length, rest) := by
  by_cases short : length < 128
  · have value : (UInt8.ofNat length).toNat = length := by
      rw [UInt8.toNat_ofNat']
      omega
    simp [lengthOctets, short, readLength?, value]
  · obtain ⟨first, body, written, isLong, head⟩ := lengthOctets_long short rest
    rw [written, readLength?, if_neg isLong]
    simp only [head, List.take_left, List.drop_left, Octets.toNat_ofNat, written, if_true]

/-- An element is read back, with what follows it. -/
theorem next?_encode (element : Element) (rest : Octets) :
    next? (element.encode ++ rest) = some (element, rest) := by
  have split : element.encode ++ rest =
      element.tag :: (lengthOctets element.contents.length ++ (element.contents ++ rest)) := by
    simp [Element.encode]
  rw [split, next?, readLength?_lengthOctets]
  simp

theorem element?_encode (element : Element) : element? element.encode = some element := by
  have read := next?_encode element []
  rw [List.append_nil] at read
  rw [element?, read]

private theorem readAll?_encodeAll (elements : List Element) (count : Nat)
    (enough : elements.length ≤ count) : readAll? count (encodeAll elements) = some elements := by
  induction elements generalizing count with
  | nil => cases count <;> rfl
  | cons element elements ih =>
    cases count with
    | zero => cases enough
    | succ count =>
      have split : encodeAll (element :: elements) = element.encode ++ encodeAll elements := rfl
      have written : element.encode ++ encodeAll elements =
          element.tag :: (lengthOctets element.contents.length ++
            (element.contents ++ encodeAll elements)) := by
        simp [Element.encode]
      have read := next?_encode element (encodeAll elements)
      rw [written] at read
      rw [split, written, readAll?, read]
      · simp [ih count (by simpa using enough)]
      · exact nofun

private theorem length_le_encodeAll (elements : List Element) :
    elements.length ≤ (encodeAll elements).length := by
  induction elements with
  | nil => exact Nat.le_refl 0
  | cons element elements ih =>
    have split : encodeAll (element :: elements) = element.encode ++ encodeAll elements := rfl
    rw [split, List.length_append, List.length_cons, Element.encode, List.length_append,
      List.length_cons]
    omega

/-- Elements one after the other are read back. -/
theorem elements?_encodeAll (elements : List Element) :
    elements? (encodeAll elements) = some elements :=
  readAll?_encodeAll elements _ (length_le_encodeAll elements)

theorem sequenceMembers?_sequence (elements : List Element) :
    sequenceMembers? (sequence elements) = some elements := by
  rw [sequenceMembers?, sequence, if_pos rfl, elements?_encodeAll]

private theorem toNat_natContents (n : Nat) : Octets.toNat (natContents n) = n := by
  have value := Octets.toNat_ofNat n
  unfold natContents
  split
  · rename_i nothing
    rw [nothing] at value
    exact value
  · rename_i first rest digits
    rw [digits] at value
    split
    · exact value
    · simpa [Octets.toNat] using value

/-- A number is read back from its element. -/
theorem natOf?_integer (n : Nat) : natOf? (integer n) = some n := by
  simp only [natOf?, integer, toNat_natContents, if_true]

private theorem natContents_cons (n : Nat) :
    ∃ first rest, natContents n = first :: rest ∧ first < 128 := by
  unfold natContents
  split
  · exact ⟨0, [], rfl, by decide⟩
  · rename_i first rest digits
    split
    · rename_i small
      exact ⟨first, rest, rfl, small⟩
    · exact ⟨0, first :: rest, rfl, by decide⟩

theorem intOf?_signed (n : Int) : intOf? (signed n) = some n := by
  cases n with
  | ofNat n =>
    obtain ⟨first, rest, contents, small⟩ := natContents_cons n
    have value := toNat_natContents n
    have read : (signed (Int.ofNat n)).contents = first :: rest := contents
    rw [contents] at value
    simp only [intOf?, read, small, if_true, value]
  | negSucc n =>
    obtain ⟨first, rest, contents, small⟩ := natContents_cons n
    have value := toNat_natContents n
    have read : (signed (Int.negSucc n)).contents = (natContents n).map fun octet => ~~~octet := rfl
    have large : ¬ ~~~first < 128 := by
      have value := UInt8.toNat_not first
      have below : first.toNat < 128 := small
      intro lower
      have belowAlso : (~~~first).toNat < 128 := lower
      simp only [UInt8.size] at value
      omega
    have twice : ((natContents n).map fun octet => ~~~octet).map (fun octet => ~~~octet) =
        natContents n := by
      rw [List.map_map]
      exact List.map_id'' (fun octet => UInt8.not_not) _
    rw [contents, List.map_cons] at read
    have back : Octets.toNat ((~~~first :: rest.map fun octet => ~~~octet).map
        fun octet => ~~~octet) = n := by
      rw [← List.map_cons, ← contents, twice, value]
    simp only [intOf?, read, large, if_false, back, if_true]

theorem bitsOf?_bitString {bits : Bits} (proper : bits.isProper = true) :
    bitsOf? (bitString bits) = some bits := by
  have read : Bits.ofContents? (bits.unused :: bits.octets) = some bits := if_pos proper
  exact read

theorem isProper_ofOctets (octets : Octets) : (Bits.ofOctets octets).isProper = true := by
  unfold Bits.isProper Bits.ofOctets
  split
  · rfl
  · simp [Nat.mod_one]

end CertGraph.Der
