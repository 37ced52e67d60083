import CertGraph.Net.Network
import CertGraph.Proofs.Net.AddressText

/- Networks are read back from their texts. -/
set_option autoImplicit false
set_option relaxedAutoImplicit false

namespace CertGraph

open CertGraph.Text (natOfDigits? maxDigits)

namespace Net

namespace Address

private theorem wellZoned_of_readV4? {chars : List Char} {address : Address}
    (reads : readV4? chars = some address) : WellZoned address := by
  obtain ⟨value, -, isAddress⟩ := Option.bind_eq_some_iff.mp reads
  rw [← Option.some.inj isAddress]
  exact trivial

private theorem splitZone?_of_readV6? {chars : List Char} {address : Address}
    (reads : readV6? chars = some address) :
    ∃ before bits zone, splitZone? chars = some (before, zone) ∧ address = .v6 bits zone := by
  obtain ⟨⟨before, zone⟩, parted, rest⟩ := Option.bind_eq_some_iff.mp reads
  dsimp only at rest
  split at rest
  · cases rest
  · obtain ⟨groups, -, rest⟩ := Option.bind_eq_some_iff.mp rest
    split at rest
    · cases rest
    · obtain ⟨values, -, isAddress⟩ := Option.bind_eq_some_iff.mp rest
      exact ⟨before, _, zone, parted, (Option.some.inj isAddress).symm⟩

/-- A zone that was read can be written: the text was divided at every mark that may not stand in it. -/
private theorem wellZoned_of_readV6? {chars : List Char} {address : Address} (unparted : '/' ∉ chars)
    (reads : readV6? chars = some address) : WellZoned address := by
  obtain ⟨before, bits, zone, parted, rfl⟩ := splitZone?_of_readV6? reads
  unfold splitZone? at parted
  split at parted
  · rename_i pieces
    cases parted
    exact trivial
  · rename_i first last pieces
    split at parted
    · cases parted
    · rename_i some_zone
      cases parted
      have member : last ∈ chars.splitOn '%' := by
        rw [pieces]
        exact List.mem_cons_of_mem _ (List.mem_singleton_self last)
      refine ⟨fun empty => some_zone (String.ofList_eq_empty_iff.mp empty), ?_, ?_⟩
      · rw [String.toList_ofList]
        exact notMem_of_mem_splitOn member
      · rw [String.toList_ofList]
        exact fun slash => unparted (mem_of_mem_splitOn member slash)
  · cases parted

end Address

namespace Network

open Address (WellZoned readV4? readV6?)

private theorem readLength?_toDigits {width length : Nat} (length_le : length ≤ width)
    (short : width ≤ 128) :
    readLength? width (Nat.toDigits 10 length) = some length := by
  have brief : (Nat.toDigits 10 length).length ≤ maxDigits :=
    (Nat.toDigits_length 10 length 3 (by decide) (by omega)).trans (by decide)
  have reads : natOfDigits? 10 (Nat.toDigits 10 length) = some length :=
    Text.natOfDigits?_plain (by decide) (by decide) _
  simp only [readLength?, reads, bind, Option.bind, brief, length_le, and_self, if_true]

private theorem splitOn_text {network : Network} (zoned : WellZoned network.address) :
    network.text.toList.splitOn '/' =
      [network.address.text.toList, Nat.toDigits 10 network.length] := by
  have written : network.text.toList =
      network.address.text.toList ++ '/' :: Nat.toDigits 10 network.length := by
    simp [text, blockText, Nat.toString_eq_repr, Nat.repr]
  have unparted : '/' ∉ Nat.toDigits 10 network.length :=
    fun member => Text.digit_unlike (by decide) (by decide) member (by decide)
  rw [written, List.splitOn_append_cons_self_of_not_mem (Address.slash_notMem_text zoned),
    List.splitOn_eq_singleton unparted]

private theorem readBlock?_text {network : Network} (zoned : WellZoned network.address) :
    readBlock? network.text = some (network.address, network.length) := by
  have pieces := splitOn_text zoned
  have length_le := network.length_le
  cases family : network.address with
  | v4 bits =>
    rw [family] at pieces length_le
    have bits : readLength? 32 (Nat.toDigits 10 network.length) = some network.length :=
      readLength?_toDigits length_le (by decide)
    have mask : readMask? (Nat.toDigits 10 network.length) = some network.length := by
      rw [readMask?, bits]
      rfl
    simp only [readBlock?, pieces, Address.readV4?_text, mask, bind, Option.bind]
    rfl
  | v6 bits zone =>
    rw [family] at pieces length_le zoned
    have other := Address.readV4?_eq_none (Address.colon_mem_text bits zone)
    have mask : readLength? 128 (Nat.toDigits 10 network.length) = some network.length :=
      readLength?_toDigits length_le (by decide)
    simp only [readBlock?, pieces, other, Address.readV6?_text zoned, mask, bind, Option.bind]
    rfl

/-- A network is read back from its text. -/
theorem ofText_text {network : Network} (zoned : WellZoned network.address) :
    ofText network.text = .ok network := by
  simp only [ofText, readBlock?_text zoned, network.length_le, dite_true, ofAddress,
    network.aligned]

private theorem wellZoned_of_readBlock? {text : String} {address : Address} {length : Nat}
    (reads : readBlock? text = some (address, length)) : WellZoned address := by
  have unparted {piece : List Char} (member : piece ∈ text.toList.splitOn '/') : '/' ∉ piece :=
    notMem_of_mem_splitOn member
  simp only [readBlock?, Option.orElse_eq_orElse, Option.orElse_eq_or] at reads
  split at reads
  · rename_i only pieces
    rw [pieces] at unparted
    rcases Option.or_eq_some_iff.mp reads with shorter | ⟨-, longer⟩
    · obtain ⟨found, reading, same⟩ := Option.bind_eq_some_iff.mp shorter
      cases same
      exact Address.wellZoned_of_readV4? reading
    · obtain ⟨found, reading, same⟩ := Option.bind_eq_some_iff.mp longer
      cases same
      exact Address.wellZoned_of_readV6? (unparted List.mem_cons_self) reading
  · rename_i first mask pieces
    rw [pieces] at unparted
    rcases Option.or_eq_some_iff.mp reads with shorter | ⟨-, longer⟩
    · obtain ⟨found, reading, rest⟩ := Option.bind_eq_some_iff.mp shorter
      obtain ⟨bits, -, same⟩ := Option.bind_eq_some_iff.mp rest
      cases same
      exact Address.wellZoned_of_readV4? reading
    · obtain ⟨found, reading, rest⟩ := Option.bind_eq_some_iff.mp longer
      obtain ⟨bits, -, same⟩ := Option.bind_eq_some_iff.mp rest
      cases same
      exact Address.wellZoned_of_readV6? (unparted List.mem_cons_self) reading
  · cases reads

/-- A network that was read from a text is one that can be written. -/
theorem wellZoned_of_ofText {cidr : String} {network : Network} (reads : ofText cidr = .ok network) :
    WellZoned network.address := by
  unfold ofText at reads
  split at reads
  · cases reads
  · rename_i address length block
    have zoned := wellZoned_of_readBlock? block
    split at reads
    · unfold ofAddress at reads
      split at reads
      · cases reads
        exact zoned
      · cases reads
    · cases reads

end Network

end Net

end CertGraph
