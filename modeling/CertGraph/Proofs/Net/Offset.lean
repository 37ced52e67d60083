import CertGraph.InstallConfig
import CertGraph.Proofs.Net.NetworkText

/- Offsets number the addresses of a network, from its first address to its last. -/
set_option autoImplicit false
set_option relaxedAutoImplicit false

namespace CertGraph

namespace Net

namespace Address

/-- The zone that an address is meant in. -/
def zone : Address → Option String
  | .v4 _ => none
  | .v6 _ zone => zone

private theorem version_advance (address : Address) (offset : Nat) :
    (address.advance offset).version = address.version := by
  cases address <;> rfl

theorem zone_advance (address : Address) (offset : Nat) :
    (address.advance offset).zone = none := by
  cases address <;> rfl

private theorem eq_of_value {first second : Address} (family : first.version = second.version)
    (zones : first.zone = second.zone) (values : first.value = second.value) : first = second := by
  cases first with
  | v4 bits =>
    cases second with
    | v4 others => exact congrArg Address.v4 (BitVec.eq_of_toNat_eq values)
    | v6 others zone => cases family
  | v6 bits zone =>
    cases second with
    | v4 others => cases family
    | v6 others other =>
      have same : bits = others := BitVec.eq_of_toNat_eq values
      have sameZone : zone = other := zones
      rw [same, sameZone]

end Address

namespace Network

variable {network : Network} {address : Address} {offset : Nat}

/-- The addresses of a network: those of its family that share its leading bits and name no zone. -/
def Holds (network : Network) (address : Address) : Prop :=
  address.version = network.address.version ∧ address.zone = none ∧
    address.value >>> (network.address.width - network.length) =
      network.address.value >>> (network.address.width - network.length)

private theorem size_pos : 0 < network.size :=
  Nat.pow_pos (by decide)

private theorem size_mul_div :
    network.size * (network.address.value / network.size) = network.address.value :=
  Nat.mul_div_cancel' (Nat.dvd_of_mod_eq_zero network.aligned)

/-- The addresses of a network end where those of its family do or before: the network starts at a
multiple of its size, and the size divides the family. -/
private theorem value_add_size_le :
    network.address.value + network.size ≤ 2 ^ network.address.width := by
  have family : 2 ^ network.address.width = network.size * 2 ^ network.length := by
    have together : network.address.width =
        network.address.width - network.length + network.length := by
      have fits := network.length_le
      omega
    calc 2 ^ network.address.width
        = 2 ^ (network.address.width - network.length + network.length) := by rw [← together]
      _ = network.size * 2 ^ network.length := Nat.pow_add 2 _ _
  have below : network.address.value / network.size < 2 ^ network.length := by
    apply Nat.div_lt_of_lt_mul
    rw [← family]
    exact network.address.value_lt
  calc network.address.value + network.size
      = network.size * (network.address.value / network.size + 1) := by
        rw [Nat.mul_succ, size_mul_div]
    _ ≤ network.size * 2 ^ network.length := Nat.mul_le_mul_left _ below
    _ = 2 ^ network.address.width := family.symm

/-- No address of a network is past the last one of the family. -/
theorem value_advance_of_lt (inside : offset < network.size) :
    (network.address.advance offset).value = network.address.value + offset := by
  have room := network.value_add_size_le
  have below : network.address.value + offset < Nat.pow 2 network.address.width := by
    show network.address.value + offset < 2 ^ network.address.width
    omega
  rw [Address.value_advance, Nat.mod_eq_of_lt below]

private theorem leading_add (inside : offset < network.size) :
    (network.address.value + offset) / network.size = network.address.value / network.size := by
  calc (network.address.value + offset) / network.size
      = (network.size * (network.address.value / network.size) + offset) / network.size := by
        rw [size_mul_div]
    _ = network.address.value / network.size + offset / network.size :=
        Nat.mul_add_div size_pos _ _
    _ = network.address.value / network.size := by
        rw [Nat.div_eq_of_lt inside, Nat.add_zero]

theorem holds_iff_div : network.Holds address ↔ address.version = network.address.version ∧
    address.zone = none ∧ address.value / network.size = network.address.value / network.size := by
  rw [Holds, Nat.shiftRight_eq_div_pow, Nat.shiftRight_eq_div_pow]
  rfl

/-- The addresses of a network are those that its offsets lead to. -/
theorem holds_iff :
    network.Holds address ↔ ∃ offset < network.size, network.address.advance offset = address := by
  rw [holds_iff_div]
  constructor
  · rintro ⟨family, unzoned, leading⟩
    have inside : address.value % network.size < network.size := Nat.mod_lt _ size_pos
    refine ⟨address.value % network.size, inside, Address.eq_of_value ?_ ?_ ?_⟩
    · rw [Address.version_advance, family]
    · rw [Address.zone_advance, unzoned]
    · calc (network.address.advance (address.value % network.size)).value
          = network.address.value + address.value % network.size := value_advance_of_lt inside
        _ = network.size * (address.value / network.size) + address.value % network.size := by
          rw [leading, size_mul_div]
        _ = address.value := Nat.div_add_mod _ _
  · rintro ⟨offset, inside, rfl⟩
    refine ⟨Address.version_advance _ _, Address.zone_advance _ _, ?_⟩
    rw [value_advance_of_lt inside, leading_add inside]

end Network

end Net

open Net (Address Network)

variable {network : Network} {offset : Int} {address : Address}

theorem hostAtOffset_of_lt (inside : 0 ≤ offset ∧ offset < network.size) :
    hostAtOffset (.parsed network) offset = .ok (network.address.advance offset.toNat) := by
  have found : network.addressAt? offset = some (network.address.advance offset.toNat) :=
    if_pos inside
  simp only [hostAtOffset, found, bind, Except.bind]

/-- An offset outside the network is refused with its digits, if it has no more than can be shown. -/
theorem hostAtOffset_of_not_lt (outside : ¬ (0 ≤ offset ∧ offset < network.size))
    (short : offset.natAbs < Nat.pow 10 Text.maxDigits) :
    hostAtOffset (.parsed network) offset =
      .error (.configuration (.offsetOutside (toString offset) network)) := by
  have missing : network.addressAt? offset = none := if_neg outside
  have shown : Text.decimal? offset = some (toString offset) := if_pos short
  simp only [hostAtOffset, missing, shown, bind, Except.bind]

/-- An offset of more digits than can be shown fails in the wording of the refusal. -/
theorem hostAtOffset_of_long (outside : ¬ (0 ≤ offset ∧ offset < network.size))
    (long : Nat.pow 10 Text.maxDigits ≤ offset.natAbs) :
    hostAtOffset (.parsed network) offset = .error (.value .tooManyDigits) := by
  have missing : network.addressAt? offset = none := if_neg outside
  have unshown : Text.decimal? offset = none := if_neg (Nat.not_lt.mpr long)
  simp only [hostAtOffset, missing, unshown, bind, Except.bind]

/-- What is outside the network is refused in the one way or the other. -/
theorem hostAtOffset_error_of_not_lt (outside : ¬ (0 ≤ offset ∧ offset < network.size)) :
    ∃ failure, hostAtOffset (.parsed network) offset = .error failure ∧
      ((∃ fault, failure = .configuration fault) ∨ ∃ fault, failure = .value fault) := by
  rcases Nat.lt_or_ge offset.natAbs (Nat.pow 10 Text.maxDigits) with short | long
  · exact ⟨_, hostAtOffset_of_not_lt outside short, .inl ⟨_, rfl⟩⟩
  · exact ⟨_, hostAtOffset_of_long outside long, .inr ⟨_, rfl⟩⟩

theorem hostAtOffset_ok_iff : hostAtOffset (.parsed network) offset = .ok address ↔
    (0 ≤ offset ∧ offset < network.size) ∧ network.address.advance offset.toNat = address := by
  by_cases inside : 0 ≤ offset ∧ offset < network.size
  · rw [hostAtOffset_of_lt inside, Except.ok.injEq]
    exact (and_iff_right inside).symm
  · obtain ⟨failure, refused, -⟩ := hostAtOffset_error_of_not_lt inside
    rw [refused]
    constructor
    · intro found
      cases found
    · intro found
      exact absurd found.1 inside

private theorem value_of_hostAtOffset (found : hostAtOffset (.parsed network) offset = .ok address) :
    (address.value : Int) = network.address.value + offset := by
  obtain ⟨inside, rfl⟩ := hostAtOffset_ok_iff.mp found
  have small : offset.toNat < network.size := by omega
  rw [Network.value_advance_of_lt small]
  omega

private theorem hostAtOffset_text {cidr : String} (reads : Network.ofText cidr = .ok network) :
    hostAtOffset (.text cidr) offset = hostAtOffset (.parsed network) offset := by
  simp only [hostAtOffset, reads, Except.mapError, bind, Except.bind]

/-- The offsets below the size of a network number its addresses in order, every other offset is
refused, and no addition leaves the family. The refusal is one of invalid input unless the offset has
more digits than can be shown: then it is that of a value. A network named by a text is the same as one
given: any text that names it will do, its own among them. -/
theorem hostAtOffset_bijects (network : Network) :
    (∀ offset : Int,
      ((∃ address, hostAtOffset (.parsed network) offset = .ok address) ↔
        0 ≤ offset ∧ offset < network.size) ∧
      (¬ (0 ≤ offset ∧ offset < network.size) →
        (offset.natAbs < Nat.pow 10 Text.maxDigits →
          hostAtOffset (.parsed network) offset =
            .error (.configuration (.offsetOutside (toString offset) network))) ∧
        (Nat.pow 10 Text.maxDigits ≤ offset.natAbs →
          hostAtOffset (.parsed network) offset = .error (.value .tooManyDigits)))) ∧
    (∀ (offset : Int) (address : Address), hostAtOffset (.parsed network) offset = .ok address →
      network.Holds address ∧ (address.value : Int) - network.address.value = offset ∧
        network.address.value + offset < 2 ^ network.address.width) ∧
    (∀ (first second : Int) (low high : Address),
      hostAtOffset (.parsed network) first = .ok low →
      hostAtOffset (.parsed network) second = .ok high → (first < second ↔ low.value < high.value)) ∧
    (∀ address, network.Holds address →
      ∃! offset : Int, hostAtOffset (.parsed network) offset = .ok address) ∧
    (∀ cidr, Network.ofText cidr = .ok network → network.address.WellZoned ∧
      ∀ offset : Int, hostAtOffset (.text cidr) offset = hostAtOffset (.parsed network) offset) ∧
    (network.address.WellZoned → Network.ofText network.text = .ok network) := by
  refine ⟨fun offset => ⟨⟨?_, ?_⟩, fun outside =>
    ⟨hostAtOffset_of_not_lt outside, hostAtOffset_of_long outside⟩⟩, ?_, ?_, ?_, ?_, Network.ofText_text⟩
  · rintro ⟨address, found⟩
    exact (hostAtOffset_ok_iff.mp found).1
  · intro inside
    exact ⟨_, hostAtOffset_of_lt inside⟩
  · intro offset address found
    have distance := value_of_hostAtOffset found
    obtain ⟨inside, reached⟩ := hostAtOffset_ok_iff.mp found
    have room := network.value_add_size_le
    refine ⟨Network.holds_iff.mpr ⟨offset.toNat, by omega, reached⟩, by omega, ?_⟩
    have below : (address.value : Int) < 2 ^ network.address.width := by
      exact_mod_cast show address.value < 2 ^ network.address.width by omega
    omega
  · intro first second low high lowFound highFound
    have lowValue := value_of_hostAtOffset lowFound
    have highValue := value_of_hostAtOffset highFound
    omega
  · intro address member
    obtain ⟨offset, inside, reached⟩ := Network.holds_iff.mp member
    have found : hostAtOffset (.parsed network) offset = .ok address :=
      hostAtOffset_ok_iff.mpr ⟨by omega, reached⟩
    refine ⟨offset, found, fun other foundToo => ?_⟩
    have value := value_of_hostAtOffset found
    have otherValue := value_of_hostAtOffset foundToo
    omega
  · intro cidr reads
    exact ⟨Network.wellZoned_of_ofText reads, fun offset => hostAtOffset_text reads⟩

/-- A network of 65536 addresses. -/
def classB : Network :=
  ⟨.v4 0x0A000000, 16, by decide, by decide⟩

/-- A network that is named with a zone. -/
def zonedNetwork : Network :=
  ⟨.v6 0xFE800000000000000000000000000000 (some "eth0"), 64, by decide, by decide⟩

/-- The first offset of too many digits is refused as a value, not as invalid input. And where the
network is named with a zone, none of its offsets leads to its first address, whose zone the others
lack. -/
theorem hostAtOffset_not_as_told :
    hostAtOffset (.parsed classB) (Nat.pow 10 Text.maxDigits : Nat) = .error (.value .tooManyDigits) ∧
      ∀ offset : Int, hostAtOffset (.parsed zonedNetwork) offset ≠ .ok zonedNetwork.address := by
  constructor
  · have raised : ∀ digits, 5 ≤ digits → Nat.pow 10 5 ≤ Nat.pow 10 digits :=
      fun _ => Nat.pow_le_pow_right (by decide)
    have past : classB.size ≤ Nat.pow 10 Text.maxDigits := by
      calc classB.size ≤ Nat.pow 10 5 := by decide
        _ ≤ Nat.pow 10 Text.maxDigits := raised _ (by decide)
    refine hostAtOffset_of_long ?_ (Nat.le_of_eq (Int.natAbs_natCast _).symm)
    rintro ⟨-, inside⟩
    exact Nat.lt_irrefl _ ((Int.ofNat_lt.mp inside).trans_le past)
  · intro offset found
    obtain ⟨-, reached⟩ := hostAtOffset_ok_iff.mp found
    cases (congrArg Address.zone reached).symm.trans (Address.zone_advance _ _)

/-- The offset carries into the next octet: host 258 of a service network. -/
example : hostAtOffset (.text "172.30.0.0/16") 258 = .ok (.v4 0xAC1E0102) := rfl

end CertGraph
