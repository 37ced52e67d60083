import CertGraph.Net.Address
import CertGraph.Proofs.Text.Digits
import CertGraph.Proofs.Text.Pieces
import Mathlib.Data.List.Induction
import Mathlib.Data.List.TakeWhile

/- Addresses of both families are read back from their texts. -/
set_option autoImplicit false
set_option relaxedAutoImplicit false

namespace CertGraph

open CertGraph.Text (natOfDigits?)

namespace Text

/-- No digit is one of the marks between the parts of an address. -/
theorem digit_unlike {base n : Nat} (binary : 1 < base) (short : base ≤ 16) {char : Char}
    (member : char ∈ Nat.toDigits base n) : char ∉ ['.', ':', '%', '/'] := by
  have unlike : ∀ value < 16, Nat.digitChar value ∉ ['.', ':', '%', '/'] := by decide
  obtain ⟨value, small, rfl⟩ := mem_toDigits binary member
  exact unlike value (by omega)

end Text

namespace Net.Address

/-! ### The shorter family -/

private theorem readOctet?_toDigits (octet : UInt8) :
    readOctet? (Nat.toDigits 10 octet.toNat) = some octet.toNat := by
  have small : octet.toNat < 256 := octet.toNat_lt
  have short : (Nat.toDigits 10 octet.toNat).length ≤ 3 :=
    Nat.toDigits_length 10 octet.toNat 3 (by decide) (by omega)
  have plain : Nat.toDigits 10 octet.toNat = ['0'] ∨
      (Nat.toDigits 10 octet.toNat).head? ≠ some '0' := by
    by_cases starts : (Nat.toDigits 10 octet.toNat).head? = some '0'
    · rw [Text.eq_zero_of_head?_toDigits (by decide) (by decide) starts]
      exact .inl rfl
    · exact .inr starts
  have reads : natOfDigits? 10 (Nat.toDigits 10 octet.toNat) = some octet.toNat :=
    Text.natOfDigits?_plain (by decide) (by decide) _
  simp only [readOctet?, reads, bind, Option.bind, short, plain, true_and,
    Nat.le_of_lt_succ small, if_true]

/-- Four octets with points between them. -/
def dotted (value : Nat) : List Char :=
  ['.'].intercalate ((Octets.ofNatWidth 4 value).map fun octet => Nat.toDigits 10 octet.toNat)

private theorem readDotted?_dotted {value : Nat} (small : value < 2 ^ 32) :
    readDotted? (dotted value) = some value := by
  have unmarked : ∀ digits ∈ (Octets.ofNatWidth 4 value).map
      (fun octet => Nat.toDigits 10 octet.toNat), '.' ∉ digits := by
    intro digits member isMark
    obtain ⟨octet, -, rfl⟩ := List.mem_map.mp member
    exact Text.digit_unlike (by decide) (by decide) isMark (by decide)
  have four : (Octets.ofNatWidth 4 value).length = 4 := Octets.length_ofNatWidth 4 value
  have some_octets : (Octets.ofNatWidth 4 value).map
      (fun octet => Nat.toDigits 10 octet.toNat) ≠ [] := by
    rw [← List.length_pos_iff, List.length_map, four]
    decide
  have pieces : (dotted value).splitOn '.' = (Octets.ofNatWidth 4 value).map
      fun octet => Nat.toDigits 10 octet.toNat :=
    List.splitOn_intercalate '.' unmarked some_octets
  have octets : ((Octets.ofNatWidth 4 value).map fun octet =>
      Nat.toDigits 10 octet.toNat).mapM readOctet? =
        some ((Octets.ofNatWidth 4 value).map UInt8.toNat) :=
    mapM_map_eq_some_map fun octet _ => readOctet?_toDigits octet
  have number : (Octets.ofNatWidth 4 value).toNat = value := by
    have wide : Nat.pow 256 4 = 2 ^ 32 := rfl
    rw [Octets.toNat_ofNatWidth, wide, Nat.mod_eq_of_lt small]
  rw [Octets.toNat] at number
  simp only [readDotted?, pieces, octets, bind, Option.bind, List.length_map, four, if_true,
    List.foldl_map, number]

private theorem readV4?_dotted (bits : BitVec 32) : readV4? (dotted bits.toNat) = some (.v4 bits) := by
  simp [readV4?, readDotted?_dotted bits.isLt]

private theorem text_v4 (bits : BitVec 32) : (Address.v4 bits).text.toList = dotted bits.toNat :=
  String.toList_ofList

/-- What has a colon in it is no address of the shorter family. -/
private theorem readDotted?_eq_none {chars : List Char} (colon : ':' ∈ chars) :
    readDotted? chars = none := by
  have parted : ':' ∈ ['.'].intercalate (chars.splitOn '.') := by
    rwa [List.intercalate_splitOn]
  obtain ⟨piece, member, inPiece⟩ := (mem_intercalate parted).resolve_left (by decide)
  have unread : readOctet? piece = none := by
    rw [readOctet?, Text.natOfDigits?_eq_none inPiece rfl]
    rfl
  rw [readDotted?, mapM_eq_none_of_mem member unread]
  rfl

/-! ### Groups -/

private theorem readGroup?_hexGroup {value : Nat} (small : value < groupBound) :
    readGroup? (hexGroup value) = some value := by
  have short : (hexGroup value).length ≤ 4 :=
    Nat.toDigits_length 16 value 4 (by decide) small
  rw [readGroup?, if_pos short]
  exact Text.natOfDigits?_plain (by decide) (by decide) value

private theorem hexGroup_ne_nil (value : Nat) : hexGroup value ≠ [] :=
  Nat.toDigits_ne_nil

private theorem hexGroup_unlike {value : Nat} {char : Char} (member : char ∈ hexGroup value) :
    char ∉ ['.', ':', '%', '/'] :=
  Text.digit_unlike (by decide) (by decide) member

/-- What the longest run of zeros is: a run of zeros. -/
theorem longestZeroRun_spec (values : List Nat) :
    (longestZeroRun values).1 + (longestZeroRun values).2 ≤ values.length ∧
      (values.drop (longestZeroRun values).1).take (longestZeroRun values).2 =
        List.replicate (longestZeroRun values).2 0 := by
  have each (starts : List Nat) (best : Nat × Nat) (inside : ∀ start ∈ starts, start < values.length)
      (known : best.1 + best.2 ≤ values.length ∧
        (values.drop best.1).take best.2 = List.replicate best.2 0) :
      let run := starts.foldl (fun best start =>
        let length := ((values.drop start).takeWhile (· = 0)).length
        if best.2 < length then (start, length) else best) best
      run.1 + run.2 ≤ values.length ∧
        (values.drop run.1).take run.2 = List.replicate run.2 0 := by
    induction starts generalizing best with
    | nil => exact known
    | cons start starts ih =>
      have insideRest := fun other member => inside other (List.mem_cons_of_mem _ member)
      rw [List.foldl_cons]
      dsimp only
      split
      · refine ih _ insideRest ⟨?_, ?_⟩
        · have short := (List.takeWhile_prefix (· = 0) (l := values.drop start)).length_le
          have start_lt := inside start List.mem_cons_self
          rw [List.length_drop] at short
          dsimp only
          omega
        · have zeros := List.prefix_iff_eq_take.mp
            (List.takeWhile_prefix (· = 0) (l := values.drop start))
          dsimp only
          rw [← zeros]
          refine List.eq_replicate_of_mem fun value member => ?_
          simpa using List.mem_takeWhile_imp member
      · exact ih best insideRest known
  exact each (List.range values.length) (0, 0) (fun start member => List.mem_range.mp member)
    ⟨by omega, rfl⟩

/-- The pieces of one side of a gap; a side without groups is an empty piece. -/
def side (values : List Nat) : List (List Char) :=
  if values = [] then [[]] else values.map hexGroup

private theorem splitOn_side (values : List Nat) :
    ([':'].intercalate (values.map hexGroup)).splitOn ':' = side values := by
  have unmarked : ∀ group ∈ values.map hexGroup, ':' ∉ group := by
    intro group member isMark
    obtain ⟨value, -, rfl⟩ := List.mem_map.mp member
    exact hexGroup_unlike isMark (by decide)
  unfold side
  split
  · rename_i none
    subst none
    rfl
  · rename_i some_values
    exact List.splitOn_intercalate ':' unmarked (by simpa using some_values)

private theorem side_ne_nil (values : List Nat) : side values ≠ [] := by
  unfold side
  split
  · exact List.cons_ne_nil _ _
  · rename_i some_values
    simpa using some_values

private theorem side_unlike {values : List Nat} {group : List Char} {char : Char}
    (member : group ∈ side values)
    (inGroup : char ∈ group) : char ∉ ['.', ':', '%', '/'] := by
  unfold side at member
  split at member
  · rw [List.mem_singleton.mp member] at inGroup
    cases inGroup
  · obtain ⟨value, -, rfl⟩ := List.mem_map.mp member
    exact hexGroup_unlike inGroup

private theorem length_side (values : List Nat) : (side values).length = max 1 values.length := by
  unfold side
  split
  · rename_i none
    rw [none]
    rfl
  · rename_i some_values
    have positive := List.length_pos_iff.mpr some_values
    rw [List.length_map]
    omega

/-- Past the ends of a side no piece is empty. -/
private theorem nil_notMem_tail_side (values : List Nat) :
    [] ∉ (side values).tail ∧ [] ∉ (side values).dropLast := by
  unfold side
  split
  · exact ⟨List.not_mem_nil, List.not_mem_nil⟩
  · have nonempty : [] ∉ values.map hexGroup := by
      intro member
      obtain ⟨value, -, none⟩ := List.mem_map.mp member
      exact hexGroup_ne_nil value none
    exact ⟨fun member => nonempty (List.mem_of_mem_tail member),
      fun member => nonempty (List.dropLast_subset _ member)⟩

private theorem side_cons (value : Nat) (values : List Nat) :
    side (value :: values) = (value :: values).map hexGroup :=
  if_neg (List.cons_ne_nil _ _)

private theorem side_concat (values : List Nat) (value : Nat) :
    side (values ++ [value]) = values.map hexGroup ++ [hexGroup value] := by
  have some_values : values ++ [value] ≠ [] := List.append_ne_nil_of_right_ne_nil _ (by simp)
  rw [side, if_neg some_values, List.map_append]
  rfl

private theorem beforeGap?_side (values : List Nat) :
    beforeGap? (side values) = some (values.map hexGroup) := by
  cases values with
  | nil => rfl
  | cons value values =>
    obtain ⟨char, chars, group⟩ := List.exists_cons_of_ne_nil (hexGroup_ne_nil value)
    simp only [beforeGap?, side_cons, List.map_cons, group]

private theorem afterGap?_side (values : List Nat) :
    afterGap? (side values) = some (values.map hexGroup) := by
  induction values using List.reverseRecOn with
  | nil => rfl
  | append_singleton values value =>
    obtain ⟨char, chars, group⟩ := List.exists_cons_of_ne_nil (hexGroup_ne_nil value)
    simp only [afterGap?, side_concat, List.getLast?_concat, List.map_append, List.map_cons,
      List.map_nil, group]

private theorem aroundGap?_sides {before after : List Nat} (few : before.length + after.length < 8) :
    aroundGap? (side before) (side after) =
      some (before.map hexGroup, after.map hexGroup) := by
  have within : (before.map hexGroup).length + (after.map hexGroup).length < 8 := by
    rwa [List.length_map, List.length_map]
  simp only [aroundGap?, beforeGap?_side, afterGap?_side, bind, Option.bind, within, if_true]

/-- Groups around a gap are read as those that stand there, with zeros between. -/
private theorem eightGroups?_gap {before after : List Nat} (few : before.length + after.length < 8)
    (small : ∀ value ∈ before ++ after, value < groupBound) :
    eightGroups? (side before ++ [] :: side after) =
      some (before ++ List.replicate (8 - before.length - after.length) 0 ++ after) := by
  have first : (side before ++ [] :: side after).drop 1 =
      (side before).tail ++ [] :: side after := by
    rw [List.drop_one, List.tail_append_of_ne_nil (side_ne_nil before)]
  have inner : ((side before).tail ++ [] :: side after).dropLast =
      (side before).tail ++ [] :: (side after).dropLast := by
    rw [List.dropLast_append_of_ne_nil (List.cons_ne_nil _ _),
      List.dropLast_cons_of_ne_nil (side_ne_nil after)]
  have count : (side before).tail.length + 1 = (side before).length := by
    have positive := List.length_pos_iff.mpr (side_ne_nil before)
    rw [List.length_tail]
    omega
  have gap : ((side before).tail ++ [] :: (side after).dropLast).findIdx? (· = []) =
      some (side before).tail.length := by
    have unmet : (side before).tail.findIdx? (· = []) = none := by
      rw [List.findIdx?_eq_none_iff]
      intro piece member
      exact decide_eq_false fun empty => (nil_notMem_tail_side before).1 (empty ▸ member)
    rw [List.findIdx?_append, unmet, List.findIdx?_cons]
    simp
  have behind : (((side before).tail ++ [] :: (side after).dropLast).drop
      ((side before).tail.length + 1)).contains [] = false := by
    have rest : ((side before).tail ++ [] :: (side after).dropLast).drop
        ((side before).tail.length + 1) = (side after).dropLast := by
      rw [← List.drop_drop, List.drop_left]
      rfl
    rw [rest, List.contains_eq_mem]
    exact decide_eq_false (nil_notMem_tail_side after).2
  have high : (before.map hexGroup).mapM readGroup? = some before :=
    mapM_map_eq_some fun value member =>
      readGroup?_hexGroup (small value (List.mem_append_left _ member))
  have low : (after.map hexGroup).mapM readGroup? = some after :=
    mapM_map_eq_some fun value member =>
      readGroup?_hexGroup (small value (List.mem_append_right _ member))
  have before' : (side before ++ [] :: side after).take ((side before).tail.length + 1) =
      side before := by
    rw [count, List.take_left]
  have after' : (side before ++ [] :: side after).drop ((side before).tail.length + 2) =
      side after := by
    rw [show (side before).tail.length + 2 = (side before).length + 1 by omega,
      ← List.drop_drop, List.drop_left]
    rfl
  simp only [eightGroups?, first, inner, gap, behind, before', after', aroundGap?_sides few, bind,
    Option.bind, high, low]
  rfl

private theorem eightGroups?_hexGroups {values : List Nat} (eight : values.length = 8)
    (small : ∀ value ∈ values, value < groupBound) :
    eightGroups? (values.map hexGroup) = some values := by
  have full : [] ∉ values.map hexGroup := by
    intro member
    obtain ⟨value, -, empty⟩ := List.mem_map.mp member
    exact hexGroup_ne_nil value empty
  have unmet : (((values.map hexGroup).drop 1).dropLast).findIdx? (· = []) = none := by
    rw [List.findIdx?_eq_none_iff]
    intro piece member
    have inner := List.mem_of_mem_drop (List.dropLast_subset _ member)
    exact decide_eq_false fun empty => full (empty ▸ inner)
  have read : (values.map hexGroup).mapM readGroup? = some values :=
    mapM_map_eq_some fun value member => readGroup?_hexGroup (small value member)
  simp only [eightGroups?, unmet, List.length_map, eight, if_true, read]

/-- Groups as text are all of them, or those around a gap of at least two zeros. -/
private theorem splitOn_groupsText {values : List Nat} (some_values : values ≠ []) :
    (groupsText values).splitOn ':' = values.map hexGroup ∨
      ∃ before missing after, 2 ≤ missing ∧
        values = before ++ List.replicate missing 0 ++ after ∧
          (groupsText values).splitOn ':' = side before ++ [] :: side after := by
  obtain ⟨-, zeros⟩ := longestZeroRun_spec values
  have written : groupsText values = if (longestZeroRun values).2 ≤ 1
      then [':'].intercalate (values.map hexGroup)
      else [':'].intercalate ((values.take (longestZeroRun values).1).map hexGroup) ++ ':' :: ':' ::
        [':'].intercalate ((values.drop
          ((longestZeroRun values).1 + (longestZeroRun values).2)).map hexGroup) := rfl
  generalize longestZeroRun values = run at zeros written
  obtain ⟨start, missing⟩ := run
  dsimp only at zeros written
  by_cases brief : missing ≤ 1
  · left
    rw [written, if_pos brief, splitOn_side, side, if_neg some_values]
  · right
    refine ⟨values.take start, missing, values.drop (start + missing), by omega, ?_, ?_⟩
    · rw [← zeros, ← List.take_add, List.take_append_drop]
    · rw [written, if_neg brief, List.splitOn_append_cons_self, splitOn_side]
      have behind := List.splitOn_append_cons_self (a := ':') []
        ([':'].intercalate ((values.drop (start + missing)).map hexGroup))
      rw [List.nil_append, List.splitOn_nil, splitOn_side] at behind
      rw [behind]
      rfl

section EightGroups

variable {values : List Nat} (eight : values.length = 8)

include eight

private theorem length_splitOn_groupsText :
    3 ≤ ((groupsText values).splitOn ':').length ∧ ((groupsText values).splitOn ':').length ≤ 9 := by
  have some_values : values ≠ [] := List.length_pos_iff.mp (by omega)
  rcases splitOn_groupsText some_values with whole | ⟨before, missing, after, two, parts, gapped⟩
  · rw [whole, List.length_map, eight]
    decide
  · have total : before.length + missing + after.length = 8 := by
      rw [← eight, parts, List.length_append, List.length_append, List.length_replicate]
    rw [gapped, List.length_append, List.length_cons, length_side, length_side]
    omega

private theorem splitOn_groupsText_unlike {piece : List Char}
    (member : piece ∈ (groupsText values).splitOn ':')
    {char : Char} (inPiece : char ∈ piece) : char ∉ ['.', ':', '%', '/'] := by
  have some_values : values ≠ [] := List.length_pos_iff.mp (by omega)
  rcases splitOn_groupsText some_values with whole | ⟨before, missing, after, -, -, gapped⟩
  · rw [whole] at member
    obtain ⟨value, -, rfl⟩ := List.mem_map.mp member
    exact hexGroup_unlike inPiece
  · rw [gapped] at member
    rcases List.mem_append.mp member with inBefore | rest
    · exact side_unlike inBefore inPiece
    · rcases List.mem_cons.mp rest with rfl | inAfter
      · cases inPiece
      · exact side_unlike inAfter inPiece

/-- Groups as text are read as they are, with a gap or without one. -/
theorem eightGroups?_groupsText (small : ∀ value ∈ values, value < groupBound) :
    eightGroups? ((groupsText values).splitOn ':') = some values := by
  have some_values : values ≠ [] := List.length_pos_iff.mp (by omega)
  rcases splitOn_groupsText some_values with whole | ⟨before, missing, after, two, parts, gapped⟩
  · rw [whole]
    exact eightGroups?_hexGroups eight small
  · have total : before.length + missing + after.length = 8 := by
      rw [← eight, parts, List.length_append, List.length_append, List.length_replicate]
    have smallParts : ∀ value ∈ before ++ after, value < groupBound := by
      intro value member
      apply small
      rw [parts]
      rcases List.mem_append.mp member with inBefore | inAfter
      · exact List.mem_append_left _ (List.mem_append_left _ inBefore)
      · exact List.mem_append_right _ inAfter
    have count : 8 - before.length - after.length = missing := by omega
    rw [gapped, eightGroups?_gap (by omega) smallParts, count, ← parts]

private theorem groupsText_unlike {char : Char} (member : char ∈ groupsText values) :
    char ∉ ['.', '%', '/'] := by
  have parted : char ∈ [':'].intercalate ((groupsText values).splitOn ':') := by
    rwa [List.intercalate_splitOn]
  rcases mem_intercalate parted with rfl | ⟨piece, inPieces, inPiece⟩
  · decide
  · have unlike := splitOn_groupsText_unlike eight inPieces inPiece
    intro mark
    apply unlike
    simp only [List.mem_cons] at mark ⊢
    tauto

private theorem colon_mem_groupsText : ':' ∈ groupsText values := by
  by_contra absent
  have several := (length_splitOn_groupsText eight).1
  rw [List.splitOn_eq_singleton absent, List.length_singleton] at several
  omega

end EightGroups

/-! ### The longer family -/

private theorem length_groups (bits : BitVec 128) : (groups bits).length = 8 := by
  rw [groups, List.length_map, List.length_range]

private theorem lt_of_mem_groups {bits : BitVec 128} {value : Nat} (member : value ∈ groups bits) :
    value < groupBound := by
  obtain ⟨place, -, rfl⟩ := List.mem_map.mp member
  exact Nat.mod_lt _ (by decide)

/-- The groups together are the number again. -/
private theorem foldl_groups (bits : BitVec 128) :
    (groups bits).foldl (fun value group => value * groupBound + group) 0 = bits.toNat := by
  have shifted (places : Nat) :
      bits.toNat / 2 ^ (places + 16) * groupBound + bits.toNat / 2 ^ places % groupBound =
        bits.toNat / 2 ^ places := by
    rw [Nat.pow_add, ← Nat.div_div_eq_div_mul, Nat.mul_comm]
    exact Nat.div_add_mod (bits.toNat / 2 ^ places) groupBound
  have none : bits.toNat / 2 ^ 128 = 0 := Nat.div_eq_of_lt bits.isLt
  have first := shifted 112
  rw [none] at first
  calc (groups bits).foldl (fun value group => value * groupBound + group) 0
      = ((((((((0 * groupBound + bits.toNat / 2 ^ 112 % groupBound) * groupBound +
          bits.toNat / 2 ^ 96 % groupBound) * groupBound +
          bits.toNat / 2 ^ 80 % groupBound) * groupBound +
          bits.toNat / 2 ^ 64 % groupBound) * groupBound +
          bits.toNat / 2 ^ 48 % groupBound) * groupBound +
          bits.toNat / 2 ^ 32 % groupBound) * groupBound +
          bits.toNat / 2 ^ 16 % groupBound) * groupBound +
          bits.toNat / 2 ^ 0 % groupBound) := rfl
    _ = bits.toNat / 2 ^ 0 := by
      rw [first, shifted 96, shifted 80, shifted 64, shifted 48, shifted 32, shifted 16, shifted 0]
    _ = bits.toNat := Nat.div_one _

/-- A zone that a text can name: not empty, and without what ends it. -/
def WellZoned : Address → Prop
  | .v4 _ => True
  | .v6 _ none => True
  | .v6 _ (some zone) => zone ≠ "" ∧ '%' ∉ zone.toList ∧ '/' ∉ zone.toList

private theorem withoutDots?_plain {pieces : List (List Char)} (some_pieces : pieces ≠ [])
    (plain : ∀ piece ∈ pieces, '.' ∉ piece) : withoutDots? pieces = some pieces := by
  have last := List.getLast?_eq_some_getLast some_pieces
  have pointless := plain _ (List.getLast_mem some_pieces)
  simp only [withoutDots?, last, pointless, if_false]

private theorem readV6?_of_splitZone? {chars : List Char} {bits : BitVec 128} {zone : Option String}
    (parted : splitZone? chars = some (groupsText (groups bits), zone)) :
    readV6? chars = some (.v6 bits zone) := by
  obtain ⟨several, atMost⟩ := length_splitOn_groupsText (length_groups bits)
  have read := eightGroups?_groupsText (length_groups bits) fun _ member => lt_of_mem_groups member
  have some_pieces : (groupsText (groups bits)).splitOn ':' ≠ [] :=
    List.length_pos_iff.mp (by omega)
  have plain : ∀ piece ∈ (groupsText (groups bits)).splitOn ':', '.' ∉ piece :=
    fun piece member point =>
      splitOn_groupsText_unlike (length_groups bits) member point (by decide)
  have enough : ¬ ((groupsText (groups bits)).splitOn ':').length < 3 := Nat.not_lt.mpr several
  have few : ¬ 9 < ((groupsText (groups bits)).splitOn ':').length := Nat.not_lt.mpr atMost
  simp only [readV6?, parted, bind, Option.bind, enough, if_false, withoutDots?_plain some_pieces plain,
    few, read, foldl_groups, BitVec.ofNat_toNat, BitVec.setWidth_eq]

private theorem splitZone?_text {bits : BitVec 128} {zone : Option String}
    (zoned : WellZoned (.v6 bits zone)) :
    splitZone? (Address.v6 bits zone).text.toList = some (groupsText (groups bits), zone) := by
  have unmarked : '%' ∉ groupsText (groups bits) :=
    fun member => groupsText_unlike (length_groups bits) member (by decide)
  cases zone with
  | none =>
    rw [text, String.toList_ofList, splitZone?, List.splitOn_eq_singleton unmarked]
  | some zone =>
    obtain ⟨named, unparted, -⟩ := zoned
    have pieces : (Address.v6 bits (some zone)).text.toList.splitOn '%' =
        [groupsText (groups bits), zone.toList] := by
      have written : (Address.v6 bits (some zone)).text.toList =
          groupsText (groups bits) ++ '%' :: zone.toList := by
        simp [text]
      rw [written, List.splitOn_append_cons_self, List.splitOn_eq_singleton unmarked,
        List.splitOn_eq_singleton unparted]
      rfl
    have some_zone : zone.toList ≠ [] := by
      intro empty
      exact named (String.toList_injective empty)
    simp only [splitZone?, pieces, some_zone, if_false, String.ofList_toList]

/-- A text with a colon in it is read in the longer family alone. -/
theorem readV4?_eq_none {chars : List Char} (colon : ':' ∈ chars) : readV4? chars = none := by
  rw [readV4?, readDotted?_eq_none colon]
  rfl

theorem slash_notMem_text {address : Address} (zoned : WellZoned address) :
    '/' ∉ address.text.toList := by
  intro slash
  cases address with
  | v4 bits =>
    rw [text_v4] at slash
    obtain ⟨octet, member, inOctet⟩ := (mem_intercalate slash).resolve_left (by decide)
    obtain ⟨octet, -, rfl⟩ := List.mem_map.mp member
    exact Text.digit_unlike (by decide) (by decide) inOctet (by decide)
  | v6 bits zone =>
    have unmarked : '/' ∉ groupsText (groups bits) :=
      fun member => groupsText_unlike (length_groups bits) member (by decide)
    cases zone with
    | none => simp [text, unmarked] at slash
    | some zone => simp [text, unmarked, zoned.2.2] at slash

theorem readV4?_text (bits : BitVec 32) :
    readV4? (Address.v4 bits).text.toList = some (.v4 bits) := by
  rw [text_v4]
  exact readV4?_dotted bits

theorem colon_mem_text (bits : BitVec 128) (zone : Option String) :
    ':' ∈ (Address.v6 bits zone).text.toList := by
  have colon := colon_mem_groupsText (length_groups bits)
  cases zone <;> simp [text, colon]

theorem readV6?_text {bits : BitVec 128} {zone : Option String} (zoned : WellZoned (.v6 bits zone)) :
    readV6? (Address.v6 bits zone).text.toList = some (.v6 bits zone) :=
  readV6?_of_splitZone? (splitZone?_text zoned)

end Net.Address

end CertGraph
