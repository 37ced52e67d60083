import CertGraph.LogLine
import Mathlib.Data.List.Basic

/- Members of objects that are set one after another: which there are in the end, and what is left of
them when only some names are kept. -/
set_option autoImplicit false
set_option relaxedAutoImplicit false

namespace CertGraph.LogLine

variable {members more : Members} {key name : String} {value shown : Json}

/-- The names of some members. -/
def namesOf (members : Members) : List String :=
  members.map Prod.fst

/-- The members of some names. -/
def keeping (keep : String → Bool) (members : Members) : Members :=
  members.filter fun entry => keep entry.1

/-! ### The value of a name -/

theorem valueOf?_cons (entry : String × Json) (members : Members) (name : String) :
    valueOf? (entry :: members) name =
      (valueOf? members name).or (if entry.1 = name then some entry.2 else none) := by
  simp only [valueOf?, Json.member?, List.reverse_cons, List.find?_append, List.find?_singleton,
    decide_eq_true_eq, Option.map_or]
  split <;> rfl

private theorem keeping_cons (keep : String → Bool) (entry : String × Json) (members : Members) :
    keeping keep (entry :: members) =
      if keep entry.1 then entry :: keeping keep members else keeping keep members :=
  List.filter_cons

theorem valueOf?_keeping {keep : String → Bool} (kept : keep name = true) (members : Members) :
    valueOf? (keeping keep members) name = valueOf? members name := by
  induction members with
  | nil => rfl
  | cons entry members ih =>
    rw [valueOf?_cons, ← ih, keeping_cons]
    split
    · rw [valueOf?_cons]
    · rename_i left
      have unlike : entry.1 ≠ name := fun same => left (same ▸ kept)
      rw [if_neg unlike, Option.or_none]

theorem valueOf?_eq_none : valueOf? members name = none ↔ name ∉ namesOf members := by
  induction members with
  | nil => simp [valueOf?, Json.member?, namesOf]
  | cons entry members ih =>
    rw [valueOf?_cons, Option.or_eq_none_iff, ih, namesOf, namesOf, List.map_cons, List.mem_cons,
      not_or, and_comm, eq_comm (a := name)]
    simp

theorem valueOf?_eq_some_iff (nodup : (namesOf members).Nodup) :
    valueOf? members name = some value ↔ (name, value) ∈ members := by
  induction members with
  | nil => simp [valueOf?, Json.member?]
  | cons entry members ih =>
    obtain ⟨first, rest⟩ := List.nodup_cons.mp nodup
    rw [valueOf?_cons, List.mem_cons, ← ih rest]
    obtain ⟨key, own⟩ := entry
    by_cases same : key = name
    · subst same
      rw [valueOf?_eq_none.mpr first]
      simp [eq_comm]
    · simp [same, Ne.symm same]

/-! ### Setting members -/

private theorem put_of_mem (there : key ∈ namesOf members) (value : Json) :
    put members key value =
      members.map fun entry => if entry.1 = key then (key, value) else entry :=
  if_pos (List.contains_iff_mem.mpr there)

private theorem put_of_not_mem (new : key ∉ namesOf members) (value : Json) :
    put members key value = members ++ [(key, value)] :=
  if_neg (mt List.contains_iff_mem.mp new)

theorem mem_put {entry : String × Json} :
    entry ∈ put members key value ↔ entry = (key, value) ∨ entry ∈ members ∧ entry.1 ≠ key := by
  by_cases there : key ∈ namesOf members
  · obtain ⟨old, isOld, rfl⟩ := List.mem_map.mp there
    simp only [put_of_mem there, List.mem_map]
    constructor
    · rintro ⟨first, member, rfl⟩
      split
      · exact .inl rfl
      · exact .inr ⟨member, ‹_›⟩
    · rintro (rfl | ⟨member, apart⟩)
      · exact ⟨old, isOld, if_pos rfl⟩
      · exact ⟨entry, member, if_neg apart⟩
  · rw [put_of_not_mem there, List.mem_append, List.mem_singleton, or_comm]
    have apart (member : entry ∈ members) : entry.1 ≠ key :=
      fun same => there (same ▸ List.mem_map_of_mem member)
    exact or_congr_right ⟨fun member => ⟨member, apart member⟩, And.left⟩

private theorem name_replaced (entry : String × Json) :
    (if entry.1 = key then (key, value) else entry).1 = entry.1 := by
  split
  · rename_i same
    exact same.symm
  · rfl

private theorem namesOf_put_of_mem (there : key ∈ namesOf members) (value : Json) :
    namesOf (put members key value) = namesOf members := by
  rw [put_of_mem there, namesOf, List.map_map]
  exact List.map_congr_left fun entry _ => name_replaced entry

theorem nodup_put (nodup : (namesOf members).Nodup) : (namesOf (put members key value)).Nodup := by
  by_cases there : key ∈ namesOf members
  · rwa [namesOf_put_of_mem there]
  · rw [put_of_not_mem there, namesOf, List.map_append]
    refine List.nodup_append.mpr ⟨nodup, by simp, ?_⟩
    rintro name member other isKey rfl
    rw [List.mem_singleton.mp isKey] at member
    exact there member

theorem nodup_putAll (nodup : (namesOf members).Nodup) : (namesOf (putAll members more)).Nodup := by
  induction more generalizing members with
  | nil => exact nodup
  | cons entry more ih => exact ih (nodup_put nodup)

/-- A member of what was set in a row: the last that was set under its name, or one that was there. -/
theorem mem_putAll :
    (name, value) ∈ putAll members more ↔
      valueOf? more name = some value ∨ valueOf? more name = none ∧ (name, value) ∈ members := by
  induction more generalizing members with
  | nil => simp [putAll, valueOf?, Json.member?]
  | cons entry more ih =>
    have step : putAll members (entry :: more) = putAll (put members entry.1 entry.2) more := rfl
    rw [step, ih, mem_put, valueOf?_cons]
    obtain ⟨key, own⟩ := entry
    rcases valueOf? more name with _ | last
    · by_cases same : key = name
      · subst same
        simp [eq_comm]
      · simp [same, Ne.symm same]
    · simp

/-! ### Keeping some names -/

theorem mem_namesOf_keeping {keep : String → Bool} :
    name ∈ namesOf (keeping keep members) ↔ name ∈ namesOf members ∧ keep name = true := by
  simp only [namesOf, keeping, List.mem_map, List.mem_filter]
  constructor
  · rintro ⟨entry, ⟨member, kept⟩, rfl⟩
    exact ⟨⟨entry, member, rfl⟩, kept⟩
  · rintro ⟨⟨entry, member, rfl⟩, kept⟩
    exact ⟨entry, ⟨member, kept⟩, rfl⟩

/-- Setting a member that is not kept leaves what is kept as it is. -/
theorem keeping_put (keep : String → Bool) (members : Members) (key : String) (value : Json) :
    keeping keep (put members key value) =
      if keep key then put (keeping keep members) key value else keeping keep members := by
  by_cases there : key ∈ namesOf members
  · have replaced : keeping keep (put members key value) =
        (keeping keep members).map fun entry => if entry.1 = key then (key, value) else entry := by
      rw [put_of_mem there, keeping, List.filter_map]
      refine congrArg _ (List.filter_congr fun entry _ => ?_)
      rw [Function.comp_apply, name_replaced]
    rw [replaced]
    split
    · rename_i kept
      rw [put_of_mem (mem_namesOf_keeping.mpr ⟨there, kept⟩)]
    · rename_i left
      refine (List.map_congr_left fun entry member => if_neg ?_).trans (List.map_id _)
      rintro rfl
      exact left (List.mem_filter.mp member).2
  · have appended : keeping keep (put members key value) =
        keeping keep members ++ keeping keep [(key, value)] := by
      rw [put_of_not_mem there, keeping, List.filter_append]
      rfl
    rw [appended, keeping_cons]
    split
    · rw [put_of_not_mem fun member => there (mem_namesOf_keeping.mp member).1]
      rfl
    · exact List.append_nil _

theorem keeping_putAll (keep : String → Bool) (members more : Members) :
    keeping keep (putAll members more) = putAll (keeping keep members) (keeping keep more) := by
  induction more generalizing members with
  | nil => rfl
  | cons entry more ih =>
    have step : putAll members (entry :: more) = putAll (put members entry.1 entry.2) more := rfl
    rw [step, ih, keeping_put, keeping_cons]
    split <;> rfl

end CertGraph.LogLine
