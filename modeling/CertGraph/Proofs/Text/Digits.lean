import CertGraph.Text.Digits
import Mathlib.Data.List.Basic
import Mathlib.Data.List.Induction
import Mathlib.Data.Nat.Digits.Defs

/- Numbers are read back from their digits, and lists from what is written of their members. -/
set_option autoImplicit false
set_option relaxedAutoImplicit false

namespace CertGraph

theorem mapM_map_eq_some_map {α β γ : Type} {write : γ → β} {read : β → Option α} {value : γ → α}
    {members : List γ} (reads : ∀ member ∈ members, read (write member) = some (value member)) :
    (members.map write).mapM read = some (members.map value) := by
  induction members with
  | nil => rfl
  | cons first members ih =>
    have rest := ih fun member isMember => reads member (List.mem_cons_of_mem _ isMember)
    rw [List.map_cons, List.mapM_cons, reads first List.mem_cons_self, rest]
    rfl

theorem mapM_map_eq_some {α β : Type} {write : α → β} {read : β → Option α} {members : List α}
    (reads : ∀ member ∈ members, read (write member) = some member) :
    (members.map write).mapM read = some members := by
  rw [mapM_map_eq_some_map reads, List.map_id']

theorem mapM_eq_none_of_mem {α β : Type} {read : α → Option β} {items : List α} {item : α}
    (member : item ∈ items) (fails : read item = none) : items.mapM read = none := by
  induction items with
  | nil => cases member
  | cons first items ih =>
    rw [List.mapM_cons]
    rcases List.mem_cons.mp member with rfl | member
    · rw [fails]
      rfl
    · cases read first with
      | none => rfl
      | some value =>
        rw [ih member]
        rfl

namespace Text

private theorem digitValue?_digitChar {value : Nat} (small : value < 16) :
    digitValue? (Nat.digitChar value) = some value := by
  have all : ∀ value < 16, digitValue? (Nat.digitChar value) = some value := by decide
  exact all value small

theorem digitValue?_toUpper {value : Nat} (small : value < 16) :
    digitValue? (Nat.digitChar value).toUpper = some value := by
  have all : ∀ value < 16, digitValue? (Nat.digitChar value).toUpper = some value := by decide
  exact all value small

private theorem natOfDigits?_singleton (base : Nat) (last : Char) :
    natOfDigits? base [last] =
      (digitValue? last).bind fun digit => if digit < base then some digit else none := by
  simp [natOfDigits?, bind]

private theorem natOfDigits?_concat (base : Nat) {digits : List Char} (some_digits : digits ≠ [])
    (last : Char) :
    natOfDigits? base (digits ++ [last]) =
      (natOfDigits? base digits).bind fun value => (digitValue? last).bind fun digit =>
        if digit < base then some (value * base + digit) else none := by
  simp [natOfDigits?, some_digits, List.foldl_append, bind]

/-- Digits in any shape that is read as the same values. -/
theorem natOfDigits?_toDigits {base : Nat} {shape : Char → Char} (binary : 1 < base)
    (reads : ∀ value < base, digitValue? (shape (Nat.digitChar value)) = some value) (n : Nat) :
    natOfDigits? base ((Nat.toDigits base n).map shape) = some n := by
  induction n using Nat.strong_induction_on with
  | _ n ih =>
    rw [Nat.toDigits_eq_if binary]
    split
    · rename_i small
      rw [List.map_singleton, natOfDigits?_singleton, reads n small, Option.bind_some, if_pos small]
    · rename_i large
      have rest := ih (n / base) (Nat.div_lt_self (by omega) binary)
      have small := Nat.mod_lt n (show base > 0 by omega)
      rw [List.map_append, List.map_singleton,
        natOfDigits?_concat base (by simp), rest, reads _ small,
        Option.bind_some, Option.bind_some, if_pos small, Nat.div_add_mod']

/-- Zeros in front of digits count for nothing. -/
theorem natOfDigits?_replicate {base : Nat} (binary : 1 < base) {digits : List Char}
    (some_digits : digits ≠ []) (count : Nat) :
    natOfDigits? base (List.replicate count '0' ++ digits) = natOfDigits? base digits := by
  have zero : digitValue? '0' = some 0 := rfl
  have positive : 0 < base := by omega
  induction count with
  | zero => rfl
  | succ count ih =>
    rw [← ih, List.replicate_succ, List.cons_append]
    simp [natOfDigits?, some_digits, zero, positive, bind]

theorem natOfDigits?_eq_none {base : Nat} {digits : List Char} {char : Char} (member : char ∈ digits)
    (unknown : digitValue? char = none) : natOfDigits? base digits = none := by
  induction digits using List.reverseRecOn with
  | nil => cases member
  | append_singleton digits last ih =>
    by_cases bare : digits = []
    · subst bare
      rw [List.nil_append, List.mem_singleton] at member
      rw [List.nil_append, natOfDigits?_singleton, ← member, unknown]
      rfl
    · rw [natOfDigits?_concat base bare]
      rcases List.mem_append.mp member with inDigits | isLast
      · rw [ih inDigits]
        rfl
      · rw [← List.mem_singleton.mp isLast, unknown]
        cases natOfDigits? base digits <;> rfl

theorem natOfDigits?_plain {base : Nat} (binary : 1 < base) (short : base ≤ 16) (n : Nat) :
    natOfDigits? base (Nat.toDigits base n) = some n := by
  have reads : natOfDigits? base ((Nat.toDigits base n).map id) = some n :=
    natOfDigits?_toDigits binary (fun value small => digitValue?_digitChar (by omega)) n
  rwa [List.map_id] at reads

theorem natOfDigits?_paddedDigits {base : Nat} (binary : 1 < base) (short : base ≤ 16)
    (width n : Nat) : natOfDigits? base (paddedDigits base width n) = some n := by
  rw [paddedDigits, natOfDigits?_replicate binary Nat.toDigits_ne_nil,
    natOfDigits?_plain binary short]

theorem length_paddedDigits {base width n : Nat} (positive : 0 < width)
    (fits : n < base ^ width) : (paddedDigits base width n).length = width := by
  have short := Nat.toDigits_length base n width positive fits
  rw [paddedDigits, List.length_append, List.length_replicate]
  omega

theorem mem_toDigits {base : Nat} (binary : 1 < base) {n : Nat} {char : Char}
    (member : char ∈ Nat.toDigits base n) : ∃ value < base, char = Nat.digitChar value := by
  induction n using Nat.strong_induction_on with
  | _ n ih =>
    rw [Nat.toDigits_eq_if binary] at member
    split at member
    · rename_i small
      exact ⟨n, small, List.mem_singleton.mp member⟩
    · rename_i large
      rcases List.mem_append.mp member with inRest | isLast
      · exact ih (n / base) (Nat.div_lt_self (by omega) binary) inRest
      · exact ⟨n % base, Nat.mod_lt n (by omega), List.mem_singleton.mp isLast⟩

/-- Only zero starts with a zero digit. -/
theorem eq_zero_of_head?_toDigits {base : Nat} (binary : 1 < base) (short : base ≤ 16) {n : Nat}
    (starts : (Nat.toDigits base n).head? = some '0') : n = 0 := by
  have onlyZero : ∀ value < 16, Nat.digitChar value = '0' → value = 0 := by decide
  induction n using Nat.strong_induction_on with
  | _ n ih =>
    rw [Nat.toDigits_eq_if binary] at starts
    split at starts
    · rename_i small
      exact onlyZero n (by omega) (Option.some.inj starts)
    · rename_i large
      rw [List.head?_append_of_ne_nil _ Nat.toDigits_ne_nil] at starts
      have higher := ih (n / base) (Nat.div_lt_self (by omega) binary) starts
      have positive := Nat.div_pos (Nat.not_lt.mp large) (by omega)
      omega

theorem mem_paddedDigits {base : Nat} (binary : 1 < base) {width n : Nat} {char : Char}
    (member : char ∈ paddedDigits base width n) : ∃ value < base, char = Nat.digitChar value := by
  rcases List.mem_append.mp member with isZero | inDigits
  · exact ⟨0, by omega, List.eq_of_mem_replicate isZero⟩
  · exact mem_toDigits binary inDigits

end Text

end CertGraph
