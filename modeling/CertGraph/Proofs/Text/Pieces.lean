import Mathlib.Data.List.Basic

/- Lists divided at a mark, and put together again: what is in the pieces. -/
set_option autoImplicit false
set_option relaxedAutoImplicit false

namespace CertGraph

variable {α : Type} {mark item : α} {items piece : List α} {pieces : List (List α)}

theorem mem_intercalate (member : item ∈ [mark].intercalate pieces) :
    item = mark ∨ ∃ piece ∈ pieces, item ∈ piece := by
  induction pieces with
  | nil => cases member
  | cons piece pieces ih =>
    cases pieces with
    | nil =>
      rw [List.intercalate_singleton] at member
      exact .inr ⟨piece, List.mem_cons_self, member⟩
    | cons next rest =>
      rw [List.intercalate_cons_cons] at member
      rcases List.mem_append.mp member with before | inRest
      · rcases List.mem_append.mp before with inPiece | isMark
        · exact .inr ⟨piece, List.mem_cons_self, inPiece⟩
        · exact .inl (List.mem_singleton.mp isMark)
      · rcases ih inRest with isMark | ⟨other, inPieces, inOther⟩
        · exact .inl isMark
        · exact .inr ⟨other, List.mem_cons_of_mem _ inPieces, inOther⟩

/-- No piece has the mark in it at which a list was divided. -/
theorem notMem_of_mem_splitOn [BEq α] [LawfulBEq α] (member : piece ∈ items.splitOn mark) :
    mark ∉ piece := by
  induction items generalizing piece with
  | nil =>
    rw [List.splitOn_nil, List.mem_singleton] at member
    rw [member]
    exact List.not_mem_nil
  | cons first items ih =>
    rw [List.splitOn_cons_eq_if_modifyHead] at member
    split at member
    · rcases List.mem_cons.mp member with rfl | inRest
      · exact List.not_mem_nil
      · exact ih inRest
    · rename_i other
      cases pieces : items.splitOn mark with
      | nil => exact absurd pieces (List.splitOn_ne_nil mark items)
      | cons piece rest =>
        rw [pieces] at member ih
        rcases List.mem_cons.mp member with rfl | inRest
        · intro isMark
          rcases List.mem_cons.mp isMark with rfl | inPiece
          · exact other (beq_self_eq_true _)
          · exact ih List.mem_cons_self inPiece
        · exact ih (List.mem_cons_of_mem _ inRest)

private theorem mem_intercalate_of_mem {marks : List α} (member : piece ∈ pieces)
    (inPiece : item ∈ piece) :
    item ∈ marks.intercalate pieces := by
  induction pieces with
  | nil => cases member
  | cons first pieces ih =>
    cases pieces with
    | nil =>
      rw [List.intercalate_singleton, ← List.mem_singleton.mp member]
      exact inPiece
    | cons next rest =>
      rw [List.intercalate_cons_cons]
      rcases List.mem_cons.mp member with rfl | inRest
      · exact List.mem_append_left _ (List.mem_append_left _ inPiece)
      · exact List.mem_append_right _ (ih inRest)

theorem mem_of_mem_splitOn [BEq α] [LawfulBEq α] (member : piece ∈ items.splitOn mark)
    (inPiece : item ∈ piece) : item ∈ items := by
  have whole : item ∈ [mark].intercalate (items.splitOn mark) :=
    mem_intercalate_of_mem member inPiece
  rwa [List.intercalate_splitOn] at whole

end CertGraph
