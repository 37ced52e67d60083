import CertGraph.Proofs.FileTree.Adding

/- Moving files: what is refused, what is moved, and that directories stay. -/
set_option autoImplicit false
set_option relaxedAutoImplicit false

namespace CertGraph

namespace Path

private theorem zero_mem_intercalate {steps : List String} :
    '\x00' ∈ ("/".intercalate steps).toList ↔ ∃ step ∈ steps, '\x00' ∈ step.toList := by
  induction steps with
  | nil => simp
  | cons step rest ih =>
    cases rest with
    | nil => simp
    | cons next rest =>
      rw [String.intercalate_cons_cons, String.toList_append, String.toList_append,
        List.mem_append, List.mem_append, ih]
      simp

theorem clean_iff {path : Path} : path.Clean ↔ ∀ step ∈ path.steps, '\x00' ∉ step.toList := by
  unfold Clean text
  dsimp only
  split
  · rename_i bare
    simp [bare.2]
  · rw [String.toList_append, List.mem_append, zero_mem_intercalate]
    simp

end Path

namespace FileTree

/-- Two trees with the same directories and the same working directory. -/
structure SameDirectories (tree other : FileTree) : Prop where
  workingDirectory : other.workingDirectory = tree.workingDirectory
  directory_iff : ∀ place mode, other.at? place = some (.directory mode) ↔
    tree.at? place = some (.directory mode)

namespace SameDirectories

variable {tree other third : FileTree}

theorem refl (tree : FileTree) : tree.SameDirectories tree :=
  ⟨rfl, fun _ _ => Iff.rfl⟩

theorem symm (same : tree.SameDirectories other) : other.SameDirectories tree :=
  ⟨same.workingDirectory.symm, fun place mode => (same.directory_iff place mode).symm⟩

theorem trans (first : tree.SameDirectories other) (second : other.SameDirectories third) :
    tree.SameDirectories third :=
  ⟨second.workingDirectory.trans first.workingDirectory,
    fun place mode => (second.directory_iff place mode).trans (first.directory_iff place mode)⟩

private theorem locate_ok (same : tree.SameDirectories other) {path : Path} {named : Named}
    (leads : tree.locate path = .ok named) : other.locate path = .ok named :=
  KeepsDirectories.locate_ok
    ⟨same.workingDirectory, fun place mode known => ⟨mode, (same.directory_iff place mode).mpr known⟩⟩
    leads

end SameDirectories

/-- A path leads to a place where no directory is. -/
def Targets (tree : FileTree) (path : Path) (place : Place) : Prop :=
  tree.locate path = .ok (.place place) ∧ ∀ mode, tree.at? place ≠ some (.directory mode)

theorem Targets.of_same {tree other : FileTree} {path : Path} {place : Place}
    (targets : tree.Targets path place) (same : tree.SameDirectories other) :
    other.Targets path place :=
  ⟨same.locate_ok targets.1, fun mode known =>
    targets.2 mode ((same.directory_iff place mode).mp known)⟩

theorem Targets.unique {tree : FileTree} {path : Path} {place other : Place}
    (targets : tree.Targets path place) (targets' : tree.Targets path other) : place = other := by
  have := targets.1.symm.trans targets'.1
  cases this
  rfl

/-- Moving a file over no directory keeps all directories. -/
theorem SameDirectories.move {tree : FileTree} {source target : Place} {mode : Nat} {data : Octets}
    (moved : tree.at? source = some (.file mode data)) (apart : source ≠ target)
    (free : ∀ mode, tree.at? target ≠ some (.directory mode)) :
    tree.SameDirectories (tree.after (.move source target)) := by
  refine ⟨rfl, fun place dirMode => ?_⟩
  by_cases isTarget : place = target
  · subst isTarget
    have nonroot : place ≠ [] := by
      rintro rfl
      exact free _ at?_nil
    rw [at?_after_move moved nonroot]
    simp [free]
  · by_cases isSource : place = source
    · subst isSource
      rw [at?_after_move_source moved apart, moved]
      simp
    · rw [at?_after (by simp [Change.places, isTarget, isSource])]

end FileTree

namespace Storing

/-- A file is moved to another place where no directory is, or both paths lead to it, or nothing
changes. -/
theorem moveFile_cases (source target : Path) (tree : FileTree) :
    (∃ start mode data, tree.at? start = some (.file mode data) ∧
      tree.locate source = .ok (.place start) ∧
      ((outcome (moveFile source target) tree = (.ok (), tree) ∧ tree.Targets target start) ∨
        ∃ goal, outcome (moveFile source target) tree = (.ok (), tree.after (.move start goal)) ∧
          start ≠ goal ∧ tree.Targets target goal)) ∨
      ∃ fault, outcome (moveFile source target) tree = (.error fault, tree) ∧
        (fault = .zeroCharacter → ¬ (source.Clean ∧ target.Clean)) := by
  simp only [moveFile, outcome_bind, outcome_checked]
  by_cases clean : source.Clean
  · by_cases cleanTarget : target.Clean
    · simp only [clean, cleanTarget, if_true, outcome_get]
      rcases from' : tree.locate source with refusal | start
      · exact .inr ⟨.refused _ _ _, rfl, nofun⟩
      rcases to' : tree.locate target with refusal | goal
      · exact .inr ⟨.refused _ _ _, rfl, nofun⟩
      rcases start with start | start
      · rcases goal with goal | goal <;> exact .inr ⟨.refused _ _ _, rfl, nofun⟩
      rcases goal with goal | goal
      · exact .inr ⟨.refused _ _ _, rfl, nofun⟩
      simp only
      rcases atStart : tree.at? start with _ | ⟨mode⟩ | ⟨mode, data⟩
      · exact .inr ⟨.refused _ _ _, rfl, nofun⟩
      · exact .inr ⟨.refused _ _ _, rfl, nofun⟩
      rcases atGoal : tree.at? goal with _ | ⟨mode'⟩ | ⟨mode', data'⟩
      · have apart : start ≠ goal := by
          rintro rfl
          cases atStart.symm.trans atGoal
        exact .inl ⟨start, mode, data, atStart, rfl,
          .inr ⟨goal, by simp only [apart, if_false]; rfl, apart, to', by simp [atGoal]⟩⟩
      · exact .inr ⟨.refused _ _ _, rfl, nofun⟩
      · refine .inl ⟨start, mode, data, atStart, rfl, ?_⟩
        by_cases same : start = goal
        · subst same
          exact .inl ⟨by simp only [if_true]; rfl, to', by simp [atGoal]⟩
        · exact .inr ⟨goal, by simp only [same, if_false]; rfl, same, to', by simp [atGoal]⟩
    · simp only [clean, cleanTarget, if_true, if_false]
      exact .inr ⟨_, rfl, fun _ both => both.2⟩
  · simp only [clean, if_false]
    exact .inr ⟨_, rfl, fun _ both => both.1⟩

end Storing

end CertGraph
