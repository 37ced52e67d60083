import CertGraph.Proofs.FileTree.Clearing
import CertGraph.Proofs.FileTree.Paving

/- Which kinds of changes the operations on a tree make. -/
set_option autoImplicit false
set_option relaxedAutoImplicit false

namespace CertGraph

namespace FileTree

/-- A tree after changes that are all of some kind. -/
def Performs (kind : Change → Prop) (tree after : FileTree) : Prop :=
  ∃ changes, after = tree.replay changes ∧ ∀ change ∈ changes, kind change

namespace Performs

variable {kind : Change → Prop} {tree middle after : FileTree}

theorem refl (tree : FileTree) : Performs kind tree tree :=
  ⟨[], rfl, fun _ member => absurd member List.not_mem_nil⟩

theorem single {change : Change} (isKind : kind change) : Performs kind tree (tree.after change) := by
  refine ⟨[change], rfl, fun other member => ?_⟩
  rw [List.mem_singleton.mp member]
  exact isKind

theorem trans (first : Performs kind tree middle) (second : Performs kind middle after) :
    Performs kind tree after := by
  obtain ⟨changes, rfl, each⟩ := first
  obtain ⟨more, rfl, each'⟩ := second
  refine ⟨changes ++ more, (replay_append tree changes more).symm, fun change member => ?_⟩
  exact (List.mem_append.mp member).elim (each change) (each' change)

theorem mono {larger : Change → Prop} (performs : Performs kind tree after)
    (within : ∀ change, kind change → larger change) : Performs larger tree after :=
  performs.imp fun _ replayed =>
    ⟨replayed.1, fun change member => within change (replayed.2 change member)⟩

theorem workingDirectory (performs : Performs kind tree after) :
    after.workingDirectory = tree.workingDirectory := by
  obtain ⟨changes, rfl, -⟩ := performs
  exact replay_workingDirectory tree changes

/-- Removing leaves at a place what was there, or nothing. -/
theorem at?_of_removals (performs : Performs (fun change => ∃ place, change = .remove place) tree after)
    (place : Place) : after.at? place = tree.at? place ∨ after.at? place = none := by
  obtain ⟨changes, rfl, each⟩ := performs
  induction changes generalizing tree with
  | nil => exact .inl rfl
  | cons change changes ih =>
    obtain ⟨removed, rfl⟩ := each change List.mem_cons_self
    have rest := @ih (tree.after (.remove removed)) fun other member => each other (.tail _ member)
    rw [replay_cons]
    by_cases same : place = removed
    · subst same
      by_cases root : place = []
      · subst root
        exact .inl rfl
      · rw [at?_after_remove root] at rest
        exact .inr (rest.elim id id)
    · rwa [at?_after (by simpa [Change.places] using same)] at rest

end Performs

end FileTree

namespace Storing

open FileTree (Performs OnWay spot)

theorem performs_bind {α β : Type} {kind : Change → Prop} {step : Storing α} {next : α → Storing β}
    {tree : FileTree} (first : Performs kind tree (outcome step tree).2)
    (rest : ∀ value, Performs kind (outcome step tree).2
      (outcome (next value) (outcome step tree).2).2) :
    Performs kind tree (outcome (step >>= next) tree).2 := by
  rw [outcome_bind]
  rcases ended : outcome step tree with ⟨fault | value, middle⟩
  · rw [ended] at first
    exact first
  · rw [ended] at first rest
    exact first.trans (rest value)

theorem ensureDirectories_performs (path : Path) (tree : FileTree) :
    Performs (fun change => ∃ place mode, change = .makeDirectory place mode ∧
      OnWay tree.workingDirectory path place) tree (outcome (ensureDirectories path) tree).2 := by
  have leads : path.steps.reverse.reverse <+: path.steps := by simp
  refine ensureAbove_relates (fun tree after => Performs (fun change => ∃ place mode,
    change = .makeDirectory place mode ∧ OnWay tree.workingDirectory path place) tree after)
    (fun tree => .refl tree) ?_ ?_ path.steps.reverse tree leads
  · intro tree middle after upper lower
    rw [upper.workingDirectory] at lower
    exact upper.trans lower
  · intro steps tree place mode leads located absent
    exact .single ⟨place, mode, rfl, steps, leads, (FileTree.locate_eq_spot located).symm⟩

private theorem removeFile_performs (path : Path) (tree : FileTree) :
    Performs (fun change => ∃ place, change = .remove place ∧
      spot tree.workingDirectory path = .place place) tree (outcome (removeFile path) tree).2 := by
  simp only [removeFile, outcome_bind, outcome_get]
  rcases located : tree.locate path with refusal | place | place
  · cases refusal <;> exact .refl tree
  · exact .refl tree
  · simp only [outcome_bind, outcome_get]
    rcases tree.at? place with _ | ⟨mode⟩ | ⟨mode, data⟩
    · exact .refl tree
    · exact .refl tree
    · exact .single ⟨place, rfl, (FileTree.locate_eq_spot located).symm⟩

theorem removeFiles_performs (paths : List Path) (tree : FileTree) :
    Performs (fun change => ∃ place, change = .remove place ∧
      ∃ path ∈ paths, spot tree.workingDirectory path = .place place) tree
      (outcome (paths.forM removeFile) tree).2 := by
  induction paths generalizing tree with
  | nil => exact .refl tree
  | cons path paths ih =>
    have first := removeFile_performs path tree
    have start := first.workingDirectory
    refine performs_bind (first.mono ?_) fun _ => (ih _).mono ?_
    · rintro change ⟨place, removes, leads⟩
      exact ⟨place, removes, path, List.mem_cons_self, leads⟩
    · rintro change ⟨place, removes, other, member, leads⟩
      exact ⟨place, removes, other, .tail _ member, start ▸ leads⟩

theorem removeTree_performs (path : Path) (tree : FileTree) :
    Performs (fun change => ∃ place, change = .remove place ∧
      ∃ root, spot tree.workingDirectory path = .place root ∧ root <+: place) tree
      (outcome (removeTree path) tree).2 := by
  simp only [removeTree, outcome_bind, outcome_get]
  rcases located : tree.locate path with refusal | root | root
  · exact .refl tree
  · exact .refl tree
  · rcases known : tree.at? root with _ | ⟨mode⟩ | ⟨mode, data⟩
    · simp only [known]
      exact .refl tree
    · simp only [known, outcome_removals]
      refine ⟨_, rfl, fun change member => ?_⟩
      obtain ⟨place, listed, rfl⟩ := List.mem_map.mp member
      exact ⟨place, rfl, root, (FileTree.locate_eq_spot located).symm, prefix_of_removed listed⟩
    · simp only [known]
      exact .refl tree

end Storing

end CertGraph
