import CertGraph.Proofs.FileTree.Removing

/- Trees after changes in a row: which places the changes are about, and what stays as it was. -/
set_option autoImplicit false
set_option relaxedAutoImplicit false

namespace CertGraph

namespace FileTree

/-- The tree after changes in a row. -/
def replay (tree : FileTree) (changes : List Change) : FileTree :=
  changes.foldl after tree

/-- The places that some changes are about. -/
def touched (changes : List Change) : List Place :=
  changes.flatMap Change.places

@[simp] theorem replay_nil (tree : FileTree) : tree.replay [] = tree := rfl

theorem replay_cons (tree : FileTree) (change : Change) (changes : List Change) :
    tree.replay (change :: changes) = (tree.after change).replay changes := rfl

theorem replay_append (tree : FileTree) (changes more : List Change) :
    tree.replay (changes ++ more) = (tree.replay changes).replay more :=
  List.foldl_append

private theorem touched_append (changes more : List Change) :
    touched (changes ++ more) = touched changes ++ touched more :=
  List.flatMap_append

theorem touched_removals (places : List Place) : touched (places.map Change.remove) = places := by
  induction places with
  | nil => rfl
  | cons place places ih => exact congrArg (place :: ·) ih

theorem replay_workingDirectory (tree : FileTree) (changes : List Change) :
    (tree.replay changes).workingDirectory = tree.workingDirectory := by
  induction changes generalizing tree with
  | nil => rfl
  | cons change changes ih => exact ih (tree.after change)

/-- Changes leave alone what none of them is about. -/
theorem at?_replay {tree : FileTree} {changes : List Change} {place : Place}
    (untouched : place ∉ touched changes) :
    (tree.replay changes).at? place = tree.at? place := by
  induction changes generalizing tree with
  | nil => rfl
  | cons change changes ih =>
    obtain ⟨first, rest⟩ : place ∉ change.places ∧ place ∉ touched changes := by
      simpa [touched] using untouched
    rw [replay_cons, ih rest, at?_after first]

/-- Removing places one after another leaves nothing at any of them. -/
theorem at?_replay_removals {tree : FileTree} {places : List Place} {place : Place}
    (nonroot : place ≠ []) :
    (tree.replay (places.map .remove)).at? place =
      if place ∈ places then none else tree.at? place := by
  induction places generalizing tree with
  | nil => rfl
  | cons first places ih =>
    rw [List.map_cons, replay_cons, ih]
    by_cases same : place = first
    · subst same
      rw [at?_after_remove nonroot, if_pos List.mem_cons_self, ite_self]
    · rw [at?_after (by simpa [Change.places] using same)]
      simp [same]

/-- A tree after changes that are all about places of some kind. -/
def Touches (allowed : Place → Prop) (tree after : FileTree) : Prop :=
  ∃ changes, after = tree.replay changes ∧ ∀ place ∈ touched changes, allowed place

namespace Touches

variable {allowed : Place → Prop} {tree middle after : FileTree}

theorem refl (tree : FileTree) : Touches allowed tree tree :=
  ⟨[], rfl, fun _ member => absurd member List.not_mem_nil⟩

theorem single {change : Change} (within : ∀ place ∈ change.places, allowed place) :
    Touches allowed tree (tree.after change) :=
  ⟨[change], rfl, by simpa [touched] using within⟩

theorem trans (first : Touches allowed tree middle) (second : Touches allowed middle after) :
    Touches allowed tree after := by
  obtain ⟨changes, rfl, within⟩ := first
  obtain ⟨more, rfl, within'⟩ := second
  refine ⟨changes ++ more, (replay_append tree changes more).symm, ?_⟩
  intro place member
  rw [touched_append] at member
  rcases List.mem_append.mp member with old | new
  · exact within place old
  · exact within' place new

theorem mono {larger : Place → Prop} (touches : Touches allowed tree after)
    (within : ∀ place, allowed place → larger place) : Touches larger tree after :=
  touches.imp fun _ replayed =>
    ⟨replayed.1, fun place member => within place (replayed.2 place member)⟩

theorem spared (touches : Touches allowed tree after) {place : Place} (apart : ¬ allowed place) :
    after.at? place = tree.at? place := by
  obtain ⟨changes, rfl, within⟩ := touches
  exact at?_replay fun member => apart (within place member)

theorem workingDirectory (touches : Touches allowed tree after) :
    after.workingDirectory = tree.workingDirectory := by
  obtain ⟨changes, rfl, -⟩ := touches
  exact replay_workingDirectory tree changes

end Touches

/-! ### Trees in which directories are nested -/

/-- A grounded tree whose working directory is one of its directories. -/
structure WellFormed (tree : FileTree) : Prop where
  grounded : tree.Grounded
  within : ∃ mode, tree.at? tree.workingDirectory = some (.directory mode)

namespace WellFormed

variable {tree : FileTree}

/-- Steps from a directory lead to a directory. -/
theorem walk_directory (grounded : tree.Grounded) {here place : Place} {steps : List String}
    (start : ∃ mode, tree.at? here = some (.directory mode))
    (leads : tree.walk here steps = .ok place) :
    ∃ mode, tree.at? place = some (.directory mode) := by
  induction steps generalizing here with
  | nil =>
    cases leads
    exact start
  | cons step rest ih =>
    simp only [walk] at leads
    split at leads
    · obtain ⟨mode, known⟩ := start
      exact ih (grounded here _ known) leads
    · split at leads
      · cases leads
      · split at leads
        · cases leads
        · cases leads
        · rename_i mode known
          exact ih ⟨mode, known⟩ leads

/-- A place that a path names is in a directory. -/
theorem parent_directory (wellFormed : tree.WellFormed) {path : Path} {place : Place}
    (located : tree.locate path = .ok (.place place)) :
    ∃ mode, tree.at? place.dropLast = some (.directory mode) := by
  have start : ∃ mode, tree.at? (if path.slashes = 0 then tree.workingDirectory else []) =
      some (.directory mode) := by
    split
    · exact wellFormed.within
    · exact ⟨_, at?_nil⟩
  unfold locate at located
  dsimp only at located
  split at located
  · cases located
  · cases ended : path.steps.getLast? with
    | none =>
      rw [ended] at located
      cases located
    | some last =>
      rw [ended] at located
      cases walked : tree.walk (if path.slashes = 0 then tree.workingDirectory else [])
        path.steps.dropLast with
      | error refusal =>
        rw [walked] at located
        cases located
      | ok directory =>
        rw [walked] at located
        simp only [bind, Except.bind] at located
        split at located
        · cases located
        · split at located
          · cases located
          · cases located
            rw [List.dropLast_concat]
            exact walk_directory wellFormed.grounded start walked

/-- Something new where a path leads keeps a tree well-formed. -/
theorem of_adds {after : FileTree} (wellFormed : tree.WellFormed) {path : Path} {place : Place}
    (located : tree.locate path = .ok (.place place)) (adds : tree.Adds after)
    (spared : ∀ other ≠ place, after.at? other = tree.at? other) : after.WellFormed := by
  have old {above : Place} (directory : ∃ mode, tree.at? above = some (.directory mode)) :
      ∃ mode, after.at? above = some (.directory mode) :=
    directory.imp fun _ => adds.kept above _
  refine ⟨fun other entry known => ?_, ?_⟩
  · by_cases same : other = place
    · subst same
      exact old (wellFormed.parent_directory located)
    · rw [spared other same] at known
      exact old (wellFormed.grounded other entry known)
  · rw [adds.workingDirectory]
    exact old wellFormed.within

theorem makeDirectory (wellFormed : tree.WellFormed) {path : Path} {place : Place} {mode : Nat}
    (located : tree.locate path = .ok (.place place)) (absent : tree.at? place = none) :
    (tree.after (.makeDirectory place mode)).WellFormed := by
  refine wellFormed.of_adds located (.makeDirectory absent) fun other apart => ?_
  exact at?_after (by simpa [Change.places] using apart)

theorem withFile (wellFormed : tree.WellFormed) {path : Path} {place : Place} {mode : Nat}
    {data : Octets} (located : tree.locate path = .ok (.place place))
    (absent : tree.at? place = none) : (tree.withFile place mode data).WellFormed :=
  wellFormed.of_adds located (.withFile absent) fun _ apart => at?_withFile_ne apart

end WellFormed

end FileTree

end CertGraph
