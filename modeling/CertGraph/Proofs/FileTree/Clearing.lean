import CertGraph.Proofs.FileTree.Replay

/- Removing directories with all that is in them: nothing is left there. -/
set_option autoImplicit false
set_option relaxedAutoImplicit false

namespace CertGraph

namespace Storing

theorem outcome_removals (places : List Place) (tree : FileTree) :
    outcome (places.forM fun place => perform (.remove place)) tree =
      (.ok (), tree.replay (places.map .remove)) := by
  induction places generalizing tree with
  | nil => rfl
  | cons place places ih =>
    simp only [List.forM, outcome_bind]
    exact ih (tree.after (.remove place))

/-- Removing a directory leaves nothing at or below it, and touches nothing else. -/
theorem removeTree_clears {path : Path} {root : Place} {mode : Nat} {tree : FileTree}
    (located : tree.locate path = .ok (.place root)) (nonroot : root ≠ [])
    (known : tree.at? root = some (.directory mode)) :
    ∃ after, outcome (removeTree path) tree = (.ok (), after) ∧
      tree.Touches (root <+: ·) after ∧ ∀ place, root <+: place → after.at? place = none := by
  refine ⟨tree.replay ((below tree root ++ [root]).map .remove), ?_, ⟨_, rfl, ?_⟩, ?_⟩
  · simp only [removeTree, outcome_bind, outcome_get, located, known]
    exact outcome_removals _ tree
  · intro place member
    rw [FileTree.touched_removals] at member
    exact prefix_of_removed member
  · intro place inside
    have placeNonroot : place ≠ [] := by
      rintro rfl
      exact nonroot (List.prefix_nil.mp inside)
    rw [FileTree.at?_replay_removals placeNonroot]
    split
    · rfl
    · rename_i spared
      by_contra there
      obtain ⟨entry, found⟩ := Option.ne_none_iff_exists'.mp there
      exact spared (mem_removed found inside nonroot)

end Storing

end CertGraph
