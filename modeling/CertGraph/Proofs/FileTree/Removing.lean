import CertGraph.Proofs.FileTree.Moving

/- Removing files and directories: what is spared. -/
set_option autoImplicit false
set_option relaxedAutoImplicit false

namespace CertGraph

namespace FileTree

/-- Removing no directory keeps all directories. -/
theorem SameDirectories.remove {tree : FileTree} {place : Place}
    (free : ∀ mode, tree.at? place ≠ some (.directory mode)) :
    tree.SameDirectories (tree.after (.remove place)) := by
  refine ⟨rfl, fun other mode => ?_⟩
  by_cases same : other = place
  · subst same
    have nonroot : other ≠ [] := by
      rintro rfl
      exact free _ at?_nil
    rw [at?_after_remove nonroot]
    simp [free]
  · rw [at?_after (by simpa [Change.places] using same)]

/-- A tree after steps that only remove: what is not doomed stays, and nothing comes. -/
structure Removes (doomed : Place → Prop) (tree after : FileTree) : Prop where
  workingDirectory : after.workingDirectory = tree.workingDirectory
  spared : ∀ place, ¬ doomed place → after.at? place = tree.at? place
  absent : ∀ place, tree.at? place = none → after.at? place = none
  history : ∃ changes, after.history = tree.history ++ changes ∧
    ∀ source target, Change.move source target ∉ changes

namespace Removes

variable {doomed : Place → Prop} {tree middle after : FileTree}

theorem refl (tree : FileTree) : Removes doomed tree tree :=
  ⟨rfl, fun _ _ => rfl, fun _ absent => absent, [], by simp, fun _ _ => List.not_mem_nil⟩

theorem trans (first : Removes doomed tree middle) (second : Removes doomed middle after) :
    Removes doomed tree after := by
  obtain ⟨before, history, still⟩ := first.history
  obtain ⟨more, history', still'⟩ := second.history
  refine ⟨second.workingDirectory.trans first.workingDirectory,
    fun place alive => (second.spared place alive).trans (first.spared place alive),
    fun place absent => second.absent place (first.absent place absent),
    before ++ more, by rw [history', history, List.append_assoc], ?_⟩
  intro source target member
  rcases List.mem_append.mp member with old | new
  · exact still source target old
  · exact still' source target new

theorem mono {larger : Place → Prop} (removes : Removes doomed tree after)
    (within : ∀ place, doomed place → larger place) : Removes larger tree after :=
  ⟨removes.workingDirectory, fun place alive => removes.spared place (mt (within place) alive),
    removes.absent, removes.history⟩

private theorem remove {place : Place} (isDoomed : doomed place) :
    Removes doomed tree (tree.after (.remove place)) := by
  refine ⟨rfl, ?_, ?_, [.remove place], rfl, by simp⟩
  · intro other alive
    have apart : other ≠ place := by
      rintro rfl
      exact alive isDoomed
    exact at?_after (by simpa [Change.places] using apart)
  · intro other absent
    by_cases same : other = place
    · subst same
      exact at?_after_remove (ne_nil_of_at?_eq_none absent)
    · rw [at?_after (by simpa [Change.places] using same), absent]

end Removes

end FileTree

namespace Storing

open FileTree (Removes)

/-- Removing what a path leads to leaves nothing there; without a directory there it cannot fail. -/
theorem removeFile_spec {path : Path} {place : Place} {tree : FileTree}
    (targets : tree.Targets path place) :
    ∃ after, outcome (removeFile path) tree = (.ok (), after) ∧ after.at? place = none ∧
      tree.SameDirectories after ∧ Removes (· = place) tree after := by
  simp only [removeFile, outcome_bind, outcome_get, targets.1]
  rcases known : tree.at? place with _ | ⟨mode⟩ | ⟨mode, data⟩
  · exact ⟨tree, rfl, known, .refl tree, .refl tree⟩
  · exact absurd known (targets.2 mode)
  · exact ⟨tree.after (.remove place), rfl,
      FileTree.at?_after_remove (FileTree.ne_nil_of_at?_eq_file known), .remove targets.2,
      .remove rfl⟩

/-- Removing what some paths lead to, one after another. -/
theorem removeFiles_spec {paths : List Path} {tree : FileTree}
    (each : ∀ path ∈ paths, ∃ place, tree.Targets path place) :
    ∃ after, outcome (paths.forM removeFile) tree = (.ok (), after) ∧
      Removes (fun place => ∃ path ∈ paths, tree.Targets path place) tree after ∧
      ∀ path ∈ paths, ∀ place, tree.Targets path place → after.at? place = none := by
  induction paths generalizing tree with
  | nil => exact ⟨tree, rfl, .refl tree, nofun⟩
  | cons path paths ih =>
    obtain ⟨place, targets⟩ := each path List.mem_cons_self
    obtain ⟨middle, removed, gone, same, first⟩ := removeFile_spec targets
    obtain ⟨after, rest, others, goneOthers⟩ := ih fun path member =>
      (each path (List.mem_cons_of_mem _ member)).imp fun _ targets => targets.of_same same
    refine ⟨after, ?_, ?_, ?_⟩
    · simp only [List.forM, outcome_bind, removed]
      exact rest
    · refine (first.mono ?_).trans (others.mono ?_)
      · rintro _ rfl
        exact ⟨path, List.mem_cons_self, targets⟩
      · rintro other ⟨path, member, targets⟩
        exact ⟨path, List.mem_cons_of_mem _ member, targets.of_same same.symm⟩
    · intro other member goal targets'
      rcases List.mem_cons.mp member with rfl | member
      · rw [targets'.unique targets]
        exact others.absent place gone
      · exact goneOthers other member goal (targets'.of_same same)

private theorem outcome_removes (places : List Place) (tree : FileTree) :
    ∃ after, outcome (places.forM fun place => perform (.remove place)) tree = (.ok (), after) ∧
      Removes (· ∈ places) tree after := by
  induction places generalizing tree with
  | nil => exact ⟨tree, rfl, .refl tree⟩
  | cons place places ih =>
    obtain ⟨after, rest, removes⟩ := ih (tree.after (.remove place))
    refine ⟨after, ?_, ?_⟩
    · simp only [List.forM, outcome_bind]
      exact rest
    · exact .trans (.remove List.mem_cons_self)
        (removes.mono fun other member => List.mem_cons_of_mem _ member)

theorem mem_below_iff {tree : FileTree} {directory place : Place} :
    place ∈ below tree directory ↔
      place ∈ tree.entries.map Prod.fst ∧ directory <+: place ∧ place ≠ directory := by
  simp only [below, List.mem_mergeSort, List.mem_filter, Bool.and_eq_true,
    List.isPrefixOf_iff_prefix, decide_eq_true_eq]

theorem prefix_of_removed {tree : FileTree} {root place : Place}
    (member : place ∈ below tree root ++ [root]) : root <+: place := by
  rcases List.mem_append.mp member with inside | last
  · exact (mem_below_iff.mp inside).2.1
  · exact (List.mem_singleton.mp last) ▸ List.prefix_rfl

/-- Whatever is at or below a directory is removed with it. -/
theorem mem_removed {tree : FileTree} {root place : Place} {entry : Entry}
    (known : tree.at? place = some entry) (inside : root <+: place) (nonroot : root ≠ []) :
    place ∈ below tree root ++ [root] := by
  by_cases same : place = root
  · exact List.mem_append_right _ (List.mem_singleton.mpr same)
  · have placeNonroot : place ≠ [] := by
      rintro rfl
      exact nonroot (List.prefix_nil.mp inside)
    have listed := List.mem_map_of_mem (f := Prod.fst) (FileTree.mem_of_at? known placeNonroot)
    exact List.mem_append_left _ (mem_below_iff.mpr ⟨listed, inside, same⟩)

/-- Removing a directory never fails, and spares all that the path does not lead to. -/
theorem removeTree_spec (path : Path) (tree : FileTree) :
    ∃ after, outcome (removeTree path) tree = (.ok (), after) ∧
      Removes (fun place => ∃ root, FileTree.spot tree.workingDirectory path = .place root ∧
        root <+: place) tree after := by
  simp only [removeTree, outcome_bind, outcome_get]
  rcases located : tree.locate path with refusal | place | place
  · exact ⟨tree, rfl, .refl tree⟩
  · exact ⟨tree, rfl, .refl tree⟩
  · rcases known : tree.at? place with _ | ⟨mode⟩ | ⟨mode, data⟩
    · exact ⟨tree, by simp only [known]; rfl, .refl tree⟩
    · obtain ⟨after, removed, removes⟩ := outcome_removes (below tree place ++ [place]) tree
      refine ⟨after, by simpa only [known] using removed, removes.mono ?_⟩
      intro other member
      exact ⟨place, (FileTree.locate_eq_spot located).symm, prefix_of_removed member⟩
    · exact ⟨tree, by simp only [known]; rfl, .refl tree⟩

end Storing

end CertGraph
