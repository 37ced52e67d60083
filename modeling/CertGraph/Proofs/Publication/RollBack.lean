import CertGraph.Proofs.Publication.Staging

/- What a publication that fails leaves behind: files are replaced one after another, and rolling
back removes what was put in their place. -/
set_option autoImplicit false
set_option relaxedAutoImplicit false

namespace CertGraph

open FileTree (Adds Removes Targets SameDirectories spot)

variable {σ ε : Type}

namespace Publication

/-- Moving staged files into a directory, as far as it went: where files were moved to, by which
changes, and what was left alone. Staged files come from fresh places. -/
structure Relocates (fresh : Place → Prop) (moved : List Path) (changes : List Change)
    (tree after : FileTree) : Prop where
  same : tree.SameDirectories after
  history : after.history = tree.history ++ changes
  targets : ∀ target ∈ moved, ∃ place, tree.Targets target place
  replaced : ∀ source place, .move source place ∈ changes →
    ∃ target ∈ moved, tree.Targets target place
  accounted : ∀ target ∈ moved, ∀ place, tree.Targets target place →
    fresh place ∨ ∃ source, .move source place ∈ changes
  spared : ∀ place, ¬ fresh place → (∀ source, .move source place ∉ changes) →
    after.at? place = tree.at? place

namespace Relocates

variable {fresh : Place → Prop} {moved : List Path} {changes : List Change}
  {tree middle after : FileTree}

theorem refl (tree : FileTree) : Relocates fresh [] [] tree tree :=
  ⟨.refl tree, by simp, nofun, nofun, nofun, fun _ _ _ => rfl⟩

/-- A first file that is where it belongs already. -/
private theorem cons_same {target : Path} {place : Place}
    (rest : Relocates fresh moved changes tree after)
    (targets : tree.Targets target place) (isFresh : fresh place) :
    Relocates fresh (target :: moved) changes tree after where
  same := rest.same
  history := rest.history
  targets := by
    intro other member
    rcases List.mem_cons.mp member with rfl | member
    · exact ⟨place, targets⟩
    · exact rest.targets other member
  replaced := by
    intro source goal member
    obtain ⟨other, inMoved, leads⟩ := rest.replaced source goal member
    exact ⟨other, List.mem_cons_of_mem _ inMoved, leads⟩
  accounted := by
    intro other member goal leads
    rcases List.mem_cons.mp member with rfl | member
    · exact .inl (leads.unique targets ▸ isFresh)
    · exact rest.accounted other member goal leads
  spared := rest.spared

/-- A first file that is moved. -/
private theorem cons_move {target : Path} {start goal : Place} {mode : Nat} {data : Octets}
    (rest : Relocates fresh moved changes (tree.after (.move start goal)) after)
    (known : tree.at? start = some (.file mode data)) (apart : start ≠ goal)
    (targets : tree.Targets target goal) (isFresh : fresh start) :
    Relocates fresh (target :: moved) (.move start goal :: changes) tree after := by
  have first : tree.SameDirectories (tree.after (.move start goal)) :=
    .move known apart targets.2
  refine ⟨first.trans rest.same, ?_, ?_, ?_, ?_, ?_⟩
  · rw [rest.history]
    simp [FileTree.after]
  · intro other member
    rcases List.mem_cons.mp member with rfl | member
    · exact ⟨goal, targets⟩
    · exact (rest.targets other member).imp fun _ leads => leads.of_same first.symm
  · intro source place member
    rcases List.mem_cons.mp member with isFirst | member
    · cases isFirst
      exact ⟨target, List.mem_cons_self, targets⟩
    · obtain ⟨other, inMoved, leads⟩ := rest.replaced source place member
      exact ⟨other, List.mem_cons_of_mem _ inMoved, leads.of_same first.symm⟩
  · intro other member place leads
    rcases List.mem_cons.mp member with rfl | member
    · obtain rfl := leads.unique targets
      exact .inr ⟨start, List.mem_cons_self⟩
    · rcases rest.accounted other member place (leads.of_same first) with isFresh | ⟨source, moved⟩
      · exact .inl isFresh
      · exact .inr ⟨source, List.mem_cons_of_mem _ moved⟩
  · intro place notFresh unmoved
    have notStart : place ≠ start := by
      rintro rfl
      exact notFresh isFresh
    have notGoal : place ≠ goal := by
      rintro rfl
      exact unmoved start List.mem_cons_self
    rw [rest.spared place notFresh fun source member =>
      unmoved source (List.mem_cons_of_mem _ member)]
    exact FileTree.at?_after (by simp [Change.places, notStart, notGoal])

end Relocates

theorem clean_finalPath {directory path : Path} (clean : directory.Clean) (cleanPath : path.Clean) :
    (finalPath directory path).Clean := by
  rw [Path.clean_iff] at clean cleanPath ⊢
  intro step member
  rcases List.mem_append.mp member with inDirectory | last
  · exact clean step inDirectory
  · rw [List.mem_singleton.mp last, Path.name]
    rcases ends : path.steps.getLast? with _ | name
    · simp
    · exact cleanPath name (List.mem_of_getLast? ends)

/-- Moving files from fresh places never stumbles over a zero character, and otherwise goes as far
as it can. -/
theorem moveAll_spec (fresh : Place → Prop) {directory : Path} (clean : directory.Clean)
    (staged : List Path) (tree : FileTree) (cleanStaged : ∀ path ∈ staged, path.Clean)
    (isFresh : ∀ path ∈ staged, ∀ place,
      spot tree.workingDirectory path = .place place → fresh place) :
    ∃ moved fault? changes after,
      outcome (moveAll directory staged) tree = (.ok (moved, fault?), after) ∧
      fault? ≠ some .zeroCharacter ∧
      (∀ target ∈ moved, ∃ path ∈ staged, target = finalPath directory path) ∧
      Relocates fresh moved changes tree after := by
  induction staged generalizing tree with
  | nil => exact ⟨[], none, [], tree, rfl, nofun, nofun, .refl tree⟩
  | cons path staged ih =>
    have cleanRest (other : Path) (member : other ∈ staged) := cleanStaged other
      (List.mem_cons_of_mem _ member)
    have freshRest (other : Path) (member : other ∈ staged) := isFresh other
      (List.mem_cons_of_mem _ member)
    have later {moved : List Path}
        (finals : ∀ target ∈ moved, ∃ path ∈ staged, target = finalPath directory path) :
        ∀ target ∈ finalPath directory path :: moved,
          ∃ other ∈ path :: staged, target = finalPath directory other := by
      intro target member
      rcases List.mem_cons.mp member with rfl | member
      · exact ⟨path, List.mem_cons_self, rfl⟩
      · obtain ⟨other, inStaged, rfl⟩ := finals target member
        exact ⟨other, List.mem_cons_of_mem _ inStaged, rfl⟩
    simp only [moveAll, outcome_bind, Storing.outcome_attempt]
    rcases Storing.moveFile_cases path (finalPath directory path) tree with
      ⟨start, mode, data, known, located, ⟨stays, targets⟩ | ⟨goal, moves, apart, targets⟩⟩ |
      ⟨fault, failed, zero⟩
    · have startFresh := isFresh path List.mem_cons_self start (FileTree.locate_eq_spot located).symm
      obtain ⟨moved, fault?, changes, after, rest, notZero, finals, relocates⟩ :=
        ih tree cleanRest freshRest
      refine ⟨finalPath directory path :: moved, fault?, changes, after, ?_, notZero, later finals,
        relocates.cons_same targets startFresh⟩
      simp only [stays, outcome_bind, rest]
      rfl
    · have startFresh := isFresh path List.mem_cons_self start (FileTree.locate_eq_spot located).symm
      obtain ⟨moved, fault?, changes, after, rest, notZero, finals, relocates⟩ :=
        ih (tree.after (.move start goal)) cleanRest freshRest
      refine ⟨finalPath directory path :: moved, fault?, .move start goal :: changes, after, ?_,
        notZero, later finals, relocates.cons_move known apart targets startFresh⟩
      simp only [moves, outcome_bind, rest]
      rfl
    · refine ⟨[], some fault, [], tree, ?_, ?_, nofun, .refl tree⟩
      · simp only [failed]
        rfl
      · rintro ⟨rfl⟩
        have cleanPath := cleanStaged path List.mem_cons_self
        exact zero rfl ⟨cleanPath, clean_finalPath clean cleanPath⟩

/-- Taking back what was moved never fails, and leaves nothing where it was moved to. -/
theorem undo_spec (directory : Path) (existed : Bool) {moved : List Path} {tree : FileTree}
    (each : ∀ target ∈ moved, ∃ place, tree.Targets target place) :
    ∃ after, outcome (undo directory existed moved) tree = (.ok (), after) ∧
      Removes (fun place => (∃ target ∈ moved, tree.Targets target place) ∨
        existed = false ∧ ∃ root, spot tree.workingDirectory directory = .place root ∧
          root <+: place) tree after ∧
      ∀ target ∈ moved, ∀ place, tree.Targets target place → after.at? place = none := by
  obtain ⟨middle, removed, removes, gone⟩ := Storing.removeFiles_spec each
  simp only [undo, outcome_bind, removed]
  cases existed with
  | true => exact ⟨middle, rfl, removes.mono fun _ => .inl, gone⟩
  | false =>
    obtain ⟨after, emptied, removesTree⟩ := Storing.removeTree_spec directory middle
    refine ⟨after, emptied, (removes.mono fun _ => .inl).trans (removesTree.mono ?_), ?_⟩
    · rintro place ⟨root, leads, above⟩
      exact .inr ⟨rfl, root, removes.workingDirectory ▸ leads, above⟩
    · intro target member place targets
      exact removesTree.absent place (gone target member place targets)

/-- What a publication that failed leaves of a tree: a file that was there is lost if another was
moved over it, and stays as it was if not. Files are moved only to the names of some files. -/
structure Leaves (files : List AssetFile) (changes : List Change) (tree after : FileTree) : Prop where
  workingDirectory : after.workingDirectory = tree.workingDirectory
  history : after.history = tree.history ++ changes
  kept : ∀ place mode data, tree.at? place = some (.file mode data) →
    (∀ source, .move source place ∉ changes) → after.at? place = some (.file mode data)
  lost : ∀ place mode data, tree.at? place = some (.file mode data) →
    ∀ source, .move source place ∈ changes → after.at? place = none
  named : ∀ source place, .move source place ∈ changes →
    ∃ file ∈ files, place.getLast? = some (Path.ofText file.filename).name

namespace Leaves

variable {files : List AssetFile} {tree middle after : FileTree}

theorem of_adds (adds : tree.Adds after) : ∃ changes, Leaves files changes tree after := by
  obtain ⟨changes, history, still⟩ := adds.history
  exact ⟨changes, adds.workingDirectory, history, fun place mode data known _ =>
    adds.kept place _ known, fun place _ _ _ source member => absurd member (still source place),
    fun source place member => absurd member (still source place)⟩

/-- Removing what is no file of the first tree, or is lost already. -/
theorem removes {changes : List Change} {doomed : Place → Prop}
    (leaves : Leaves files changes tree middle) (removes : Removes doomed middle after)
    (spared : ∀ place mode data, tree.at? place = some (.file mode data) → ¬ doomed place) :
    ∃ changes, Leaves files changes tree after := by
  obtain ⟨more, history, still⟩ := removes.history
  have old {source place : Place} (member : .move source place ∈ changes ++ more) :
      .move source place ∈ changes :=
    (List.mem_append.mp member).resolve_right (still source place)
  refine ⟨changes ++ more, removes.workingDirectory.trans leaves.workingDirectory,
    by rw [history, leaves.history, List.append_assoc], ?_, ?_, ?_⟩
  · intro place mode data known unmoved
    rw [removes.spared place (spared place mode data known)]
    exact leaves.kept place mode data known fun source member =>
      unmoved source (List.mem_append_left _ member)
  · intro place mode data known source member
    exact removes.absent place (leaves.lost place mode data known source (old member))
  · intro source place member
    exact leaves.named source place (old member)

end Leaves

/-- Nothing that was in a grounded tree is below a place where nothing was. -/
theorem not_below {tree : FileTree} (grounded : tree.Grounded) {root place : Place} {entry : Entry}
    (absent : tree.at? root = none) (known : tree.at? place = some entry) : ¬ root <+: place := by
  intro above
  by_cases same : root = place
  · subst same
    cases absent.symm.trans known
  · obtain ⟨mode, directory⟩ := grounded.prefix_directory known above same
    cases absent.symm.trans directory

/-- The name of a place that a final path leads to. -/
private theorem getLast?_of_targets {tree : FileTree} {directory path : Path} {place : Place}
    (targets : tree.Targets (finalPath directory path) place) :
    place.getLast? = some path.name := by
  have leads := FileTree.locate_eq_spot targets.1
  simp only [spot, finalPath, List.getLast?_concat] at leads
  split at leads
  · cases leads
  · cases leads
    simp

/-- Moving files from fresh places and then taking back all of them. -/
theorem leaves_of_relocates {files : List AssetFile} {directory : Path} {staged moved : List Path}
    {changes : List Change} {first tree middle after : FileTree} {doomed : Place → Prop}
    (adds : first.Adds tree)
    (fresh : ∀ path ∈ staged, FreshIn first files path)
    (finals : ∀ target ∈ moved, ∃ path ∈ staged, target = finalPath directory path)
    (relocates : Relocates (fun place => first.at? place = none) moved changes tree middle)
    (removes : Removes (fun place => (∃ target ∈ moved, middle.Targets target place) ∨ doomed place)
      middle after)
    (gone : ∀ target ∈ moved, ∀ place, middle.Targets target place → after.at? place = none)
    (spared : ∀ place mode data, first.at? place = some (.file mode data) → ¬ doomed place) :
    ∃ changes, Leaves files changes first after := by
  obtain ⟨earlier, history, still⟩ := adds.history
  obtain ⟨later, history', still'⟩ := removes.history
  have moves {source place : Place} : .move source place ∈ earlier ++ changes ++ later ↔
      .move source place ∈ changes := by
    simp [still source place, still' source place]
  refine ⟨earlier ++ changes ++ later, ?_, ?_, ?_, ?_, ?_⟩
  · rw [removes.workingDirectory, relocates.same.workingDirectory, adds.workingDirectory]
  · rw [history', relocates.history, history]
    simp [List.append_assoc]
  · intro place mode data known unmoved
    have stays : ∀ source, .move source place ∉ changes :=
      fun source member => unmoved source (moves.mpr member)
    have notFresh : ¬ first.at? place = none := by simp [known]
    rw [removes.spared place, relocates.spared place notFresh stays, adds.kept place _ known]
    rintro (⟨target, member, targets⟩ | isDoomed)
    · rcases relocates.accounted target member place (targets.of_same relocates.same.symm) with
        isFresh | ⟨source, moved⟩
      · exact notFresh isFresh
      · exact stays source moved
    · exact spared place mode data known isDoomed
  · intro place mode data known source member
    obtain ⟨target, inMoved, targets⟩ := relocates.replaced source place (moves.mp member)
    exact gone target inMoved place (targets.of_same relocates.same)
  · intro source place member
    obtain ⟨target, inMoved, targets⟩ := relocates.replaced source place (moves.mp member)
    obtain ⟨path, inStaged, rfl⟩ := finals target inMoved
    obtain ⟨file, isFile, named⟩ := (fresh path inStaged).named
    exact ⟨file, isFile, by rw [getLast?_of_targets targets, named]⟩

end Publication

end CertGraph
