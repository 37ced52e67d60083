import CertGraph.Proofs.FileTree.Midst
import CertGraph.Proofs.FileTree.Performing
import CertGraph.Proofs.Publication.RollBack

/- What moving files into a directory comes to wherever they were staged, and taking them back. -/
set_option autoImplicit false
set_option relaxedAutoImplicit false

namespace CertGraph

open FileTree (Adds Performs Removes SameDirectories Targets goal spot)

namespace Publication

/-- A change that brings one of some files into a directory, makes that directory, or removes what is in
it. -/
def CommitsOneOf (start : Place) (directory : Path) (paths : List Path) : Change → Prop
  | .makeDirectory place _ => spot start directory = .place place
  | .move source target => ∃ path ∈ paths,
    spot start path = .place source ∧ spot start (finalPath directory path) = .place target
  | .remove place => goal start directory <+: place
  | .createFile _ _ | .setMode _ _ | .write _ _ => False

/-- A final path that leads to a place leads into the directory, to the last step of the path moved. -/
theorem eq_of_spot_finalPath {start place : Place} {directory path : Path}
    (leads : spot start (finalPath directory path) = .place place) :
    place = goal start directory ++ [path.name] := by
  simp only [spot, finalPath, List.getLast?_concat, List.dropLast_concat] at leads
  split at leads
  · cases leads
  · cases leads
    rfl

/-- A tree after some files were moved into a directory, or were there already. -/
inductive Carries (directory : Path) : List Path → FileTree → FileTree → Prop where
  | nil (tree : FileTree) : Carries directory [] tree tree
  | stay {path : Path} {paths : List Path} {tree after : FileTree} {start : Place}
      (located : tree.locate path = .ok (.place start))
      (targets : tree.Targets (finalPath directory path) start)
      (rest : Carries directory paths tree after) : Carries directory (path :: paths) tree after
  | move {path : Path} {paths : List Path} {tree after : FileTree} {start target : Place}
      {mode : Nat} {data : Octets} (located : tree.locate path = .ok (.place start))
      (known : tree.at? start = some (.file mode data)) (apart : start ≠ target)
      (targets : tree.Targets (finalPath directory path) target)
      (rest : Carries directory paths (tree.after (.move start target)) after) :
      Carries directory (path :: paths) tree after

namespace Carries

variable {directory : Path} {paths : List Path} {tree after : FileTree}

private theorem same (carries : Carries directory paths tree after) : tree.SameDirectories after := by
  induction carries with
  | nil tree => exact .refl tree
  | stay _ _ _ ih => exact ih
  | move _ known apart targets _ ih => exact (SameDirectories.move known apart targets.2).trans ih

private theorem performs (carries : Carries directory paths tree after) :
    Performs (CommitsOneOf tree.workingDirectory directory paths) tree after := by
  -- what one of the later files does is done by one of all of them
  have later {start : Place} {path : Path} {paths : List Path} {change : Change}
      (commits : CommitsOneOf start directory paths change) :
      CommitsOneOf start directory (path :: paths) change := by
    cases change with
    | move source target =>
      obtain ⟨other, member, leads⟩ := commits
      exact ⟨other, .tail _ member, leads⟩
    | makeDirectory | remove | createFile | setMode | write => exact commits
  induction carries with
  | nil tree => exact .refl tree
  | stay _ _ _ ih => exact ih.mono fun change => later
  | @move path paths tree after start target mode data located _ _ targets _ ih =>
    have first : CommitsOneOf tree.workingDirectory directory (path :: paths) (.move start target) :=
      ⟨path, List.mem_cons_self, (FileTree.locate_eq_spot located).symm,
        (FileTree.locate_eq_spot targets.1).symm⟩
    exact (Performs.single first).trans (ih.mono fun change => later)

private theorem targets (carries : Carries directory paths tree after) :
    ∀ path ∈ paths, ∃ place, tree.Targets (finalPath directory path) place := by
  induction carries with
  | nil tree => exact nofun
  | @stay path paths tree after start located targets _ ih =>
    intro other member
    rcases List.mem_cons.mp member with rfl | member
    · exact ⟨start, targets⟩
    · exact ih other member
  | @move path paths tree after start target mode data located known apart targets _ ih =>
    intro other member
    rcases List.mem_cons.mp member with rfl | member
    · exact ⟨target, targets⟩
    · have back := (SameDirectories.move known apart targets.2).symm
      exact (ih other member).imp fun _ leads => leads.of_same back

private theorem spared (carries : Carries directory paths tree after) {place : Place}
    (notFrom : ∀ path ∈ paths, spot tree.workingDirectory path ≠ .place place)
    (notTo : ∀ path ∈ paths, spot tree.workingDirectory (finalPath directory path) ≠ .place place) :
    after.at? place = tree.at? place := by
  induction carries with
  | nil tree => rfl
  | stay _ _ _ ih =>
    exact ih (fun other member => notFrom other (.tail _ member))
      fun other member => notTo other (.tail _ member)
  | @move path paths tree after start target mode data located _ _ targets _ ih =>
    rw [ih (fun other member => notFrom other (.tail _ member))
      fun other member => notTo other (.tail _ member)]
    have notStart : place ≠ start := by
      rintro rfl
      exact notFrom path List.mem_cons_self (FileTree.locate_eq_spot located).symm
    have notTarget : place ≠ target := by
      rintro rfl
      exact notTo path List.mem_cons_self (FileTree.locate_eq_spot targets.1).symm
    exact FileTree.at?_after (by simp [Change.places, notStart, notTarget])

/-- Nothing is left where a file was moved from, unless one was moved there. -/
private theorem left (carries : Carries directory paths tree after) {place : Place}
    (source : ∃ path ∈ paths, spot tree.workingDirectory path = .place place)
    (notTo : ∀ path ∈ paths, spot tree.workingDirectory (finalPath directory path) ≠ .place place) :
    after.at? place = none := by
  induction carries with
  | nil tree =>
    obtain ⟨path, member, -⟩ := source
    cases member
  | @stay path paths tree after start located targets _ ih =>
    have notToRest := fun other member => notTo other (List.mem_cons_of_mem path member)
    obtain ⟨other, member, leads⟩ := source
    rcases List.mem_cons.mp member with rfl | member
    · cases leads.symm.trans (FileTree.locate_eq_spot located).symm
      exact absurd (FileTree.locate_eq_spot targets.1).symm (notTo _ List.mem_cons_self)
    · exact ih ⟨other, member, leads⟩ notToRest
  | @move path paths tree after start target mode data located known apart targets rest ih =>
    have notToRest := fun other member => notTo other (List.mem_cons_of_mem path member)
    by_cases later : ∃ other ∈ paths, spot tree.workingDirectory other = .place place
    · exact ih later notToRest
    · obtain ⟨other, member, leads⟩ := source
      rcases List.mem_cons.mp member with rfl | member
      · cases leads.symm.trans (FileTree.locate_eq_spot located).symm
        rw [rest.spared (fun other member leads => later ⟨other, member, leads⟩) notToRest]
        exact FileTree.at?_after_move_source known apart
      · exact absurd ⟨other, member, leads⟩ later

/-- Where no file was moved to, a file was there before and was not moved. -/
private theorem file_iff (carries : Carries directory paths tree after) {place : Place} {mode : Nat}
    {data : Octets}
    (notTo : ∀ path ∈ paths, spot tree.workingDirectory (finalPath directory path) ≠ .place place) :
    after.at? place = some (.file mode data) ↔ tree.at? place = some (.file mode data) ∧
      ∀ path ∈ paths, spot tree.workingDirectory path ≠ .place place := by
  by_cases moved : ∃ path ∈ paths, spot tree.workingDirectory path = .place place
  · rw [carries.left moved notTo]
    obtain ⟨path, member, leads⟩ := moved
    constructor
    · nofun
    · intro both
      exact absurd leads (both.2 path member)
  · have notFrom : ∀ path ∈ paths, spot tree.workingDirectory path ≠ .place place :=
      fun path member leads => moved ⟨path, member, leads⟩
    rw [carries.spared notFrom notTo]
    exact (and_iff_left notFrom).symm

end Carries

/-- Files are moved one after another until one cannot be moved. -/
theorem moveAll_carries {directory : Path} (clean : directory.Clean) (staged : List Path)
    (tree : FileTree) (cleanStaged : ∀ path ∈ staged, path.Clean) :
    ∃ moved rest fault? after, staged = moved ++ rest ∧
      outcome (moveAll directory staged) tree =
        (.ok (moved.map (finalPath directory), fault?), after) ∧
      Carries directory moved tree after ∧
      ((rest = [] ∧ fault? = none) ∨ ∃ fault, fault? = some fault ∧ fault ≠ .zeroCharacter) := by
  induction staged generalizing tree with
  | nil => exact ⟨[], [], none, tree, rfl, rfl, .nil tree, .inl ⟨rfl, rfl⟩⟩
  | cons path staged ih =>
    have cleanRest (other : Path) (member : other ∈ staged) := cleanStaged other (.tail _ member)
    simp only [moveAll, outcome_bind, Storing.outcome_attempt]
    rcases Storing.moveFile_cases path (finalPath directory path) tree with
      ⟨start, mode, data, known, located, ⟨stays, targets⟩ | ⟨target, moves, apart, targets⟩⟩ |
      ⟨fault, failed, zero⟩
    · obtain ⟨moved, rest, fault?, after, rfl, ran, carries, ended⟩ := ih tree cleanRest
      refine ⟨path :: moved, rest, fault?, after, rfl, ?_, .stay located targets carries, ended⟩
      simp only [stays, outcome_bind, ran]
      rfl
    · obtain ⟨moved, rest, fault?, after, rfl, ran, carries, ended⟩ :=
        ih (tree.after (.move start target)) cleanRest
      refine ⟨path :: moved, rest, fault?, after, rfl, ?_,
        .move located known apart targets carries, ended⟩
      simp only [moves, outcome_bind, ran]
      rfl
    · refine ⟨[], path :: staged, some fault, tree, rfl, ?_, .nil tree, .inr ⟨fault, rfl, ?_⟩⟩
      · simp only [failed]
        rfl
      · intro isZero
        have cleanPath := cleanStaged path List.mem_cons_self
        exact zero isZero ⟨cleanPath, clean_finalPath clean cleanPath⟩

/-! ### Giving up -/

/-- A tree in which a directory was there, or was made where nothing was. -/
inductive Readies (directory : Path) (tree : FileTree) : Bool → FileTree → Prop where
  | kept : Readies directory tree true tree
  | made {place : Place} {mode : Nat} (located : tree.locate directory = .ok (.place place))
      (absent : tree.at? place = none) :
      Readies directory tree false (tree.after (.makeDirectory place mode))

namespace Readies

variable {directory : Path} {existed : Bool} {tree after : FileTree}

theorem adds (readies : Readies directory tree existed after) : tree.Adds after := by
  cases readies with
  | kept => exact .refl tree
  | made _ absent => exact .makeDirectory absent

private theorem performs (readies : Readies directory tree existed after) (paths : List Path) :
    Performs (CommitsOneOf tree.workingDirectory directory paths) tree after := by
  cases readies with
  | kept => exact .refl tree
  | made located _ =>
    apply Performs.single
    exact (FileTree.locate_eq_spot located).symm

theorem file_iff (readies : Readies directory tree existed after) {place : Place} {mode : Nat}
    {data : Octets} :
    after.at? place = some (.file mode data) ↔ tree.at? place = some (.file mode data) := by
  refine ⟨fun known => ?_, readies.adds.kept place _⟩
  cases readies with
  | kept => exact known
  | @made root dirMode located absent =>
    by_cases same : place = root
    · subst same
      rw [FileTree.at?_after_makeDirectory (FileTree.ne_nil_of_at?_eq_none absent)] at known
      cases known
    · rwa [FileTree.at?_after (by simpa [Change.places] using same)] at known

end Readies

private theorem undo_performs (directory : Path) (existed : Bool) (paths : List Path)
    (tree : FileTree) :
    Performs (fun change => ∃ place, change = .remove place ∧
      goal tree.workingDirectory directory <+: place) tree
      (outcome (undo directory existed (paths.map (finalPath directory))) tree).2 := by
  have files := Storing.removeFiles_performs (paths.map (finalPath directory)) tree
  have start := files.workingDirectory
  refine Storing.performs_bind (files.mono ?_) fun _ => ?_
  · rintro change ⟨place, removes, target, member, leads⟩
    obtain ⟨path, -, rfl⟩ := List.mem_map.mp member
    refine ⟨place, removes, ?_⟩
    rw [eq_of_spot_finalPath leads]
    exact List.prefix_append _ _
  · cases existed with
    | true => exact .refl _
    | false =>
      refine (Storing.removeTree_performs directory _).mono ?_
      rintro change ⟨place, removes, root, leads, above⟩
      rw [start] at leads
      exact ⟨place, removes, (FileTree.goal_of_spot leads).1 ▸ above⟩

/-- A tree after files were brought into a directory and given up: no file is left of them, where they
were or where they came. -/
structure GivesUp (directory : Path) (moved : List Path) (tree after : FileTree) : Prop where
  performs : Performs (CommitsOneOf tree.workingDirectory directory moved) tree after
  file_iff : ∀ place mode data, after.at? place = some (.file mode data) ↔
    tree.at? place = some (.file mode data) ∧ ∀ path ∈ moved,
      spot tree.workingDirectory path ≠ .place place ∧
        spot tree.workingDirectory (finalPath directory path) ≠ .place place
  directories : ∀ place mode, tree.at? place = some (.directory mode) →
    after.at? place = some (.directory mode)

theorem GivesUp.refl (directory : Path) (tree : FileTree) : GivesUp directory [] tree tree :=
  ⟨.refl tree, fun _ _ _ => ⟨fun known => ⟨known, nofun⟩, And.left⟩, fun _ _ => id⟩

section Brought

variable {directory : Path} {existed : Bool} {moved : List Path} {tree prepared last after : FileTree}

private theorem brought_workingDirectory (readies : Readies directory tree existed prepared)
    (carries : Carries directory moved prepared last) :
    last.workingDirectory = tree.workingDirectory :=
  carries.same.workingDirectory.trans readies.adds.workingDirectory

private theorem brought_performs (readies : Readies directory tree existed prepared)
    (carries : Carries directory moved prepared last) :
    Performs (CommitsOneOf tree.workingDirectory directory moved) tree last := by
  have moves := carries.performs
  rw [readies.adds.workingDirectory] at moves
  exact (readies.performs moved).trans moves

private theorem brought_targets (carries : Carries directory moved prepared last) :
    ∀ path ∈ moved, ∃ place, last.Targets (finalPath directory path) place := by
  intro path member
  exact (carries.targets path member).imp fun _ targets => targets.of_same carries.same

private theorem brought_file_iff (readies : Readies directory tree existed prepared)
    (carries : Carries directory moved prepared last) {place : Place} {mode : Nat} {data : Octets}
    (notTo : ∀ path ∈ moved,
      spot tree.workingDirectory (finalPath directory path) ≠ .place place) :
    last.at? place = some (.file mode data) ↔ tree.at? place = some (.file mode data) ∧
      ∀ path ∈ moved, spot tree.workingDirectory path ≠ .place place := by
  have start := readies.adds.workingDirectory
  rw [carries.file_iff (start ▸ notTo), readies.file_iff, start]

private theorem brought_directory (readies : Readies directory tree existed prepared)
    (carries : Carries directory moved prepared last) {place : Place} {mode : Nat}
    (known : tree.at? place = some (.directory mode)) :
    last.at? place = some (.directory mode) :=
  (carries.same.directory_iff place mode).mpr (readies.adds.kept place _ known)

/-- What was there before is not below the directory, if that was made. -/
private theorem not_below_readied (grounded : tree.Grounded)
    (readies : Readies directory tree existed prepared) {place root : Place} {entry : Entry}
    (known : tree.at? place = some entry) (isNew : existed = false)
    (leads : spot tree.workingDirectory directory = .place root) : ¬ root <+: place := by
  cases readies with
  | kept => cases isNew
  | made located absent =>
    rw [← FileTree.locate_eq_spot located] at leads
    cases leads
    exact not_below grounded absent known

/-- Giving up spares what was there before, unless a file was brought there. -/
private theorem undone_spares (grounded : tree.Grounded)
    (readies : Readies directory tree existed prepared)
    (carries : Carries directory moved prepared last)
    (removes : Removes (fun place =>
      (∃ target ∈ moved.map (finalPath directory), last.Targets target place) ∨
        existed = false ∧ ∃ root, spot last.workingDirectory directory = .place root ∧
          root <+: place) last after) {place : Place} {entry : Entry}
    (known : tree.at? place = some entry)
    (notTo : ∀ path ∈ moved, ¬ last.Targets (finalPath directory path) place) :
    after.at? place = last.at? place := by
  apply removes.spared
  rintro (⟨target, member, targets⟩ | ⟨isNew, root, leads, above⟩)
  · obtain ⟨path, inMoved, rfl⟩ := List.mem_map.mp member
    exact notTo path inMoved targets
  · rw [brought_workingDirectory readies carries] at leads
    exact not_below_readied grounded readies known isNew leads above

/-- What was brought into a directory is given up without fail. -/
theorem undo_givesUp (grounded : tree.Grounded) (readies : Readies directory tree existed prepared)
    (carries : Carries directory moved prepared last) :
    ∃ after, outcome (undo directory existed (moved.map (finalPath directory))) last =
      (.ok (), after) ∧ GivesUp directory moved tree after := by
  have start := brought_workingDirectory readies carries
  obtain ⟨after, taken, removes, gone⟩ := undo_spec directory existed
    (List.forall_mem_map.mpr (brought_targets carries))
  have performs := undo_performs directory existed moved last
  rw [taken] at performs
  refine ⟨after, taken, ?_, fun place mode data => ⟨fun known => ?_, ?_⟩, fun place mode known => ?_⟩
  · refine (brought_performs readies carries).trans (performs.mono ?_)
    rintro change ⟨place, rfl, inside⟩
    rw [start] at inside
    exact inside
  · have inLast : last.at? place = some (.file mode data) := by
      have removals := performs.mono fun change removes => removes.imp fun _ => And.left
      rcases removals.at?_of_removals place with same | nothing
      · exact same ▸ known
      · cases nothing.symm.trans known
    have notTo (path : Path) (member : path ∈ moved) :
        spot tree.workingDirectory (finalPath directory path) ≠ .place place := by
      intro leads
      obtain ⟨place', targets⟩ := brought_targets carries path member
      have leads' := FileTree.locate_eq_spot targets.1
      rw [start, leads] at leads'
      cases leads'
      cases (gone _ (List.mem_map_of_mem member) place targets).symm.trans known
    obtain ⟨there, notFrom⟩ := (brought_file_iff readies carries notTo).mp inLast
    exact ⟨there, fun path member => ⟨notFrom path member, notTo path member⟩⟩
  · rintro ⟨known, apart⟩
    have notTo (path : Path) (member : path ∈ moved) :
        ¬ last.Targets (finalPath directory path) place := by
      intro targets
      have leads := FileTree.locate_eq_spot targets.1
      rw [start] at leads
      exact (apart path member).2 leads.symm
    rw [undone_spares grounded readies carries removes known notTo]
    exact (brought_file_iff readies carries fun path member => (apart path member).2).mpr
      ⟨known, fun path member => (apart path member).1⟩
  · have inLast := brought_directory readies carries known
    have notTo (path : Path) (_ : path ∈ moved) :
        ¬ last.Targets (finalPath directory path) place := fun targets => targets.2 mode inLast
    rw [undone_spares grounded readies carries removes known notTo]
    exact inLast

end Brought

/-- A commit brings all staged files into the directory, or gives up those it brought there. -/
theorem commit_ends_anywhere {σ : Type} {directory : Path} {staged : List Path} (site : Site σ)
    (grounded : site.tree.Grounded) (clean : ∀ path ∈ staged, path.Clean) :
    (∃ last, outcome (commit directory staged) site =
        (.ok (staged.map (finalPath directory)), { site with tree := last }) ∧
      Performs (CommitsOneOf site.tree.workingDirectory directory staged) site.tree last) ∨
    ∃ fault after moved rest, outcome (commit directory staged) site =
        (.error (.storage fault), after) ∧ staged = moved ++ rest ∧
      GivesUp directory moved site.tree after.tree := by
  simp only [commit, outcome_bind, Run.outcome_ofStoring]
  rcases Storing.prepare_cases directory site.tree with
    ⟨status?, prepared, found, ensured, cleanDirectory, ready⟩ | ⟨status?, fault, found, failed⟩ |
    ⟨fault, failed⟩
  · have readies : Readies directory site.tree status?.isSome prepared := by
      rcases ready with ⟨mode, rfl, rfl⟩ | ⟨place, mode, rfl, located, absent, rfl⟩
      · exact .kept
      · exact .made located absent
    obtain ⟨moved, rest, fault?, last, rfl, ran, carries, ended⟩ :=
      moveAll_carries cleanDirectory staged prepared clean
    simp only [found, ensured, ran, Except.mapError]
    rcases ended with ⟨rfl, rfl⟩ | ⟨fault, rfl, notZero⟩
    · refine .inl ⟨last, by rw [List.append_nil]; rfl, ?_⟩
      have moves := carries.performs
      rw [readies.adds.workingDirectory] at moves
      rw [List.append_nil]
      exact (readies.performs moved).trans moves
    · obtain ⟨after, taken, givesUp⟩ := undo_givesUp grounded readies carries
      simp only [notZero, ne_eq, not_false_eq_true, if_true, outcome_bind, Run.outcome_report,
        Run.outcome_ofStoring, taken]
      exact .inr ⟨fault, _, moved, rest, rfl, rfl, givesUp⟩
  · simp only [found, failed, Except.mapError]
    exact .inr ⟨fault, _, [], staged, rfl, rfl, .refl directory _⟩
  · simp only [failed, Except.mapError]
    exact .inr ⟨fault, _, [], staged, rfl, rfl, .refl directory _⟩

end Publication

end CertGraph
