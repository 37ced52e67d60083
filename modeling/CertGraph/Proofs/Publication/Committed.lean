import CertGraph.Proofs.Publication.Moved

/- Staging and committing as one step: all files stand in the final directory, or nothing that was
written is left outside the staging directory. -/
set_option autoImplicit false
set_option relaxedAutoImplicit false

namespace CertGraph

open FileTree (Adds Targets SameDirectories KeepsDirectories Touches spot goal)

variable {σ ε : Type}

namespace Storing

variable {tree : FileTree} {path : Path} {place : Place}

private theorem at?_of_present? {entry : Entry} (leads : spot tree.workingDirectory path = .place place)
    (found : outcome (present? path) tree = (.ok (some entry), tree)) :
    tree.at? place = some entry := by
  simp only [present?, outcome_bind, outcome_checked] at found
  by_cases clean : path.Clean
  · simp only [clean, if_true, outcome_get] at found
    rcases status : tree.status path with refusal | there
    · rw [status] at found
      cases refusal <;> cases found
    · rw [status] at found
      cases found
      rcases located : tree.locate path with refusal | named
      · simp [FileTree.status, located, bind, Except.bind] at status
      · obtain rfl : named = .place place := (FileTree.locate_eq_spot located).trans leads
        cases known : tree.at? place with
        | none => simp [FileTree.status, located, bind, Except.bind, known] at status
        | some there => simpa [FileTree.status, located, bind, Except.bind, known] using status
  · simp only [clean, if_false] at found
    cases found

end Storing

namespace Publication

/-- A tree with a directory at a place: it was there, or was made where nothing was. -/
def Prepares (directory : Path) (target : Place) (existed : Bool) (tree after : FileTree) : Prop :=
  (existed = true ∧ after = tree ∧ ∃ mode, tree.at? target = some (.directory mode)) ∨
    existed = false ∧ tree.locate directory = .ok (.place target) ∧ tree.at? target = none ∧
      ∃ mode, after = tree.after (.makeDirectory target mode)

theorem Prepares.adds {directory : Path} {target : Place} {existed : Bool} {tree after : FileTree}
    (prepares : Prepares directory target existed tree after) : tree.Adds after := by
  rcases prepares with ⟨-, rfl, -⟩ | ⟨-, -, absent, mode, rfl⟩
  · exact .refl after
  · exact .makeDirectory absent

/-- The final directory is there afterwards, or that fails and nothing changes. -/
private theorem prepare_ends {directory : Path} {target : Place} (tree : FileTree)
    (leads : spot tree.workingDirectory directory = .place target) :
    (∃ status? middle, outcome (Storing.present? directory) tree = (.ok status?, tree) ∧
      outcome (Storing.ensureDirectory directory) tree = (.ok (), middle) ∧ directory.Clean ∧
      Prepares directory target status?.isSome tree middle) ∨
    (∃ status? fault, outcome (Storing.present? directory) tree = (.ok status?, tree) ∧
      outcome (Storing.ensureDirectory directory) tree = (.error fault, tree)) ∨
      ∃ fault, outcome (Storing.present? directory) tree = (.error fault, tree) := by
  rcases Storing.prepare_cases directory tree with ⟨status?, middle, found, ensured, clean,
    ⟨mode, rfl, rfl⟩ | ⟨place, mode, rfl, located, absent, rfl⟩⟩ | failed
  · have known := Storing.at?_of_present? leads found
    exact .inl ⟨_, _, found, ensured, clean, .inl ⟨rfl, rfl, mode, known⟩⟩
  · obtain rfl : place = target := by
      have named := (FileTree.locate_eq_spot located).trans leads
      cases named
      rfl
    exact .inl ⟨_, _, found, ensured, clean, .inr ⟨rfl, located, absent, mode, rfl⟩⟩
  · exact .inr failed

/-- Files that stand in a directory are removed one after another. -/
private theorem removeFiles_replay {directory : Path} {target : Place} {files : List AssetFile}
    {tree : FileTree} (nodup : (namesOf files).Nodup)
    (targets : ∀ file ∈ files,
      tree.Targets (directory.child file.filename) (target ++ [file.filename]))
    (there : ∀ file ∈ files,
      tree.at? (target ++ [file.filename]) = some (.file file.mode file.data)) :
    outcome (((namesOf files).map directory.child).forM Storing.removeFile) tree =
      (.ok (), tree.replay ((placesIn target files).map .remove)) := by
  induction files generalizing tree with
  | nil => rfl
  | cons file files ih =>
    obtain ⟨unlike, nodupRest⟩ := List.nodup_cons.mp nodup
    have leads := targets file List.mem_cons_self
    have known := there file List.mem_cons_self
    have removed : outcome (Storing.removeFile (directory.child file.filename)) tree =
        (.ok (), tree.after (.remove (target ++ [file.filename]))) := by
      simp only [Storing.removeFile, outcome_bind, outcome_get, leads.1, known]
      rfl
    simp only [namesOf, List.map_cons, List.forM, outcome_bind, removed]
    refine ih nodupRest (fun other member => (targets other (.tail _ member)).of_same
      (.remove leads.2)) ?_
    intro other member
    rw [FileTree.at?_after, there other (.tail _ member)]
    rw [Change.places, List.mem_singleton]
    intro same
    exact unlike (List.mem_map.mpr ⟨other, member, (FileTree.concat_inj same).2⟩)

/-- Moved files are removed again: they are gone, and directories stay. -/
private theorem Moves.removed {source target : Place} {directory : Path} {files : List AssetFile}
    {prepared tree : FileTree} (nodup : (namesOf files).Nodup)
    (moves : Moves source target directory files prepared tree) :
    ∃ after, outcome (((namesOf files).map directory.child).forM Storing.removeFile) tree =
        (.ok (), after) ∧
      tree.Touches (· ∈ placesIn target files) after ∧
      (∀ place ∈ placesIn target files, after.at? place = none) ∧
      ∀ place mode, tree.at? place = some (.directory mode) →
        after.at? place = some (.directory mode) := by
  refine ⟨_, removeFiles_replay nodup moves.targets moves.moved, ⟨_, rfl, ?_⟩, ?_, ?_⟩
  · intro place touched
    rwa [FileTree.touched_removals] at touched
  · intro place listed
    obtain ⟨file, -, rfl⟩ := mem_placesIn.mp listed
    rw [FileTree.at?_replay_removals (List.concat_ne_nil _ _), if_pos listed]
  · intro place mode known
    rw [FileTree.at?_replay, known]
    rw [FileTree.touched_removals]
    intro listed
    obtain ⟨file, member, rfl⟩ := mem_placesIn.mp listed
    cases (moves.moved file member).symm.trans known

/-- A tree after moved files were taken back, with the directory if that was made for them. -/
structure TakesBack (target : Place) (files : List AssetFile) (existed : Bool)
    (tree after : FileTree) : Prop where
  touches : tree.Touches (fun place => target <+: place ∧ after.at? place = none) after
  gone : ∀ file ∈ files, after.at? (target ++ [file.filename]) = none
  empty : existed = false → ∀ place, target <+: place → after.at? place = none
  directories : ∀ place mode, tree.at? place = some (.directory mode) →
    (existed = false → ¬ target <+: place) → after.at? place = some (.directory mode)

private theorem undo_takesBack {source target : Place} {directory : Path} {files : List AssetFile}
    {first prepared tree : FileTree} {existed : Bool} (nodup : (namesOf files).Nodup)
    (prepares : Prepares directory target existed first prepared)
    (moves : Moves source target directory files prepared tree) :
    ∃ after, outcome (undo directory existed ((namesOf files).map directory.child)) tree =
      (.ok (), after) ∧ TakesBack target files existed tree after := by
  obtain ⟨middle, removed, touches, gone, kept⟩ := moves.removed nodup
  have inside : ∀ place ∈ placesIn target files, target <+: place := by
    intro place listed
    obtain ⟨file, -, rfl⟩ := mem_placesIn.mp listed
    exact List.prefix_append _ _
  simp only [undo, outcome_bind, removed]
  rcases prepares with ⟨rfl, rfl, -⟩ | ⟨rfl, located, absent, mode, rfl⟩
  · exact ⟨middle, rfl, touches.mono fun place listed => ⟨inside place listed, gone place listed⟩,
      fun file member => gone _ (mem_placesIn.mpr ⟨file, member, rfl⟩), fun made => (by cases made),
      fun place mode known _ => kept place mode known⟩
  · -- the directory was made by the commit, so all that is below it goes with it
    have nonroot := FileTree.ne_nil_of_at?_eq_none absent
    have made : tree.at? target = some (.directory mode) :=
      (moves.same.directory_iff target mode).mpr (FileTree.at?_after_makeDirectory nonroot)
    have adds : first.Adds (first.after (.makeDirectory target mode)) := .makeDirectory absent
    have keeps : first.KeepsDirectories middle := by
      refine ⟨?_, fun place mode known => ⟨mode, kept place mode ?_⟩⟩
      · exact touches.workingDirectory.trans moves.same.workingDirectory
      · exact (moves.same.directory_iff place mode).mpr (adds.kept place _ known)
    obtain ⟨after, cleared, clears, empty⟩ :=
      Storing.removeTree_clears (keeps.locate_ok located) nonroot (kept target mode made)
    refine ⟨after, cleared, ?_, fun file _ => empty _ (List.prefix_append _ _), fun _ => empty, ?_⟩
    · refine (touches.mono fun place listed => ?_).trans (clears.mono fun place below => ?_)
      · exact ⟨inside place listed, empty place (inside place listed)⟩
      · exact ⟨below, empty place below⟩
    · intro place mode known outside
      rw [clears.spared (outside rfl), kept place mode known]

/-- A tree after a publication was given up: what was changed outside the staging directory is gone,
and directories stay. -/
structure Withdraws (source : Place) (allowed : Place → Prop) (tree after : FileTree) : Prop where
  touches : tree.Touches
    (fun place => source <+: place ∨ allowed place ∧ after.at? place = none) after
  directories : ∀ place mode, tree.at? place = some (.directory mode) →
    after.at? place = some (.directory mode)

namespace Withdraws

variable {source : Place} {allowed : Place → Prop} {tree middle after : FileTree}

theorem refl (tree : FileTree) : Withdraws source allowed tree tree :=
  ⟨.refl tree, fun _ _ known => known⟩

/-- Files that were staged before. -/
private theorem of_stages {files : List AssetFile} (stages : Stages source files tree middle)
    (withdraws : Withdraws source allowed middle after) : Withdraws source allowed tree after := by
  refine ⟨.trans (stages.touches.mono ?_) withdraws.touches, fun place mode known =>
    withdraws.directories place mode (stages.adds.kept place _ known)⟩
  rintro place ⟨file, -, rfl⟩
  exact .inl (List.prefix_append _ _)

end Withdraws

/-- Files that were moved as far as possible and then taken back. -/
private theorem TakesBack.withdraws {source target : Place} {directory : Path} {files : List AssetFile}
    {first prepared tree after : FileTree} {existed : Bool} (grounded : first.Grounded)
    (prepares : Prepares directory target existed first prepared)
    (moves : Moves source target directory files prepared tree)
    (takesBack : TakesBack target files existed tree after) :
    Withdraws source (target <+: ·) first after := by
  refine ⟨?_, ?_⟩
  · have readied : first.Touches (fun place => target <+: place ∧ after.at? place = none)
        prepared := by
      rcases prepares with ⟨-, rfl, -⟩ | ⟨rfl, -, -, mode, rfl⟩
      · exact .refl _
      · refine .single ?_
        intro place isTarget
        obtain rfl := List.mem_singleton.mp isTarget
        exact ⟨List.prefix_rfl, takesBack.empty rfl place List.prefix_rfl⟩
    refine (readied.mono fun _ => .inr).trans ((moves.touches.mono ?_).trans
      (takesBack.touches.mono fun _ => .inr))
    rintro place (listed | listed) <;> obtain ⟨file, member, rfl⟩ := mem_placesIn.mp listed
    · exact .inl (List.prefix_append _ _)
    · exact .inr ⟨List.prefix_append _ _, takesBack.gone file member⟩
  · intro place mode known
    refine takesBack.directories place mode ?_ ?_
    · exact (moves.same.directory_iff place mode).mpr (prepares.adds.kept place _ known)
    · intro made below
      rcases prepares with ⟨there, -, -⟩ | ⟨-, -, absent, -⟩
      · cases there.symm.trans made
      · exact not_below grounded absent known below

/-- Staged files are committed: all of them are moved, or what was moved is taken back. -/
theorem commit_ends {staging directory : Path} {source target : Place} {files : List AssetFile}
    (site : Site σ) (grounded : site.tree.Grounded)
    (leadsSource : goal site.tree.workingDirectory staging = source)
    (leadsTarget : goal site.tree.workingDirectory directory = target)
    (named : spot site.tree.workingDirectory directory = .place target) (apart : source ≠ target)
    (components : ∀ file ∈ files, Path.IsComponent file.filename)
    (nodup : (namesOf files).Nodup)
    (clean : ∀ file ∈ files, (staging.child file.filename).Clean)
    (staged : ∀ file ∈ files,
      site.tree.at? (source ++ [file.filename]) = some (.file file.mode file.data)) :
    (∃ last existed prepared,
      outcome (commit directory ((namesOf files).map staging.child)) site =
        (.ok ((namesOf files).map directory.child), { site with tree := last }) ∧
      Prepares directory target existed site.tree prepared ∧
      Moves source target directory files prepared last) ∨
    ∃ fault after, outcome (commit directory ((namesOf files).map staging.child)) site =
      (.error (.storage fault), after) ∧ Withdraws source (target <+: ·) site.tree after.tree ∧
      (directory.Clean → fault ≠ .zeroCharacter) := by
  simp only [commit, outcome_bind, Run.outcome_ofStoring]
  rcases prepare_ends site.tree named with ⟨status?, prepared, found, ensured, cleanDirectory,
    prepares⟩ | ⟨status?, fault, found, failed⟩ | ⟨fault, failed⟩
  · have leadsSourceLater : goal prepared.workingDirectory staging = source := by
      rw [prepares.adds.workingDirectory, leadsSource]
    have leadsTargetLater : goal prepared.workingDirectory directory = target := by
      rw [prepares.adds.workingDirectory, leadsTarget]
    obtain ⟨done, rest, fault?, last, rfl, moves, moved, ended⟩ := moveAll_moves leadsSourceLater
      leadsTargetLater apart components nodup cleanDirectory clean
      fun file member => prepares.adds.kept _ _ (staged file member)
    simp only [found, ensured, moves, Except.mapError]
    rcases ended with ⟨rfl, rfl⟩ | ⟨fault, rfl, notZero⟩
    · rw [List.append_nil]
      exact .inl ⟨last, _, prepared, rfl, prepares, moved⟩
    · have nodupDone : (namesOf done).Nodup := by
        rw [namesOf, List.map_append] at nodup
        exact (List.nodup_append.mp nodup).1
      obtain ⟨after, undone, takesBack⟩ := undo_takesBack nodupDone prepares moved
      simp only [notZero, ne_eq, not_false_eq_true, if_true, outcome_bind, Run.outcome_report,
        Run.outcome_ofStoring, undone]
      exact .inr ⟨_, _, rfl, takesBack.withdraws grounded prepares moved, fun _ => notZero⟩
  · simp only [found, failed, Except.mapError]
    refine .inr ⟨_, _, rfl, .refl _, fun clean isZero => ?_⟩
    exact Storing.OnlyRefuses.ensureDirectory clean site.tree (by rw [failed, isZero])
  · simp only [failed, Except.mapError]
    refine .inr ⟨_, _, rfl, .refl _, fun clean isZero => ?_⟩
    exact Storing.OnlyRefuses.present? clean site.tree (by rw [failed, isZero])

/-- Stage the files of generated assets and commit them. -/
def publish (parents : Parents ε) (generated : List String) (staging directory : Path) :
    Run σ (List Path × List (String × String)) := do
  let (staged, serials) ← Run.ofStoring (stageAll parents staging generated)
  return (← commit directory staged, serials)

/-- How staging and committing can end: before all files are staged, before all are committed, or
with all files in place. -/
inductive PublishEnds (parents : Parents ε) (generated : List String) (staging directory : Path)
    (source target : Place) (site : Site σ) : Prop where
  | unstaged (fault : StorageFault) (after : Site σ)
      (ended : outcome (publish parents generated staging directory) site =
        (.error (.storage fault), after))
      (refused : (outcome (stageFiles staging (filesOf parents generated)) site.tree).1 =
        .error fault)
      (withdraws : Withdraws source (fun _ => False) site.tree after.tree)
  | uncommitted (nodup : (namesOf (filesOf parents generated)).Nodup) (fault : StorageFault)
      (after : Site σ)
      (ended : outcome (publish parents generated staging directory) site =
        (.error (.storage fault), after))
      (withdraws : Withdraws source (target <+: ·) site.tree after.tree)
      (notZero : directory.Clean → fault ≠ .zeroCharacter)
  | committed (nodup : (namesOf (filesOf parents generated)).Nodup)
      (staged prepared last : FileTree) (existed : Bool)
      (ended : outcome (publish parents generated staging directory) site =
        (.ok ((namesOf (filesOf parents generated)).map directory.child,
          serialsOf parents generated), { site with tree := last }))
      (stages : Stages source (filesOf parents generated) site.tree staged)
      (prepares : Prepares directory target existed staged prepared)
      (moves : Moves source target directory (filesOf parents generated) prepared last)

theorem publish_ends {parents : Parents ε} {generated : List String} {staging directory : Path}
    {source target : Place} (site : Site σ) (grounded : site.tree.Grounded)
    (inSource : ∃ mode, site.tree.at? source = some (.directory mode))
    (leadsSource : goal site.tree.workingDirectory staging = source)
    (leadsTarget : goal site.tree.workingDirectory directory = target)
    (named : spot site.tree.workingDirectory directory = .place target) (apart : source ≠ target)
    (components : ∀ file ∈ filesOf parents generated, Path.IsComponent file.filename) :
    PublishEnds parents generated staging directory source target site := by
  obtain ⟨done, rest, result, staged, split, ran, fills, clean, ended⟩ :=
    stageFiles_fills leadsSource components
  have stages := fills.stages
  rcases ended with ⟨rfl, rfl⟩ | ⟨-, fault, rfl⟩
  · rw [List.append_nil] at split
    subst split
    have sameStart := stages.adds.workingDirectory
    rcases commit_ends { site with tree := staged } (stages.grounded inSource grounded)
      (sameStart ▸ leadsSource) (sameStart ▸ leadsTarget) (sameStart ▸ named) apart components
      stages.nodup clean stages.written with ⟨last, existed, prepared, committed, prepares, moves⟩ |
      ⟨fault, after, failed, withdraws, notZero⟩
    · refine .committed stages.nodup staged prepared last existed ?_ stages prepares moves
      simp only [publish, outcome_bind, Run.outcome_ofStoring, outcome_stageAll, ran, Except.map,
        Except.mapError, committed]
      rfl
    · refine .uncommitted stages.nodup fault after ?_ (withdraws.of_stages stages) notZero
      simp only [publish, outcome_bind, Run.outcome_ofStoring, outcome_stageAll, ran, Except.map,
        Except.mapError, failed]
  · refine .unstaged fault { site with tree := staged } ?_ (by rw [ran])
      ((Withdraws.refl staged).of_stages stages)
    simp only [publish, outcome_bind, Run.outcome_ofStoring, outcome_stageAll, ran]
    rfl

end Publication

end CertGraph
