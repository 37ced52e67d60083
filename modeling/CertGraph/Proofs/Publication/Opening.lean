import CertGraph.Proofs.FileTree.Refusing
import CertGraph.Proofs.Publication.Committed

/- What a publication does before and after it stages and commits: a private directory is opened
beside the final one, and is gone in the end. -/
set_option autoImplicit false
set_option relaxedAutoImplicit false

namespace CertGraph

open FileTree (Adds Paves OnWay WellFormed goal spot)

variable {σ ε : Type}

namespace Publication

theorem write_eq (parents : Parents ε) (generated : List String) (outputDir : Path)
    (tlsDir : String) (suffixes : List String) :
    (write parents generated outputDir tlsDir suffixes : Run σ Publication) = do
      Run.ofStoring (Storing.ensureDirectories outputDir)
      let directory := outputDir.join (Path.ofText tlsDir)
      let staging ← Run.ofStoring
        (Storing.makePrivateDirectory outputDir (stagingNames tlsDir suffixes))
      let (written, serials) ← Run.andFinally (publish parents generated staging directory)
        (Storing.removeTree staging)
      Run.report .info ("Wrote " ++ toString written.length ++ " files to " ++ directory.text)
      return ⟨directory, written, serials⟩ := rfl

/-- A publication fails before the private directory is made, by what was to be made first, or it
publishes with that directory and removes it. -/
theorem write_begins (parents : Parents ε) (generated : List String) (outputDir : Path)
    (tlsDir : String) (suffixes : List String) (site : Site σ) :
    let outer := (outcome (Storing.ensureDirectories outputDir) site.tree).2
    (∃ fault, outcome (write parents generated outputDir tlsDir suffixes) site =
        (.error (.storage fault), { site with tree := outer }) ∧
      ((outcome (Storing.ensureDirectories outputDir) site.tree).1 = .error fault ∨
        (outcome (Storing.makePrivateDirectory outputDir (stagingNames tlsDir suffixes)) outer).1 =
          .error fault)) ∨
    ∃ name ∈ stagingNames tlsDir suffixes, ∃ source mode,
      outer.locate (outputDir.join (Path.ofText name)) = .ok (.place source) ∧
      outer.at? source = none ∧
      ∀ ended last,
        outcome (publish parents generated (outputDir.join (Path.ofText name))
          (outputDir.join (Path.ofText tlsDir)))
          { site with tree := outer.after (.makeDirectory source mode) } = ended →
        outcome (Storing.removeTree (outputDir.join (Path.ofText name))) ended.2.tree =
          (.ok (), last) →
        (∀ fault, ended.1 = .error fault →
          outcome (write parents generated outputDir tlsDir suffixes) site =
            (.error fault, { ended.2 with tree := last })) ∧
        ∀ written serials, ended.1 = .ok (written, serials) →
          ∃ workshop, outcome (write parents generated outputDir tlsDir suffixes) site =
            (.ok ⟨outputDir.join (Path.ofText tlsDir), written, serials⟩, ⟨workshop, last⟩) := by
  simp only [write_eq, outcome_bind, Run.outcome_ofStoring]
  rcases ensured : outcome (Storing.ensureDirectories outputDir) site.tree with ⟨fault | _, outer⟩
  · exact .inl ⟨fault, rfl, .inl rfl⟩
  simp only [Except.mapError]
  rcases Storing.makePrivateDirectory_cases outputDir (stagingNames tlsDir suffixes) outer with
    ⟨name, member, source, made, located, absent⟩ | ⟨fault, failed⟩
  · refine .inr ⟨name, member, source, outer.granted 0o700, located, absent, ?_⟩
    intro ended last published removed
    subst published
    simp only [made, Run.outcome_andFinally_of_ok removed]
    refine ⟨fun fault failed => by simp only [failed], fun written serials succeeded => ?_⟩
    simp only [succeeded]
    exact ⟨_, rfl⟩
  · simp only [failed]
    exact .inl ⟨fault, rfl, .inr rfl⟩

/-- A private directory stands beside the final one: the tree before it was made and after, the
paths of both directories, and their places. -/
structure Opens (outputDir : Path) (tlsDir : String) (tree outer base : FileTree) (staging : Path)
    (source : Place) : Prop where
  paves : Paves (OnWay tree.workingDirectory outputDir) tree outer
  located : outer.locate staging = .ok (.place source)
  absent : outer.at? source = none
  made : ∃ mode, base = outer.after (.makeDirectory source mode)
  beside : ∃ name, Path.IsComponent name ∧ name ≠ tlsDir ∧ staging = outputDir.child name ∧
    source = goal tree.workingDirectory outputDir ++ [name]

namespace Opens

variable {outputDir staging : Path} {tlsDir : String} {tree outer base : FileTree} {source : Place}

theorem adds (opens : Opens outputDir tlsDir tree outer base staging source) : outer.Adds base := by
  obtain ⟨mode, rfl⟩ := opens.made
  exact .makeDirectory opens.absent

private theorem workingDirectory (opens : Opens outputDir tlsDir tree outer base staging source) :
    base.workingDirectory = tree.workingDirectory :=
  opens.adds.workingDirectory.trans opens.paves.adds.workingDirectory

private theorem wellFormed (opens : Opens outputDir tlsDir tree outer base staging source)
    (first : tree.WellFormed) : base.WellFormed := by
  obtain ⟨mode, rfl⟩ := opens.made
  exact (opens.paves.wellFormed first).makeDirectory opens.located opens.absent

private theorem present (opens : Opens outputDir tlsDir tree outer base staging source) :
    ∃ mode, base.at? source = some (.directory mode) := by
  obtain ⟨mode, rfl⟩ := opens.made
  exact ⟨mode, FileTree.at?_after_makeDirectory (FileTree.ne_nil_of_at?_eq_none opens.absent)⟩

private theorem locatedLater (opens : Opens outputDir tlsDir tree outer base staging source) :
    base.locate staging = .ok (.place source) :=
  FileTree.KeepsDirectories.locate_ok ⟨opens.adds.workingDirectory, fun place mode known =>
    ⟨mode, opens.adds.kept place _ known⟩⟩ opens.located

private theorem leads (opens : Opens outputDir tlsDir tree outer base staging source) :
    goal base.workingDirectory staging = source := by
  obtain ⟨name, component, -, rfl, rfl⟩ := opens.beside
  rw [FileTree.goal_child _ _ component, opens.workingDirectory]

private theorem apart (opens : Opens outputDir tlsDir tree outer base staging source) :
    source ≠ goal tree.workingDirectory outputDir ++ [tlsDir] := by
  obtain ⟨name, -, unlike, -, rfl⟩ := opens.beside
  exact fun same => unlike (FileTree.concat_inj same).2

/-- As long as directories stay, the private directory can be removed with all that is in it. -/
theorem removed (opens : Opens outputDir tlsDir tree outer base staging source) {last : FileTree}
    (sameStart : last.workingDirectory = base.workingDirectory)
    (directories : ∀ place mode, base.at? place = some (.directory mode) →
      last.at? place = some (.directory mode)) :
    ∃ after, outcome (Storing.removeTree staging) last = (.ok (), after) ∧
      last.Touches (source <+: ·) after ∧ ∀ place, source <+: place → after.at? place = none := by
  obtain ⟨mode, known⟩ := opens.present
  have located : last.locate staging = .ok (.place source) :=
    FileTree.KeepsDirectories.locate_ok ⟨sameStart, fun place mode known =>
      ⟨mode, directories place mode known⟩⟩ opens.locatedLater
  exact Storing.removeTree_clears located (FileTree.ne_nil_of_at?_eq_none opens.absent)
    (directories source mode known)

/-- Directories that were there before the private one stay when that is removed. -/
theorem outer_kept (opens : Opens outputDir tlsDir tree outer base staging source)
    (wellFormed : tree.WellFormed) {last after : FileTree}
    (directories : ∀ place mode, base.at? place = some (.directory mode) →
      last.at? place = some (.directory mode))
    (clears : last.Touches (source <+: ·) after) (place : Place) (mode : Nat)
    (known : outer.at? place = some (.directory mode)) :
    after.at? place = some (.directory mode) := by
  have grounded : outer.Grounded := (opens.paves.wellFormed wellFormed).grounded
  rw [clears.spared (not_below grounded opens.absent known)]
  exact directories place mode (opens.adds.kept place _ known)

/-- Nothing is both in the private directory and in the final one. -/
theorem not_prefix_both (opens : Opens outputDir tlsDir tree outer base staging source)
    {place : Place} (inSource : source <+: place) :
    ¬ goal tree.workingDirectory outputDir ++ [tlsDir] <+: place := by
  intro inTarget
  obtain ⟨name, -, unlike, -, rfl⟩ := opens.beside
  exact unlike (FileTree.concat_prefix_inj inSource inTarget)

/-- How staging in the private directory and committing from there to the final one can end. -/
theorem publish_ends (opens : Opens outputDir tlsDir tree outer base staging source)
    (wellFormed : tree.WellFormed) (component : Path.IsComponent tlsDir) {parents : Parents ε}
    {generated : List String}
    (components : ∀ file ∈ filesOf parents generated, Path.IsComponent file.filename)
    (workshop : Workshop σ) :
    PublishEnds parents generated staging (outputDir.child tlsDir) source
      (goal tree.workingDirectory outputDir ++ [tlsDir]) ⟨workshop, base⟩ := by
  refine Publication.publish_ends ⟨workshop, base⟩ (opens.wellFormed wellFormed).grounded
    opens.present opens.leads ?_ ?_ opens.apart components
  · rw [FileTree.goal_child _ _ component, opens.workingDirectory]
  · rw [FileTree.spot_child _ _ component, opens.workingDirectory]

end Opens

/-- A publication fails before the private directory is made, or it publishes with that directory
and removes it. -/
theorem write_opens (parents : Parents ε) (generated : List String) (outputDir : Path)
    {tlsDir : String} {suffixes : List String} (site : Site σ)
    (component : Path.IsComponent tlsDir) (plain : ∀ suffix ∈ suffixes, Path.Plain suffix) :
    (∃ fault after, outcome (write parents generated outputDir tlsDir suffixes) site =
        (.error (.storage fault), after) ∧
      Paves (OnWay site.tree.workingDirectory outputDir) site.tree after.tree ∧
      (outputDir.Clean → fault ≠ .zeroCharacter)) ∨
    ∃ outer base staging source, Opens outputDir tlsDir site.tree outer base staging source ∧
      (outputDir.Clean → staging.Clean) ∧
      ∀ ended last,
        outcome (publish parents generated staging (outputDir.child tlsDir))
          { site with tree := base } = ended →
        outcome (Storing.removeTree staging) ended.2.tree = (.ok (), last) →
        (∀ fault, ended.1 = .error fault →
          outcome (write parents generated outputDir tlsDir suffixes) site =
            (.error fault, { ended.2 with tree := last })) ∧
        ∀ written serials, ended.1 = .ok (written, serials) →
          ∃ workshop, outcome (write parents generated outputDir tlsDir suffixes) site =
            (.ok ⟨outputDir.child tlsDir, written, serials⟩, ⟨workshop, last⟩) := by
  have paved := Storing.ensureDirectories_paves outputDir site.tree
  have child := Path.join_component outputDir component
  rcases write_begins parents generated outputDir tlsDir suffixes site with
    ⟨fault, failed, cause⟩ | ⟨name, member, source, mode, located, absent, closing⟩
  · refine .inl ⟨fault, _, failed, paved, fun clean isZero => ?_⟩
    subst isZero
    have components : ∀ name ∈ stagingNames tlsDir suffixes, Path.IsComponent name :=
      fun name member => (stagingNames_components component plain name member).1
    rcases cause with ensuring | making
    · exact Storing.OnlyRefuses.ensureDirectories clean site.tree ensuring
    · exact Storing.OnlyRefuses.makePrivateDirectory clean components _ making
  · obtain ⟨isComponent, unlike⟩ := stagingNames_components component plain name member
    have named := FileTree.locate_eq_spot located
    rw [Path.join_component outputDir isComponent, FileTree.spot_child _ _ isComponent,
      paved.adds.workingDirectory] at named
    cases named
    rw [Path.join_component outputDir isComponent] at located closing
    rw [child] at closing
    exact .inr ⟨_, _, outputDir.child name, _, ⟨paved, located, absent, ⟨mode, rfl⟩,
      name, isComponent, unlike, rfl, rfl⟩, fun clean => Path.clean_child clean isComponent, closing⟩

end Publication

end CertGraph
