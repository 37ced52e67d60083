import CertGraph.Proofs.Publication.Leftovers
import Mathlib.Data.List.Nodup

/- What a publication that succeeds leaves: the files of all assets, and nothing else that is new but
directories. -/
set_option autoImplicit false
set_option relaxedAutoImplicit false

namespace CertGraph

open FileTree (Paves OnWay WellFormed Touches KeepsDirectories goal)

variable {σ ε : Type}

namespace Publication

/-- What a publication comes to that returns: each file stands in the final directory under the path
that is reported, in order, and all other places are as they were, except that directories may be new
on the way. -/
structure Publishes (files : List AssetFile) (outputDir : Path) (tlsDir : String)
    (tree : FileTree) (publication : Publication) (after : FileTree) : Prop where
  directory : publication.outputDir = outputDir.child tlsDir
  written : publication.written = (namesOf files).map (outputDir.child tlsDir).child
  nodup : publication.written.Nodup
  reached : ∀ file ∈ files,
    after.status ((outputDir.child tlsDir).child file.filename) = .ok (.file file.mode file.data)
  stored : ∀ file ∈ files,
    after.at? (goal tree.workingDirectory outputDir ++ [tlsDir] ++ [file.filename]) =
      some (.file file.mode file.data)
  others : ∀ place ∉ placesIn (goal tree.workingDirectory outputDir ++ [tlsDir]) files,
    after.at? place = tree.at? place ∨
      tree.at? place = none ∧ (∃ mode, after.at? place = some (.directory mode)) ∧
        (place = goal tree.workingDirectory outputDir ++ [tlsDir] ∨
          LeftOnWay outputDir tree after place)

/-- Beside the final directory nothing is new, a private directory least of all, unless the path of
the output directory leads up and down again. -/
theorem Publishes.beside {files : List AssetFile} {outputDir : Path} {tlsDir : String}
    {tree after : FileTree} {publication : Publication}
    (publishes : Publishes files outputDir tlsDir tree publication after)
    (down : ".." ∉ outputDir.steps) {name : String} (unlike : name ≠ tlsDir) {place : Place}
    (below : goal tree.workingDirectory outputDir ++ [name] <+: place) :
    after.at? place = tree.at? place := by
  have outside : ¬ goal tree.workingDirectory outputDir ++ [tlsDir] <+: place :=
    fun inTarget => unlike (FileTree.concat_prefix_inj below inTarget)
  have unlisted : place ∉ placesIn (goal tree.workingDirectory outputDir ++ [tlsDir]) files := by
    intro listed
    obtain ⟨file, -, rfl⟩ := mem_placesIn.mp listed
    exact outside (List.prefix_append _ _)
  rcases publishes.others place unlisted with unchanged | ⟨-, -, rfl | onWay⟩
  · exact unchanged
  · exact absurd List.prefix_rfl outside
  · exact absurd below (onWay.not_below down)

/-- All files were staged in the private directory and then moved. -/
structure Delivers (source target : Place) (directory : Path) (files : List AssetFile)
    (base last : FileTree) : Prop where
  directories : ∀ place mode, base.at? place = some (.directory mode) →
    last.at? place = some (.directory mode)
  present : ∃ mode, last.at? target = some (.directory mode)
  stored : ∀ file ∈ files, last.at? (target ++ [file.filename]) = some (.file file.mode file.data)
  targets : ∀ file ∈ files,
    last.Targets (directory.child file.filename) (target ++ [file.filename])
  workingDirectory : last.workingDirectory = base.workingDirectory
  spared : ∀ place, ¬ source <+: place → place ∉ placesIn target files →
    last.at? place = base.at? place ∨ place = target ∧ base.at? place = none

private theorem delivers_of_moves {source target : Place} {directory : Path} {files : List AssetFile}
    {base staged prepared last : FileTree} {existed : Bool}
    (stages : Stages source files base staged)
    (prepares : Prepares directory target existed staged prepared)
    (moves : Moves source target directory files prepared last) :
    Delivers source target directory files base last := by
  have inSource {place : Place} (listed : place ∈ placesIn source files) : source <+: place := by
    obtain ⟨file, -, rfl⟩ := mem_placesIn.mp listed
    exact List.prefix_append _ _
  refine ⟨?_, ?_, moves.moved, moves.targets, ?_, ?_⟩
  · intro place mode known
    refine (moves.same.directory_iff place mode).mpr (prepares.adds.kept place _ ?_)
    exact stages.adds.kept place _ known
  · have ready : ∃ mode, prepared.at? target = some (.directory mode) := by
      rcases prepares with ⟨-, rfl, known⟩ | ⟨-, -, absent, mode, rfl⟩
      · exact known
      · exact ⟨mode, FileTree.at?_after_makeDirectory (FileTree.ne_nil_of_at?_eq_none absent)⟩
    exact ready.imp fun mode => (moves.same.directory_iff target mode).mpr
  · rw [moves.same.workingDirectory, prepares.adds.workingDirectory, stages.adds.workingDirectory]
  · intro place outside unlisted
    have unmoved : last.at? place = prepared.at? place := by
      refine moves.touches.spared ?_
      rintro (listed | listed)
      · exact outside (inSource listed)
      · exact unlisted listed
    have unstaged : staged.at? place = base.at? place := by
      refine stages.touches.spared ?_
      rintro ⟨file, -, rfl⟩
      exact outside (List.prefix_append _ _)
    rw [unmoved]
    rcases prepares with ⟨-, rfl, -⟩ | ⟨-, -, absent, mode, rfl⟩
    · exact .inl unstaged
    · by_cases isTarget : place = target
      · subst isTarget
        exact .inr ⟨rfl, stages.adds.absent absent⟩
      · refine .inl ?_
        rw [FileTree.at?_after (by simpa [Change.places] using isTarget), unstaged]

/-- The path of a file in the final directory leads to it once the private directory is gone. -/
private theorem Opens.locate_final {outputDir staging : Path} {tlsDir : String}
    {tree outer base last after : FileTree} {source : Place} {name : String}
    (opens : Opens outputDir tlsDir tree outer base staging source)
    (component : Path.IsComponent tlsDir) (isComponent : Path.IsComponent name)
    (sameStart : after.workingDirectory = outer.workingDirectory)
    (kept : ∀ place mode, outer.at? place = some (.directory mode) →
      after.at? place = some (.directory mode))
    (present : ∃ mode, after.at? (goal tree.workingDirectory outputDir ++ [tlsDir]) =
      some (.directory mode)) {place : Place}
    (located : last.locate ((outputDir.child tlsDir).child name) = .ok (.place place)) :
    after.locate ((outputDir.child tlsDir).child name) =
      .ok (.place (goal tree.workingDirectory outputDir ++ [tlsDir] ++ [name])) := by
  obtain ⟨staged, stagedComponent, -, rfl, -⟩ := opens.beside
  obtain ⟨-, -, output, outerWalk, -⟩ := (FileTree.locate_child stagedComponent).mp opens.located
  have isOutput : output = goal tree.workingDirectory outputDir := by
    rw [FileTree.walk_eq_follow outerWalk, opens.paves.adds.workingDirectory]
    rfl
  obtain ⟨shortPath, shortName, _, lastWalk, _⟩ := (FileTree.locate_child isComponent).mp located
  obtain ⟨_, _, _, shortDir, _, _⟩ := (FileTree.walk_concat component).mp lastWalk
  have keeps : outer.KeepsDirectories after :=
    ⟨sameStart, fun place mode known => ⟨mode, kept place mode known⟩⟩
  obtain ⟨mode, known⟩ := present
  refine (FileTree.locate_child isComponent).mpr ⟨shortPath, shortName, _, ?_, rfl⟩
  refine (FileTree.walk_concat component).mpr ⟨output, mode, ?_, shortDir, ?_, ?_⟩
  · rw [sameStart]
    exact keeps.walk_ok outerWalk
  · rw [isOutput, known]
  · rw [isOutput]

/-- Outside of the private directory opening it has changed nothing but that there may be new
directories on the way. -/
private theorem Opens.outside {outputDir staging : Path} {tlsDir : String}
    {tree outer base after : FileTree}
    {source : Place} (opens : Opens outputDir tlsDir tree outer base staging source)
    (kept : ∀ place mode, outer.at? place = some (.directory mode) →
      after.at? place = some (.directory mode)) {place : Place} (outside : ¬ source <+: place) :
    base.at? place = tree.at? place ∨
      tree.at? place = none ∧ LeftOnWay outputDir tree after place := by
  have unmade : base.at? place = outer.at? place := by
    obtain ⟨mode, rfl⟩ := opens.made
    rw [FileTree.at?_after]
    rintro made
    obtain rfl := List.mem_singleton.mp made
    exact outside List.prefix_rfl
  rw [unmade]
  by_cases onWay : LeftOnWay outputDir tree after place
  · rcases known : tree.at? place with _ | entry
    · exact .inr ⟨rfl, onWay⟩
    · exact .inl (opens.paves.adds.kept place _ known)
  · exact .inl ((leftOnWay_of_paves opens.paves kept).spared onWay)

/-- The private directory was emptied into the final one and is removed. -/
private theorem Opens.publishes {outputDir staging : Path} {tlsDir : String} {files : List AssetFile}
    {tree outer base last after : FileTree} {source : Place}
    (opens : Opens outputDir tlsDir tree outer base staging source) (wellFormed : tree.WellFormed)
    (component : Path.IsComponent tlsDir)
    (components : ∀ file ∈ files, Path.IsComponent file.filename) (nodup : (namesOf files).Nodup)
    (delivers : Delivers source (goal tree.workingDirectory outputDir ++ [tlsDir])
      (outputDir.child tlsDir) files base last)
    (clears : last.Touches (source <+: ·) after)
    (empty : ∀ place, source <+: place → after.at? place = none)
    (serials : List (String × String)) :
    Publishes files outputDir tlsDir tree
      ⟨outputDir.child tlsDir, (namesOf files).map (outputDir.child tlsDir).child, serials⟩
      after := by
  generalize isTarget : goal tree.workingDirectory outputDir ++ [tlsDir] = target at delivers
  have kept := opens.outer_kept wellFormed delivers.directories clears
  have inFinal {place : Place} (below : target <+: place) : after.at? place = last.at? place :=
    clears.spared fun inSource => opens.not_prefix_both inSource (isTarget ▸ below)
  have stored : ∀ file ∈ files,
      after.at? (target ++ [file.filename]) = some (.file file.mode file.data) := by
    intro file member
    rw [inFinal (List.prefix_append _ _)]
    exact delivers.stored file member
  have present : ∃ mode, after.at? target = some (.directory mode) := by
    rw [inFinal List.prefix_rfl]
    exact delivers.present
  have sameStart : after.workingDirectory = outer.workingDirectory := by
    rw [clears.workingDirectory, delivers.workingDirectory, opens.adds.workingDirectory]
  refine ⟨rfl, rfl, ?_, ?_, isTarget ▸ stored, ?_⟩
  · refine nodup.map fun first second same => ?_
    rw [← Path.name_child (outputDir.child tlsDir) first, same, Path.name_child]
  · intro file member
    have located := opens.locate_final component (components file member) sameStart kept
      (isTarget ▸ present) (delivers.targets file member).1
    have known := stored file member
    simp only [FileTree.status, located, isTarget, bind, Except.bind, known]
  · rw [isTarget]
    intro place unlisted
    -- in the private directory nothing was and nothing is; outside, only directories can be new
    by_cases inSource : source <+: place
    · have absent : outer.at? place = none := by
        rcases known : outer.at? place with _ | entry
        · rfl
        · exact absurd inSource (not_below (opens.paves.wellFormed wellFormed).grounded
            opens.absent known)
      exact .inl ((empty place inSource).trans (opens.paves.adds.absent absent).symm)
    · have inLast := clears.spared inSource
      rcases delivers.spared place inSource unlisted with unchanged | ⟨rfl, absent⟩
      · rcases opens.outside kept inSource with same | ⟨new, onWay⟩
        · exact .inl (inLast.trans (unchanged.trans same))
        · exact .inr ⟨new, onWay.directory, .inr onWay⟩
      · have new := opens.paves.adds.absent (opens.adds.absent absent)
        exact .inr ⟨new, inLast ▸ delivers.present, .inl rfl⟩

/-- A publication that returns, in a tree in which directories are nested, with names that are steps
of a path. -/
theorem write_publishes {parents : Parents ε} {generated : List String} {outputDir : Path}
    {tlsDir : String} {suffixes : List String} {site after : Site σ} {publication : Publication}
    (wellFormed : site.tree.WellFormed) (component : Path.IsComponent tlsDir)
    (plain : ∀ suffix ∈ suffixes, Path.Plain suffix)
    (components : ∀ file ∈ filesOf parents generated, Path.IsComponent file.filename)
    (written : outcome (write parents generated outputDir tlsDir suffixes) site =
      (.ok publication, after)) :
    Publishes (filesOf parents generated) outputDir tlsDir site.tree publication after.tree ∧
      publication.serials = serialsOf parents generated := by
  rcases write_opens parents generated outputDir site component plain with
    ⟨fault, stopped, failed, -⟩ | ⟨outer, base, staging, source, opens, -, closing⟩
  · cases failed.symm.trans written
  · have fails {fault : RunFault} {stopped : Site σ}
        (published : outcome (publish parents generated staging (outputDir.child tlsDir))
          { site with tree := base } = (.error fault, stopped)) : False := by
      obtain ⟨final, removed, -⟩ := Storing.removeTree_spec staging stopped.tree
      cases ((closing _ _ published removed).1 _ rfl).symm.trans written
    cases opens.publish_ends wellFormed component components site.workshop with
    | unstaged fault stopped published => exact (fails published).elim
    | uncommitted nodup fault stopped published => exact (fails published).elim
    | committed nodup staged prepared last existed published stages prepares moves =>
      have delivers := delivers_of_moves stages prepares moves
      obtain ⟨final, removed, clears, empty⟩ :=
        opens.removed delivers.workingDirectory delivers.directories
      obtain ⟨workshop, ended⟩ := (closing _ _ published removed).2 _ _ rfl
      cases ended.symm.trans written
      exact ⟨opens.publishes wellFormed component components nodup delivers clears empty _, rfl⟩

end Publication

end CertGraph
