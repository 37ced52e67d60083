import CertGraph.Proofs.FileTree.Clearing
import CertGraph.Proofs.Publication.RollBack
import CertGraph.Proofs.Publication.Staged

/- What committing comes to when file names are steps of a path: staged files stand in the final
directory, or those that were moved are gone again. -/
set_option autoImplicit false
set_option relaxedAutoImplicit false

namespace CertGraph

open FileTree (Adds Targets SameDirectories KeepsDirectories Touches spot goal)

variable {σ : Type}

namespace FileTree

theorem concat_inj {first second : Place} {name other : String}
    (same : first ++ [name] = second ++ [other]) : first = second ∧ name = other := by
  obtain ⟨places, names⟩ := List.append_inj' same rfl
  exact ⟨places, List.singleton_inj.mp names⟩

theorem concat_prefix_inj {here place : Place} {name other : String}
    (first : here ++ [name] <+: place) (second : here ++ [other] <+: place) : name = other := by
  have sameLength : (here ++ [name]).length = (here ++ [other]).length := by simp
  have leads := List.prefix_of_prefix_length_le first second (Nat.le_of_eq sameLength)
  exact (concat_inj (leads.eq_of_length sameLength)).2

end FileTree

namespace Publication

/-- The places of some files in a directory. -/
def placesIn (directory : Place) (files : List AssetFile) : List Place :=
  (namesOf files).map fun name => directory ++ [name]

theorem mem_placesIn {directory place : Place} {files : List AssetFile} :
    place ∈ placesIn directory files ↔ ∃ file ∈ files, place = directory ++ [file.filename] := by
  simp [placesIn, namesOf, eq_comm]

theorem finalPath_child (directory path : Path) (name : String) :
    finalPath directory (path.child name) = directory.child name := by
  rw [finalPath, Path.name_child]
  rfl

/-- A tree after some files were moved from one directory to another. -/
structure Moves (source target : Place) (directory : Path) (files : List AssetFile)
    (tree after : FileTree) : Prop where
  same : tree.SameDirectories after
  touches : tree.Touches
    (fun place => place ∈ placesIn source files ∨ place ∈ placesIn target files) after
  left : ∀ file ∈ files, after.at? (source ++ [file.filename]) = none
  moved : ∀ file ∈ files, after.at? (target ++ [file.filename]) = some (.file file.mode file.data)
  targets : ∀ file ∈ files,
    after.Targets (directory.child file.filename) (target ++ [file.filename])

namespace Moves

variable {source target : Place} {directory : Path} {file : AssetFile} {files : List AssetFile}
  {tree after : FileTree}

private theorem nil (source target : Place) (directory : Path) (tree : FileTree) :
    Moves source target directory [] tree tree :=
  ⟨.refl tree, .refl tree, nofun, nofun, nofun⟩

private theorem cons (apart : source ≠ target) (unlike : file.filename ∉ namesOf files)
    (known : tree.at? (source ++ [file.filename]) = some (.file file.mode file.data))
    (leads : tree.Targets (directory.child file.filename) (target ++ [file.filename]))
    (rest : Moves source target directory files
      (tree.after (.move (source ++ [file.filename]) (target ++ [file.filename]))) after) :
    Moves source target directory (file :: files) tree after := by
  have otherPlace : source ++ [file.filename] ≠ target ++ [file.filename] := fun same =>
    apart (FileTree.concat_inj same).1
  have first : tree.SameDirectories
      (tree.after (.move (source ++ [file.filename]) (target ++ [file.filename]))) :=
    .move known otherPlace leads.2
  have outside (here : Place) (either : here = source ∨ here = target) :
      ¬ (here ++ [file.filename] ∈ placesIn source files ∨
        here ++ [file.filename] ∈ placesIn target files) := by
    rintro (listed | listed) <;>
      obtain ⟨other, member, same⟩ := mem_placesIn.mp listed <;>
      exact unlike (List.mem_map.mpr ⟨other, member, (FileTree.concat_inj same).2.symm⟩)
  have movedFirst : after.at? (target ++ [file.filename]) =
      some (.file file.mode file.data) := by
    rw [rest.touches.spared (outside target (.inr rfl))]
    exact FileTree.at?_after_move known (List.concat_ne_nil _ _)
  refine ⟨first.trans rest.same, ?_, ?_, ?_, ?_⟩
  · have moves : tree.Touches (fun place =>
        place ∈ placesIn source (file :: files) ∨ place ∈ placesIn target (file :: files))
        (tree.after (.move (source ++ [file.filename]) (target ++ [file.filename]))) := by
      refine .single fun place member => ?_
      have either : place = source ++ [file.filename] ∨ place = target ++ [file.filename] := by
        simpa [Change.places] using member
      exact either.imp (fun here => mem_placesIn.mpr ⟨file, List.mem_cons_self, here⟩)
        fun here => mem_placesIn.mpr ⟨file, List.mem_cons_self, here⟩
    exact moves.trans (rest.touches.mono fun place =>
      Or.imp (List.mem_cons_of_mem _) (List.mem_cons_of_mem _))
  · intro other member
    rcases List.mem_cons.mp member with rfl | member
    · rw [rest.touches.spared (outside source (.inl rfl))]
      exact FileTree.at?_after_move_source known otherPlace
    · exact rest.left other member
  · intro other member
    rcases List.mem_cons.mp member with rfl | member
    · exact movedFirst
    · exact rest.moved other member
  · intro other member
    rcases List.mem_cons.mp member with rfl | member
    · exact (leads.of_same first).of_same rest.same
    · exact rest.targets other member

end Moves

/-- A staged file is moved to its place in the final directory, or nothing changes. -/
private theorem moveFile_child {staging directory : Path} {source target : Place} {name : String}
    {tree : FileTree} (leadsSource : goal tree.workingDirectory staging = source)
    (leadsTarget : goal tree.workingDirectory directory = target) (apart : source ≠ target)
    (component : Path.IsComponent name) :
    (outcome (Storing.moveFile (staging.child name) (directory.child name)) tree =
        (.ok (), tree.after (.move (source ++ [name]) (target ++ [name]))) ∧
      tree.Targets (directory.child name) (target ++ [name])) ∨
    ∃ fault, outcome (Storing.moveFile (staging.child name) (directory.child name)) tree =
        (.error fault, tree) ∧
      (fault = .zeroCharacter → ¬ ((staging.child name).Clean ∧ (directory.child name).Clean)) := by
  rcases Storing.moveFile_cases (staging.child name) (directory.child name) tree with
    ⟨start, mode, data, -, located, ways⟩ | failed
  · have fromSource := FileTree.locate_eq_spot located
    rw [FileTree.spot_child _ _ component, leadsSource] at fromSource
    cases fromSource
    have toTarget {place : Place} (targets : tree.Targets (directory.child name) place) :
        place = target ++ [name] := by
      have leads := FileTree.locate_eq_spot targets.1
      rw [FileTree.spot_child _ _ component, leadsTarget] at leads
      cases leads
      rfl
    rcases ways with ⟨-, targets⟩ | ⟨place, moves, -, targets⟩
    · exact absurd (FileTree.concat_inj (toTarget targets)).1 apart
    · obtain rfl := toTarget targets
      exact .inl ⟨moves, targets⟩
  · exact .inr failed

/-- Moving one staged file leaves the others where they were staged. -/
private theorem staged_after_move {source target : Place} {file : AssetFile} {files : List AssetFile}
    {tree : FileTree} (apart : source ≠ target) (unlike : file.filename ∉ namesOf files)
    (staged : ∀ other ∈ files,
      tree.at? (source ++ [other.filename]) = some (.file other.mode other.data)) :
    ∀ other ∈ files,
      (tree.after (.move (source ++ [file.filename]) (target ++ [file.filename]))).at?
        (source ++ [other.filename]) = some (.file other.mode other.data) := by
  intro other member
  rw [FileTree.at?_after, staged other member]
  simp only [Change.places, List.mem_cons, List.not_mem_nil, or_false, not_or]
  constructor
  · intro same
    exact unlike (List.mem_map.mpr ⟨other, member, (FileTree.concat_inj same).2⟩)
  · exact fun same => apart (FileTree.concat_inj same).1

/-- Staged files are moved one after another until one cannot be moved. -/
theorem moveAll_moves {staging directory : Path} {source target : Place} {files : List AssetFile}
    {tree : FileTree} (leadsSource : goal tree.workingDirectory staging = source)
    (leadsTarget : goal tree.workingDirectory directory = target) (apart : source ≠ target)
    (components : ∀ file ∈ files, Path.IsComponent file.filename)
    (nodup : (namesOf files).Nodup) (cleanDirectory : directory.Clean)
    (clean : ∀ file ∈ files, (staging.child file.filename).Clean)
    (staged : ∀ file ∈ files,
      tree.at? (source ++ [file.filename]) = some (.file file.mode file.data)) :
    ∃ done rest fault? after, files = done ++ rest ∧
      outcome (moveAll directory ((namesOf files).map staging.child)) tree =
        (.ok ((namesOf done).map directory.child, fault?), after) ∧
      Moves source target directory done tree after ∧
      ((rest = [] ∧ fault? = none) ∨ ∃ fault, fault? = some fault ∧ fault ≠ .zeroCharacter) := by
  induction files generalizing tree with
  | nil =>
    exact ⟨[], [], none, tree, rfl, rfl, .nil source target directory tree, .inl ⟨rfl, rfl⟩⟩
  | cons file files ih =>
    have component := components file List.mem_cons_self
    obtain ⟨unlike, nodupRest⟩ := List.nodup_cons.mp nodup
    have final := finalPath_child directory staging file.filename
    rcases moveFile_child leadsSource leadsTarget apart component with
      ⟨moves, targets⟩ | ⟨fault, failed, zero⟩
    · have stagedRest := staged_after_move apart unlike fun other member =>
        staged other (.tail _ member)
      -- the working directory is the same after the move, so both paths lead where they led
      obtain ⟨done, rest, fault?, after, rfl, ran, rests, ended⟩ := @ih
        (tree.after (.move (source ++ [file.filename]) (target ++ [file.filename])))
        leadsSource leadsTarget (fun other member => components other (.tail _ member)) nodupRest
        (fun other member => clean other (.tail _ member)) stagedRest
      have unlikeDone : file.filename ∉ namesOf done := by
        intro listed
        refine unlike ?_
        rw [List.map_append]
        exact List.mem_append_left _ listed
      refine ⟨file :: done, rest, fault?, after, rfl, ?_,
        rests.cons apart unlikeDone (staged file List.mem_cons_self) targets, ended⟩
      simp only [namesOf, List.map_cons, moveAll, outcome_bind, Storing.outcome_attempt, final,
        moves] at ran ⊢
      rw [ran]
      rfl
    · refine ⟨[], file :: files, some fault, tree, rfl, ?_, .nil source target directory tree,
        .inr ⟨fault, rfl, fun isZero => zero isZero ⟨clean file List.mem_cons_self,
          Path.clean_child cleanDirectory component⟩⟩⟩
      simp only [namesOf, List.map_cons, moveAll, outcome_bind, Storing.outcome_attempt, final,
        failed]
      rfl

end Publication

end CertGraph
