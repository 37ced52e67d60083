import CertGraph.Proofs.FileTree.Midst
import CertGraph.Proofs.Publication.Moved

/- What may stand in a tree in the midst of a publication, and the changes that keep to that. -/
set_option autoImplicit false
set_option relaxedAutoImplicit false

namespace CertGraph

open FileTree (Adds Passes OnWay goal)

private theorem Storing.Preserves.attempt {α : Type} {safe : FileTree → Prop} {step : Storing α}
    (preserves : Preserves safe step) : Preserves safe (attempt step) := by
  intro tree first
  rw [outcome_attempt]
  exact preserves tree first

namespace FileTree

/-- What is not asked for is not granted. -/
theorem granted_and_eq_zero (tree : FileTree) {mode bits : Nat} (unasked : mode &&& bits = 0) :
    tree.granted mode &&& bits = 0 := by
  rw [granted, Nat.and_assoc, Nat.and_comm _ bits, ← Nat.and_assoc, unasked, Nat.zero_and]

end FileTree

namespace Publication

/-- Where a publication takes place: the tree before it, the path of the output directory, and the
places of the final directory and of the private one. -/
structure Venue where
  first : FileTree
  outputDir : Path
  final : Place
  staging : Place

/-- What there is of a file while it is staged, permissions and contents: nothing of its contents before
its permissions are final. -/
inductive Draft (first : FileTree) (file : AssetFile) : Nat → Octets → Prop where
  | created : Draft first file (first.granted file.mode) []
  | begun {part : Octets} (leads : part <+: file.data) : Draft first file file.mode part

namespace Venue

/-- The permissions of the private directory. -/
def privately (venue : Venue) : Entry :=
  .directory (venue.first.granted 0o700)

/-- What may stand at a place in the midst of a publication: what was there before, a new directory on
the way, a file that is being staged in the private directory, or a whole file in the final one. -/
inductive Stands (venue : Venue) (files : List AssetFile) (state : FileTree) (place : Place) :
    Entry → Prop where
  | kept {entry : Entry} (known : venue.first.at? place = some entry) :
      Stands venue files state place entry
  | made {mode : Nat} (new : venue.first.at? place = none)
      (way : place = venue.final ∨ place = venue.staging ∨
        OnWay venue.first.workingDirectory venue.outputDir place) :
      Stands venue files state place (.directory mode)
  | staged {file : AssetFile} {mode : Nat} {data : Octets} (member : file ∈ files)
      (here : place = venue.staging ++ [file.filename])
      (inside : state.at? venue.staging = some venue.privately)
      (draft : Draft venue.first file mode data) : Stands venue files state place (.file mode data)
  | placed {file : AssetFile} (member : file ∈ files)
      (here : place = venue.final ++ [file.filename]) :
      Stands venue files state place (.file file.mode file.data)

/-- A tree in the midst of a publication of some files. -/
structure Midway (venue : Venue) (files : List AssetFile) (state : FileTree) : Prop where
  workingDirectory : state.workingDirectory = venue.first.workingDirectory
  umask : state.umask = venue.first.umask
  stands : ∀ place entry, state.at? place = some entry → venue.Stands files state place entry

namespace Midway

variable {venue : Venue} {files more : List AssetFile} {file : AssetFile} {state : FileTree}

theorem start (venue : Venue) (files : List AssetFile) : venue.Midway files venue.first :=
  ⟨rfl, rfl, fun _ _ => .kept⟩

theorem mono (midway : venue.Midway files state) (within : ∀ file ∈ files, file ∈ more) :
    venue.Midway more state := by
  refine ⟨midway.workingDirectory, midway.umask, fun place entry known => ?_⟩
  cases midway.stands place entry known with
  | kept old => exact .kept old
  | made new way => exact .made new way
  | staged member here inside draft => exact .staged (within _ member) here inside draft
  | placed member here => exact .placed (within _ member) here

/-- A change keeps to what may stand if that holds where it is made, and if it spares the private
directory as long as there is anything in it. -/
theorem step {change : Change} (midway : venue.Midway files state)
    (made : ∀ place ∈ change.places, ∀ entry, (state.after change).at? place = some entry →
      venue.Stands files (state.after change) place entry)
    (spares : venue.staging ∈ change.places → state.at? venue.staging = some venue.privately →
      ∀ file ∈ files, state.at? (venue.staging ++ [file.filename]) = none) :
    venue.Midway files (state.after change) := by
  refine ⟨midway.workingDirectory, midway.umask, fun place entry known => ?_⟩
  by_cases changed : place ∈ change.places
  · exact made place changed entry known
  · rw [FileTree.at?_after changed] at known
    cases midway.stands place entry known with
    | kept old => exact .kept old
    | made new way => exact .made new way
    | placed member here => exact .placed member here
    | staged member here inside draft =>
      have untouched : venue.staging ∉ change.places := by
        intro touched
        rw [here] at known
        cases (spares touched inside _ member).symm.trans known
      exact .staged member here ((FileTree.at?_after untouched).trans inside) draft

theorem makeDirectory {place : Place} {mode : Nat} (midway : venue.Midway files state)
    (absent : state.at? place = none) (new : venue.first.at? place = none)
    (way : place = venue.final ∨ place = venue.staging ∨
      OnWay venue.first.workingDirectory venue.outputDir place) :
    venue.Midway files (state.after (.makeDirectory place mode)) := by
  refine midway.step ?_ ?_
  · intro other isPlace entry known
    obtain rfl := List.mem_singleton.mp isPlace
    cases (FileTree.at?_after_makeDirectory
      (FileTree.ne_nil_of_at?_eq_none absent)).symm.trans known
    exact .made new way
  · intro touched inside
    obtain rfl := List.mem_singleton.mp touched
    cases absent.symm.trans inside

/-- A place is removed that is not the private directory, or nothing is left in that. -/
private theorem remove {place : Place} (midway : venue.Midway files state) (nonroot : place ≠ [])
    (spares : venue.staging = place → state.at? venue.staging = some venue.privately →
      ∀ file ∈ files, state.at? (venue.staging ++ [file.filename]) = none) :
    venue.Midway files (state.after (.remove place)) := by
  refine midway.step ?_ fun touched => spares (List.mem_singleton.mp touched)
  intro other isPlace entry known
  obtain rfl := List.mem_singleton.mp isPlace
  cases (FileTree.at?_after_remove nonroot).symm.trans known

/-- A whole file is moved to its place in the final directory. -/
private theorem move (midway : venue.Midway files state) (member : file ∈ files)
    (known : state.at? (venue.staging ++ [file.filename]) = some (.file file.mode file.data))
    (apart : venue.staging ++ [file.filename] ≠ venue.final ++ [file.filename])
    (free : ∀ mode, state.at? (venue.final ++ [file.filename]) ≠ some (.directory mode)) :
    venue.Midway files (state.after
      (.move (venue.staging ++ [file.filename]) (venue.final ++ [file.filename]))) := by
  refine midway.step ?_ ?_
  · intro place touched entry there
    rcases List.mem_pair.mp touched with rfl | rfl
    · cases (FileTree.at?_after_move_source known apart).symm.trans there
    · cases (FileTree.at?_after_move known (List.concat_ne_nil _ _)).symm.trans there
      exact .placed member rfl
  · intro touched inside
    rcases List.mem_pair.mp touched with same | same
    · simp at same
    · rw [same] at inside
      exact absurd inside (free _)

end Midway

/-- All files that stand in the private directory are whole. -/
structure Ready (venue : Venue) (files : List AssetFile) (state : FileTree) : Prop where
  midway : venue.Midway files state
  inside : state.at? venue.staging = some venue.privately
  whole : ∀ name mode data, state.at? (venue.staging ++ [name]) = some (.file mode data) →
    ∃ file ∈ files, name = file.filename ∧ mode = file.mode ∧ data = file.data

namespace Ready

variable {venue : Venue} {files : List AssetFile} {file : AssetFile} {state : FileTree}

theorem makeDirectory {place : Place} {mode : Nat} (ready : venue.Ready files state)
    (absent : state.at? place = none) (new : venue.first.at? place = none)
    (way : place = venue.final ∨ place = venue.staging ∨
      OnWay venue.first.workingDirectory venue.outputDir place) :
    venue.Ready files (state.after (.makeDirectory place mode)) := by
  refine ⟨ready.midway.makeDirectory absent new way, ?_, fun name mode data there => ?_⟩
  · exact (Adds.makeDirectory absent).kept _ _ ready.inside
  · by_cases same : venue.staging ++ [name] = place
    · rw [same, FileTree.at?_after_makeDirectory (FileTree.ne_nil_of_at?_eq_none absent)] at there
      cases there
    · rw [FileTree.at?_after (by simpa [Change.places] using same)] at there
      exact ready.whole name mode data there

end Ready

end Venue

end Publication

end CertGraph
