import CertGraph.FileTree.Basic
import Mathlib.Data.List.Basic
import Mathlib.Data.List.Induction

/- What is at a place after a change, and what paths lead to while directories stay. -/
set_option autoImplicit false
set_option relaxedAutoImplicit false

namespace CertGraph

/-- The places that a change is about. -/
def Change.places : Change → List Place
  | .makeDirectory place _ => [place]
  | .createFile place _ => [place]
  | .setMode place _ => [place]
  | .write place _ => [place]
  | .move source target => [source, target]
  | .remove place => [place]

namespace FileTree

section Entries

variable {entries : List (Place × Entry)} {place other : Place}

private theorem lookup_without_self : (without entries place).lookup place = none := by
  rw [List.lookup_eq_none_iff]
  intro entry member
  have apart : entry.1 ≠ place := by simpa using List.of_mem_filter member
  exact bne_iff_ne.mpr apart.symm

private theorem lookup_without_ne (apart : other ≠ place) :
    (without entries place).lookup other = entries.lookup other := by
  induction entries with
  | nil => rfl
  | cons head entries ih =>
    obtain ⟨key, entry⟩ := head
    by_cases same : key = place
    · rw [without, List.filter_cons_of_neg (by simpa using same), List.lookup_cons,
        beq_false_of_ne (same ▸ apart)]
      exact ih
    · rw [without, List.filter_cons_of_pos (by simpa using same), List.lookup_cons,
        List.lookup_cons]
      split
      · rfl
      · exact ih

private theorem lookup_put_self {entry : Entry} :
    (put entries place entry).lookup place = some entry := by
  simp [put, List.lookup_append, lookup_without_self]

private theorem lookup_put_ne {entry : Entry} (apart : other ≠ place) :
    (put entries place entry).lookup other = entries.lookup other := by
  simp [put, List.lookup_append, lookup_without_ne apart, List.lookup_cons,
    beq_false_of_ne apart]

private theorem change_cons (f : Entry → Entry) (key : Place) (entry : Entry) :
    change ((key, entry) :: entries) place f =
      (key, if key = place then f entry else entry) :: change entries place f := by
  simp only [change, List.map_cons]
  split
  · rename_i same
    rw [same]
  · rfl

private theorem lookup_change_self (f : Entry → Entry) :
    (change entries place f).lookup place = (entries.lookup place).map f := by
  induction entries with
  | nil => rfl
  | cons head entries ih =>
    obtain ⟨key, entry⟩ := head
    rw [change_cons, List.lookup_cons, List.lookup_cons, ih]
    by_cases same : place = key
    · simp [same]
    · simp [beq_false_of_ne same]

private theorem lookup_change_ne (f : Entry → Entry) (apart : other ≠ place) :
    (change entries place f).lookup other = entries.lookup other := by
  induction entries with
  | nil => rfl
  | cons head entries ih =>
    obtain ⟨key, entry⟩ := head
    rw [change_cons, List.lookup_cons, List.lookup_cons, ih]
    by_cases same : other = key
    · simp [same, show key ≠ place from same ▸ apart]
    · simp [beq_false_of_ne same]

/-- A change leaves alone what it is not about. -/
private theorem lookup_applied {change : Change} (untouched : other ∉ change.places) :
    (applied entries change).lookup other = entries.lookup other := by
  cases change with
  | makeDirectory place mode => exact lookup_put_ne (by simpa [Change.places] using untouched)
  | createFile place mode => exact lookup_put_ne (by simpa [Change.places] using untouched)
  | setMode place mode => exact lookup_change_ne _ (by simpa [Change.places] using untouched)
  | write place data => exact lookup_change_ne _ (by simpa [Change.places] using untouched)
  | move source target =>
    obtain ⟨notSource, notTarget⟩ : other ≠ source ∧ other ≠ target := by
      simpa [Change.places] using untouched
    simp only [applied]
    split
    · rfl
    · rw [lookup_put_ne notTarget, lookup_without_ne notSource]
  | remove place => exact lookup_without_ne (by simpa [Change.places] using untouched)

end Entries

section At

variable {tree : FileTree} {place other : Place}

@[simp] theorem at?_nil : tree.at? [] = some (.directory 0o755) := rfl

theorem ne_nil_of_at?_eq_none (absent : tree.at? place = none) : place ≠ [] := by
  rintro rfl
  cases absent

theorem ne_nil_of_at?_eq_file {mode : Nat} {data : Octets}
    (file : tree.at? place = some (.file mode data)) : place ≠ [] := by
  rintro rfl
  cases file

theorem mem_of_at? {entry : Entry} (known : tree.at? place = some entry) (nonroot : place ≠ []) :
    (place, entry) ∈ tree.entries := by
  rw [at?, if_neg nonroot] at known
  obtain ⟨before, after, entries, -⟩ := List.lookup_eq_some_iff.mp known
  simp [entries]

theorem at?_after {change : Change} (untouched : other ∉ change.places) :
    (tree.after change).at? other = tree.at? other := by
  simp only [at?, after, lookup_applied untouched]

theorem at?_after_makeDirectory {mode : Nat} (nonroot : place ≠ []) :
    (tree.after (.makeDirectory place mode)).at? place = some (.directory mode) := by
  simp only [at?, nonroot, if_false, after, applied, lookup_put_self]

theorem at?_after_createFile {mode : Nat} (nonroot : place ≠ []) :
    (tree.after (.createFile place mode)).at? place = some (.file mode []) := by
  simp only [at?, nonroot, if_false, after, applied, lookup_put_self]

theorem at?_after_setMode {mode : Nat} (nonroot : place ≠ []) :
    (tree.after (.setMode place mode)).at? place = (tree.at? place).map (Entry.withMode mode) := by
  simp only [at?, nonroot, if_false, after, applied, lookup_change_self]

theorem at?_after_write {data : Octets} (nonroot : place ≠ []) :
    (tree.after (.write place data)).at? place = (tree.at? place).map (Entry.withData data) := by
  simp only [at?, nonroot, if_false, after, applied, lookup_change_self]

theorem at?_after_remove (nonroot : place ≠ []) :
    (tree.after (.remove place)).at? place = none := by
  simp only [at?, nonroot, if_false, after, applied, lookup_without_self]

theorem at?_after_move {source target : Place} {mode : Nat} {data : Octets}
    (moved : tree.at? source = some (.file mode data)) (nonroot : target ≠ []) :
    (tree.after (.move source target)).at? target = some (.file mode data) := by
  have inEntries : tree.entries.lookup source = some (.file mode data) := by
    simpa [at?, ne_nil_of_at?_eq_file moved] using moved
  simp only [at?, nonroot, if_false, after, applied, inEntries, lookup_put_self]

theorem at?_after_move_source {source target : Place} {mode : Nat} {data : Octets}
    (moved : tree.at? source = some (.file mode data)) (apart : source ≠ target) :
    (tree.after (.move source target)).at? source = none := by
  have nonroot := ne_nil_of_at?_eq_file moved
  have inEntries : tree.entries.lookup source = some (.file mode data) := by
    simpa [at?, nonroot] using moved
  simp only [at?, nonroot, if_false, after, applied, inEntries, lookup_put_ne apart,
    lookup_without_self]

end At

/-! ### Where paths lead -/

/-- Where steps lead from a place if all of them lead anywhere. -/
def follow (here : Place) : List String → Place
  | [] => here
  | step :: rest => if step = ".." then follow here.dropLast rest else follow (here ++ [step]) rest

/-- What a path names, if it names anything. -/
def spot (workingDirectory : Place) (path : Path) : Named :=
  let start := if path.slashes = 0 then workingDirectory else []
  match path.steps.getLast? with
  | none => .directory start
  | some last =>
    let directory := follow start path.steps.dropLast
    if last = ".." then .directory directory.dropLast else .place (directory ++ [last])

theorem walk_eq_follow {tree : FileTree} {here place : Place} {steps : List String}
    (leads : tree.walk here steps = .ok place) : place = follow here steps := by
  induction steps generalizing here with
  | nil =>
    cases leads
    rfl
  | cons step rest ih =>
    simp only [walk] at leads
    simp only [follow]
    split at leads
    · rename_i up
      rw [if_pos up]
      exact ih leads
    · rename_i notUp
      rw [if_neg notUp]
      split at leads
      · cases leads
      · split at leads
        · cases leads
        · cases leads
        · exact ih leads

theorem locate_eq_spot {tree : FileTree} {path : Path} {named : Named}
    (leads : tree.locate path = .ok named) : named = spot tree.workingDirectory path := by
  unfold locate at leads
  unfold spot
  dsimp only at leads ⊢
  split at leads
  · cases leads
  · cases ended : path.steps.getLast? with
    | none =>
      rw [ended] at leads
      cases leads
      rfl
    | some last =>
      rw [ended] at leads
      cases walked : tree.walk (if path.slashes = 0 then tree.workingDirectory else [])
        path.steps.dropLast with
      | error refusal =>
        rw [walked] at leads
        cases leads
      | ok directory =>
        rw [walked] at leads
        simp only [bind, Except.bind] at leads
        dsimp only
        rw [← walk_eq_follow walked]
        split at leads
        · rename_i up
          rw [if_pos up]
          cases leads
          rfl
        · rename_i notUp
          rw [if_neg notUp]
          split at leads
          · cases leads
          · cases leads
            rfl

/-- Directories of one tree stay directories in another, and the working directory stays too. -/
structure KeepsDirectories (tree other : FileTree) : Prop where
  workingDirectory : other.workingDirectory = tree.workingDirectory
  directories : ∀ place mode, tree.at? place = some (.directory mode) →
    ∃ newMode, other.at? place = some (.directory newMode)

namespace KeepsDirectories

variable {tree other : FileTree}

theorem walk_ok (keeps : tree.KeepsDirectories other) {here place : Place} {steps : List String}
    (leads : tree.walk here steps = .ok place) : other.walk here steps = .ok place := by
  induction steps generalizing here with
  | nil => exact leads
  | cons step rest ih =>
    simp only [walk] at leads ⊢
    split at leads
    · rename_i up
      rw [if_pos up]
      exact ih leads
    · rename_i notUp
      rw [if_neg notUp]
      split at leads
      · cases leads
      · rename_i short
        rw [if_neg short]
        split at leads
        · cases leads
        · cases leads
        · rename_i mode known
          obtain ⟨newMode, kept⟩ := keeps.directories _ mode known
          rw [kept]
          exact ih leads

theorem locate_ok (keeps : tree.KeepsDirectories other) {path : Path} {named : Named}
    (leads : tree.locate path = .ok named) : other.locate path = .ok named := by
  simp only [locate, keeps.workingDirectory] at leads ⊢
  split at leads
  · cases leads
  · rename_i short
    rw [if_neg short]
    split at leads
    · exact leads
    · cases walked : tree.walk (if path.slashes = 0 then tree.workingDirectory else [])
        path.steps.dropLast with
      | error refusal =>
        rw [walked] at leads
        cases leads
      | ok directory =>
        rw [walked] at leads
        rw [keeps.walk_ok walked]
        exact leads

end KeepsDirectories

/-- Whatever is in a tree is in a directory of that tree. -/
def Grounded (tree : FileTree) : Prop :=
  ∀ place entry, tree.at? place = some entry →
    ∃ mode, tree.at? place.dropLast = some (.directory mode)

theorem grounded_of_entries {tree : FileTree}
    (each : ∀ entry ∈ tree.entries,
      (tree.at? entry.1.dropLast).map Entry.isDirectory = some true) : tree.Grounded := by
  intro place entry known
  by_cases root : place = []
  · subst root
    exact ⟨_, at?_nil⟩
  · have above := each (place, entry) (mem_of_at? known root)
    rcases parent : tree.at? place.dropLast with _ | ⟨mode⟩ | ⟨mode, data⟩
    · simp [parent] at above
    · exact ⟨mode, rfl⟩
    · simp [parent, Entry.isDirectory] at above

/-- In a grounded tree all that leads to something is a directory. -/
theorem Grounded.prefix_directory {tree : FileTree} (grounded : tree.Grounded) {place above : Place}
    {entry : Entry} (known : tree.at? place = some entry) (leads : above <+: place)
    (apart : above ≠ place) : ∃ mode, tree.at? above = some (.directory mode) := by
  obtain ⟨rest, rfl⟩ := leads
  induction rest using List.reverseRecOn generalizing entry with
  | nil => exact absurd (List.append_nil above).symm apart
  | append_singleton rest last ih =>
    obtain ⟨mode, parent⟩ := grounded _ entry known
    rw [← List.append_assoc, List.dropLast_concat] at parent
    by_cases nothing : rest = []
    · subst nothing
      exact ⟨mode, by simpa using parent⟩
    · exact ih parent (by simpa using nothing)

end FileTree

end CertGraph
