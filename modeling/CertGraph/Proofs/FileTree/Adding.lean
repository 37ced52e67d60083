import CertGraph.FileTree.Operations
import CertGraph.Proofs.FileTree.Entries
import CertGraph.Proofs.Outcome

/- Steps that only add to a tree: making directories and writing new files. -/
set_option autoImplicit false
set_option relaxedAutoImplicit false

namespace CertGraph

/-- A path without a zero character in its text. -/
def Path.Clean (path : Path) : Prop :=
  '\x00' ∉ path.text.toList

instance (path : Path) : Decidable path.Clean :=
  inferInstanceAs (Decidable (_ ∉ _))

namespace FileTree

/-- A tree after steps that only add to it: what was there is there still, and nothing was moved. -/
structure Adds (tree after : FileTree) : Prop where
  workingDirectory : after.workingDirectory = tree.workingDirectory
  kept : ∀ place entry, tree.at? place = some entry → after.at? place = some entry
  history : ∃ changes, after.history = tree.history ++ changes ∧
    ∀ source target, Change.move source target ∉ changes

namespace Adds

theorem refl (tree : FileTree) : tree.Adds tree :=
  ⟨rfl, fun _ _ known => known, [], by simp, fun _ _ => List.not_mem_nil⟩

theorem trans {first second third : FileTree} (earlier : first.Adds second)
    (later : second.Adds third) : first.Adds third := by
  obtain ⟨before, history, still⟩ := earlier.history
  obtain ⟨more, history', still'⟩ := later.history
  refine ⟨later.workingDirectory.trans earlier.workingDirectory,
    fun place entry known => later.kept place entry (earlier.kept place entry known),
    before ++ more, by rw [history', history, List.append_assoc], ?_⟩
  intro source target member
  rcases List.mem_append.mp member with old | new
  · exact still source target old
  · exact still' source target new

theorem absent {tree after : FileTree} (adds : tree.Adds after) {place : Place}
    (absent : after.at? place = none) : tree.at? place = none := by
  cases known : tree.at? place with
  | none => rfl
  | some entry => cases absent.symm.trans (adds.kept place entry known)

/-- A new directory. -/
theorem makeDirectory {tree : FileTree} {place : Place} {mode : Nat}
    (absent : tree.at? place = none) : tree.Adds (tree.after (.makeDirectory place mode)) := by
  refine ⟨rfl, ?_, [_], rfl, by simp⟩
  intro other entry known
  have apart : other ≠ place := by
    rintro rfl
    cases absent.symm.trans known
  rw [at?_after (by simpa [Change.places] using apart), known]

end Adds

/-- The tree with a new file. -/
def withFile (tree : FileTree) (place : Place) (mode : Nat) (data : Octets) : FileTree :=
  ((tree.after (.createFile place (tree.granted mode))).after (.setMode place mode)).after
    (.write place data)

theorem at?_withFile {tree : FileTree} {place : Place} {mode : Nat} {data : Octets}
    (nonroot : place ≠ []) : (tree.withFile place mode data).at? place = some (.file mode data) := by
  rw [withFile, at?_after_write nonroot, at?_after_setMode nonroot,
    at?_after_createFile nonroot]
  rfl

theorem at?_withFile_ne {tree : FileTree} {place other : Place} {mode : Nat} {data : Octets}
    (apart : other ≠ place) : (tree.withFile place mode data).at? other = tree.at? other := by
  have untouched : other ∉ [place] := by simpa using apart
  rw [withFile, at?_after untouched, at?_after untouched, at?_after untouched]

theorem Adds.withFile {tree : FileTree} {place : Place} {mode : Nat} {data : Octets}
    (absent : tree.at? place = none) : tree.Adds (tree.withFile place mode data) := by
  refine ⟨rfl, ?_, [.createFile place (tree.granted mode), .setMode place mode, .write place data],
    by simp [FileTree.withFile, after], by simp⟩
  intro other entry known
  have apart : other ≠ place := by
    rintro rfl
    cases absent.symm.trans known
  rw [at?_withFile_ne apart, known]

end FileTree

namespace Storing

open FileTree (Adds)

variable {tree : FileTree} {path : Path}

theorem outcome_checked (path : Path) (tree : FileTree) :
    outcome (checked path) tree =
      if path.Clean then (.ok (), tree) else (.error .zeroCharacter, tree) := by
  unfold checked Path.Clean
  by_cases zero : '\x00' ∈ path.text.toList
  · simp only [zero, if_true, not_true_eq_false, if_false]
    rfl
  · simp only [zero, if_false, not_false_eq_true, if_true]
    rfl

theorem outcome_looking {α : Type} (shown : String)
    (look : FileTree → Except FileTree.Refusal α) (tree : FileTree) :
    outcome (looking shown look) tree =
      ((look tree).mapError fun refusal => .refused refusal shown none, tree) := by
  simp only [looking, outcome_bind, outcome_get]
  cases look tree <;> rfl

/-- A new place is one that a path names, where nothing is; looking for it changes nothing. -/
theorem newPlace_cases (shown : String) (path : Path) (tree : FileTree) :
    (∃ place, outcome (newPlace shown path) tree = (.ok place, tree) ∧ path.Clean ∧
      tree.locate path = .ok (.place place) ∧ tree.at? place = none) ∨
      ∃ fault, outcome (newPlace shown path) tree = (.error fault, tree) := by
  simp only [newPlace, outcome_bind, outcome_checked, outcome_looking]
  by_cases clean : path.Clean
  · simp only [clean, if_true]
    cases located : tree.locate path with
    | error refusal => exact .inr ⟨_, rfl⟩
    | ok named =>
      cases named with
      | directory place => exact .inr ⟨_, rfl⟩
      | place place =>
        simp only [Except.mapError, outcome_bind, outcome_get]
        cases known : tree.at? place with
        | none => exact .inl ⟨place, rfl, trivial, rfl, known⟩
        | some entry => exact .inr ⟨_, rfl⟩
  · simp only [clean, if_false]
    exact .inr ⟨_, rfl⟩

/-- Making a directory makes one at a new place, or changes nothing. -/
theorem makeDirectoryAs_cases (shown : String) (path : Path) (mode : Nat) (tree : FileTree) :
    (∃ place, outcome (makeDirectoryAs shown path mode) tree =
      (.ok (), tree.after (.makeDirectory place (tree.granted mode))) ∧
      tree.locate path = .ok (.place place) ∧ tree.at? place = none) ∨
      ∃ fault, outcome (makeDirectoryAs shown path mode) tree = (.error fault, tree) := by
  simp only [makeDirectoryAs, outcome_bind]
  rcases newPlace_cases shown path tree with ⟨place, found, -, located, absent⟩ | ⟨fault, failed⟩
  · rw [found]
    exact .inl ⟨place, rfl, located, absent⟩
  · rw [failed]
    exact .inr ⟨fault, rfl⟩

/-- Writing a new file writes one at a new place, or changes nothing. -/
theorem createFile_cases (path : Path) (data : Octets) {mode : Nat} (bits : mode < 0o10000)
    (tree : FileTree) :
    (∃ place, outcome (createFile path data mode) tree = (.ok (), tree.withFile place mode data) ∧
      path.Clean ∧ tree.locate path = .ok (.place place) ∧ tree.at? place = none) ∨
      ∃ fault, outcome (createFile path data mode) tree = (.error fault, tree) := by
  have kept : mode &&& FileTree.permissionBits = mode :=
    Nat.and_two_pow_sub_one_of_lt_two_pow (n := 12) bits
  simp only [createFile, outcome_bind, kept]
  rcases newPlace_cases path.text path tree with ⟨place, found, clean, located, absent⟩ |
    ⟨fault, failed⟩
  · rw [found]
    exact .inl ⟨place, rfl, clean, located, absent⟩
  · rw [failed]
    exact .inr ⟨fault, rfl⟩

private theorem present?_cases (path : Path) (tree : FileTree) :
    (∃ status?, outcome (present? path) tree = (.ok status?, tree) ∧ path.Clean) ∨
      ∃ fault, outcome (present? path) tree = (.error fault, tree) := by
  simp only [present?, outcome_bind, outcome_checked]
  by_cases clean : path.Clean
  · simp only [clean, if_true, outcome_get]
    rcases tree.status path with refusal | entry
    · cases refusal with
      | missing => exact .inl ⟨_, rfl, trivial⟩
      | notADirectory => exact .inl ⟨_, rfl, trivial⟩
      | «exists» => exact .inr ⟨_, rfl⟩
      | isADirectory => exact .inr ⟨_, rfl⟩
      | nameTooLong => exact .inr ⟨_, rfl⟩
    · exact .inl ⟨_, rfl, trivial⟩
  · simp only [clean, if_false]
    exact .inr ⟨_, rfl⟩

theorem unlessDirectory_cases (refusal : FileTree.Refusal) (path : Path) (tree : FileTree) :
    (∃ mode, outcome (unlessDirectory refusal path) tree = (.ok (), tree) ∧
      outcome (present? path) tree = (.ok (some (.directory mode)), tree)) ∨
      ∃ fault, outcome (unlessDirectory refusal path) tree = (.error fault, tree) := by
  simp only [unlessDirectory, outcome_bind]
  rcases present?_cases path tree with ⟨status?, found, -⟩ | ⟨fault, failed⟩
  · rw [found]
    rcases status? with _ | ⟨mode⟩ | ⟨mode, data⟩
    · exact .inr ⟨_, rfl⟩
    · exact .inl ⟨mode, rfl, rfl⟩
    · exact .inr ⟨_, rfl⟩
  · rw [failed]
    exact .inr ⟨fault, rfl⟩

/-- A directory is made at a new place, or is there already, or nothing changes. -/
theorem ensureDirectory_cases (path : Path) (tree : FileTree) :
    (∃ place mode, outcome (ensureDirectory path) tree =
      (.ok (), tree.after (.makeDirectory place mode)) ∧
      tree.locate path = .ok (.place place) ∧ tree.at? place = none) ∨
    (∃ mode, outcome (ensureDirectory path) tree = (.ok (), tree) ∧
      outcome (present? path) tree = (.ok (some (.directory mode)), tree)) ∨
      ∃ fault, outcome (ensureDirectory path) tree = (.error fault, tree) := by
  simp only [ensureDirectory, outcome_tryCatch, makeDirectory]
  rcases makeDirectoryAs_cases path.text path 0o777 tree with ⟨place, made, located, absent⟩ |
    ⟨fault, failed⟩
  · rw [made]
    exact .inl ⟨place, _, rfl, located, absent⟩
  · rw [failed]
    refine .inr ?_
    rcases fault with ⟨refusal, shown, target⟩ | _
    · cases refusal with
      | missing => exact .inr ⟨_, rfl⟩
      | «exists» => exact unlessDirectory_cases _ path tree
      | notADirectory => exact unlessDirectory_cases _ path tree
      | isADirectory => exact unlessDirectory_cases _ path tree
      | nameTooLong => exact unlessDirectory_cases _ path tree
    · exact .inr ⟨_, rfl⟩

private theorem present?_of_absent {path : Path} {tree : FileTree} {place : Place} (clean : path.Clean)
    (located : tree.locate path = .ok (.place place)) (absent : tree.at? place = none) :
    outcome (present? path) tree = (.ok none, tree) := by
  have status : tree.status path = .error .missing := by
    simp only [FileTree.status, located, bind, Except.bind, absent]
  simp only [present?, outcome_bind, outcome_checked, clean, if_true, outcome_get, status]
  rfl

/-- Looking for a directory before making sure of it: it is there, or it is made at a place where
nothing was, or one of the two fails. -/
theorem prepare_cases (path : Path) (tree : FileTree) :
    (∃ status? middle, outcome (present? path) tree = (.ok status?, tree) ∧
      outcome (ensureDirectory path) tree = (.ok (), middle) ∧ path.Clean ∧
      ((∃ mode, status? = some (.directory mode) ∧ middle = tree) ∨
        ∃ place mode, status? = none ∧ tree.locate path = .ok (.place place) ∧
          tree.at? place = none ∧ middle = tree.after (.makeDirectory place mode))) ∨
    (∃ status? fault, outcome (present? path) tree = (.ok status?, tree) ∧
      outcome (ensureDirectory path) tree = (.error fault, tree)) ∨
      ∃ fault, outcome (present? path) tree = (.error fault, tree) := by
  rcases present?_cases path tree with ⟨status?, found, clean⟩ | ⟨fault, failed⟩
  · rcases ensureDirectory_cases path tree with ⟨place, mode, made, located, absent⟩ |
      ⟨mode, kept, there⟩ | ⟨fault, failed⟩
    · have missing := present?_of_absent clean located absent
      exact .inl ⟨none, _, missing, made, clean, .inr ⟨place, mode, rfl, located, absent, rfl⟩⟩
    · exact .inl ⟨_, tree, there, kept, clean, .inl ⟨mode, rfl, rfl⟩⟩
    · exact .inr (.inl ⟨status?, fault, found, failed⟩)
  · exact .inr (.inr ⟨fault, failed⟩)

/-- A private directory is made at a new place under one of the names to try, or nothing changes. -/
theorem makePrivateDirectory_cases (directory : Path) (names : List String) (tree : FileTree) :
    (∃ name ∈ names, ∃ place, outcome (makePrivateDirectory directory names) tree =
      (.ok (directory.join (Path.ofText name)),
        tree.after (.makeDirectory place (tree.granted 0o700))) ∧
      tree.locate (directory.join (Path.ofText name)) = .ok (.place place) ∧
      tree.at? place = none) ∨
      ∃ fault, outcome (makePrivateDirectory directory names) tree = (.error fault, tree) := by
  induction names with
  | nil => exact .inr ⟨_, rfl⟩
  | cons name others ih =>
    simp only [makePrivateDirectory, outcome_tryCatch, outcome_bind]
    rcases makeDirectoryAs_cases _ (directory.join (Path.ofText name)) 0o700 tree with
      ⟨place, made, located, absent⟩ | ⟨fault, failed⟩
    · rw [made]
      exact .inl ⟨name, List.mem_cons_self, place, rfl, located, absent⟩
    · rw [failed]
      rcases fault with ⟨refusal, shown, target⟩ | _
      · cases refusal with
        | «exists» =>
          rcases ih with ⟨other, member, found⟩ | stopped
          · exact .inl ⟨other, List.mem_cons_of_mem _ member, found⟩
          · exact .inr stopped
        | missing => exact .inr ⟨_, rfl⟩
        | notADirectory => exact .inr ⟨_, rfl⟩
        | isADirectory => exact .inr ⟨_, rfl⟩
        | nameTooLong => exact .inr ⟨_, rfl⟩
      · exact .inr ⟨_, rfl⟩

end Storing

end CertGraph
