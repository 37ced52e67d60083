import CertGraph.Proofs.FileTree.Paving
import CertGraph.Proofs.FileTree.Refusing
import CertGraph.Proofs.Publication.Staging

/- What staging comes to when file names are steps of a path: which files stand in the staging
directory, however far it went. -/
set_option autoImplicit false
set_option relaxedAutoImplicit false

namespace CertGraph

open FileTree (Adds spot goal)

variable {ε : Type}

namespace Publication

/-- The names of some files. -/
def namesOf (files : List AssetFile) : List String :=
  files.map AssetFile.filename

/-- The names to try for staging are steps of a path if what they are put together from is. -/
theorem stagingNames_components {tlsDir : String} (component : Path.IsComponent tlsDir)
    {suffixes : List String} (plain : ∀ suffix ∈ suffixes, Path.Plain suffix) :
    ∀ name ∈ stagingNames tlsDir suffixes, Path.IsComponent name ∧ name ≠ tlsDir := by
  intro name member
  obtain ⟨suffix, inSuffixes, rfl⟩ := List.mem_map.mp member
  have nonempty : 0 < tlsDir.toList.length := by
    rw [List.length_pos_iff]
    intro none
    exact component.nonempty (String.toList_eq_nil_iff.mp none)
  have length : ("." ++ tlsDir ++ "-" ++ suffix).toList.length =
      tlsDir.toList.length + suffix.toList.length + 2 := by
    simp only [String.toList_append, List.length_append]
    have dot : ".".toList.length = 1 := rfl
    have hyphen : "-".toList.length = 1 := rfl
    omega
  have isPlain : Path.Plain ("." ++ tlsDir ++ "-" ++ suffix) :=
    ((Path.Plain.append (by decide) component.plain).append (by decide)).append
      (plain suffix inSuffixes)
  refine ⟨.of_length isPlain (by omega), fun same => ?_⟩
  rw [same] at length
  omega

/-- A tree after some files were written to new places in a directory. -/
structure Stages (directory : Place) (files : List AssetFile) (tree after : FileTree) : Prop where
  adds : tree.Adds after
  touches : tree.Touches (fun place => ∃ file ∈ files, place = directory ++ [file.filename]) after
  nodup : (namesOf files).Nodup
  absent : ∀ file ∈ files, tree.at? (directory ++ [file.filename]) = none
  written : ∀ file ∈ files,
    after.at? (directory ++ [file.filename]) = some (.file file.mode file.data)

namespace Stages

variable {directory : Place} {file : AssetFile} {files : List AssetFile} {tree after : FileTree}

private theorem nil (directory : Place) (tree : FileTree) : Stages directory [] tree tree :=
  ⟨.refl tree, .refl tree, List.nodup_nil, nofun, nofun⟩

private theorem cons (absent : tree.at? (directory ++ [file.filename]) = none)
    (rest : Stages directory files
      (tree.withFile (directory ++ [file.filename]) file.mode file.data) after) :
    Stages directory (file :: files) tree after := by
  have first : tree.Adds (tree.withFile (directory ++ [file.filename]) file.mode file.data) :=
    .withFile absent
  have present : (tree.withFile (directory ++ [file.filename]) file.mode file.data).at?
      (directory ++ [file.filename]) = some (.file file.mode file.data) :=
    FileTree.at?_withFile (FileTree.ne_nil_of_at?_eq_none absent)
  have unlike : ∀ other ∈ files, other.filename ≠ file.filename := by
    intro other member same
    have missing := rest.absent other member
    rw [same, present] at missing
    cases missing
  refine ⟨first.trans rest.adds, ?_, ?_, ?_, ?_⟩
  · have writes : tree.Touches
        (fun place => ∃ other ∈ file :: files, place = directory ++ [other.filename])
        (tree.withFile (directory ++ [file.filename]) file.mode file.data) := by
      refine ⟨[.createFile _ _, .setMode _ _, .write _ _], rfl, fun place member => ?_⟩
      have here : place = directory ++ [file.filename] := by
        simpa [FileTree.touched, Change.places] using member
      exact ⟨file, List.mem_cons_self, here⟩
    refine writes.trans (rest.touches.mono ?_)
    rintro place ⟨other, member, here⟩
    exact ⟨other, List.mem_cons_of_mem _ member, here⟩
  · refine List.nodup_cons.mpr ⟨?_, rest.nodup⟩
    intro twice
    obtain ⟨other, member, same⟩ := List.mem_map.mp twice
    exact unlike other member same
  · intro other member
    rcases List.mem_cons.mp member with rfl | member
    · exact absent
    · exact first.absent (rest.absent other member)
  · intro other member
    rcases List.mem_cons.mp member with rfl | member
    · exact rest.adds.kept _ _ present
    · exact rest.written other member

/-- New files in a directory keep a tree grounded. -/
theorem grounded (stages : Stages directory files tree after)
    (inside : ∃ mode, tree.at? directory = some (.directory mode)) (grounded : tree.Grounded) :
    after.Grounded := by
  intro place entry known
  have old {above : Place} (found : ∃ mode, tree.at? above = some (.directory mode)) :
      ∃ mode, after.at? above = some (.directory mode) :=
    found.imp fun _ => stages.adds.kept above _
  by_cases new : ∃ file ∈ files, place = directory ++ [file.filename]
  · obtain ⟨file, -, rfl⟩ := new
    rw [List.dropLast_concat]
    exact old inside
  · rw [stages.touches.spared new] at known
    exact old (grounded place entry known)

end Stages

/-- A tree filled with some files, each written to a new place in a directory. -/
inductive Fills (directory : Place) : List AssetFile → FileTree → FileTree → Prop where
  | nil (tree : FileTree) : Fills directory [] tree tree
  | cons {file : AssetFile} {files : List AssetFile} {tree after : FileTree}
      (absent : tree.at? (directory ++ [file.filename]) = none)
      (rest : Fills directory files
        (tree.withFile (directory ++ [file.filename]) file.mode file.data) after) :
      Fills directory (file :: files) tree after

theorem Fills.stages {directory : Place} {files : List AssetFile} {tree after : FileTree}
    (fills : Fills directory files tree after) : Stages directory files tree after := by
  induction fills with
  | nil tree => exact .nil directory tree
  | cons absent _ ih => exact .cons absent ih

/-- Files are staged one after another until one cannot be written; if all of them can, their paths
are what comes of it. -/
theorem stageFiles_fills {staging : Path} {directory : Place} {files : List AssetFile}
    {tree : FileTree} (leads : goal tree.workingDirectory staging = directory)
    (components : ∀ file ∈ files, Path.IsComponent file.filename) :
    ∃ done rest result after, files = done ++ rest ∧
      outcome (stageFiles staging files) tree = (result, after) ∧ Fills directory done tree after ∧
      (∀ file ∈ done, (staging.child file.filename).Clean) ∧
      ((rest = [] ∧ result = .ok ((namesOf files).map staging.child)) ∨
        (rest ≠ [] ∧ ∃ fault, result = .error fault)) := by
  induction files generalizing tree with
  | nil => exact ⟨[], [], _, tree, rfl, rfl, .nil tree, nofun, .inl ⟨rfl, rfl⟩⟩
  | cons file files ih =>
    have component := components file List.mem_cons_self
    have child := Path.join_component staging component
    simp only [stageFiles, outcome_bind, child]
    rcases Storing.createFile_cases (staging.child file.filename) file.data file.mode_lt tree with
      ⟨place, created, clean, located, absent⟩ | ⟨fault, failed⟩
    · have named := FileTree.locate_eq_spot located
      rw [FileTree.spot_child _ _ component, leads] at named
      cases named
      obtain ⟨done, rest, result, after, rfl, ran, fills, cleanDone, ended⟩ :=
        @ih (tree.withFile (directory ++ [file.filename]) file.mode file.data) leads
          fun other member => components other (List.mem_cons_of_mem _ member)
      have cleanAll : ∀ other ∈ file :: done, (staging.child other.filename).Clean := by
        intro other member
        rcases List.mem_cons.mp member with rfl | member
        · exact clean
        · exact cleanDone other member
      rw [created]
      simp only [ran]
      rcases ended with ⟨rfl, rfl⟩ | ⟨more, fault, rfl⟩
      · exact ⟨file :: done, [], _, after, rfl, rfl, .cons absent fills, cleanAll,
          .inl ⟨rfl, rfl⟩⟩
      · exact ⟨file :: done, rest, _, after, rfl, rfl, .cons absent fills, cleanAll,
          .inr ⟨more, fault, rfl⟩⟩
    · rw [failed]
      exact ⟨[], file :: files, _, tree, rfl, rfl, .nil tree, nofun,
        .inr ⟨List.cons_ne_nil _ _, fault, rfl⟩⟩

theorem stageFiles_onlyRefuses {staging : Path} (clean : staging.Clean) {files : List AssetFile}
    (components : ∀ file ∈ files, Path.IsComponent file.filename) :
    Storing.OnlyRefuses (stageFiles staging files) := by
  induction files with
  | nil => exact .pure _
  | cons file files ih =>
    have component := components file List.mem_cons_self
    have cleanChild : (staging.join (Path.ofText file.filename)).Clean := by
      rw [Path.join_component staging component]
      exact Path.clean_child clean component
    refine (Storing.OnlyRefuses.createFile file.data file.mode cleanChild).bind fun _ => ?_
    exact (ih fun other member => components other (.tail _ member)).bind fun _ => .pure _

/-- The serial numbers of the certificates that the assets under some keys hold, in order. -/
def serialsOf (parents : Parents ε) (keys : List String) : List (String × String) :=
  keys.flatMap fun key =>
    let product? := (parents.get? key).map Node.product
    match product?.bind Product.files? with
    | none => []
    | some _ => ((product?.bind Product.certificate?).map fun certificate =>
        (key, certificate.serialText)).toList

private theorem stageFiles_append (staging : Path) (files more : List AssetFile) (tree : FileTree) :
    outcome (stageFiles staging (files ++ more)) tree =
      outcome (do
        let paths ← stageFiles staging files
        let others ← stageFiles staging more
        return paths ++ others) tree := by
  induction files generalizing tree with
  | nil =>
    simp only [List.nil_append, stageFiles, outcome_bind, outcome_pure]
    rcases outcome (stageFiles staging more) tree with ⟨fault | others, after⟩ <;> rfl
  | cons file files ih =>
    simp only [List.cons_append, stageFiles, outcome_bind]
    rcases outcome (Storing.createFile (staging.join (Path.ofText file.filename)) file.data
      file.mode) tree with ⟨fault | _, middle⟩
    · rfl
    · simp only [ih, outcome_bind, outcome_pure]
      rcases outcome (stageFiles staging files) middle with ⟨fault | paths, later⟩
      · rfl
      · simp only
        rcases outcome (stageFiles staging more) later with ⟨fault | others, after⟩ <;> rfl

/-- The files of all assets are staged as one list. -/
theorem outcome_stageAll (parents : Parents ε) (staging : Path) (keys : List String)
    (tree : FileTree) :
    outcome (stageAll parents staging keys) tree =
      ((outcome (stageFiles staging (filesOf parents keys)) tree).1.map fun paths =>
          (paths, serialsOf parents keys),
        (outcome (stageFiles staging (filesOf parents keys)) tree).2) := by
  induction keys generalizing tree with
  | nil => rfl
  | cons key keys ih =>
    simp only [stageAll, filesOf, serialsOf, List.flatMap_cons] at ih ⊢
    rcases found : ((parents.get? key).map Node.product).bind Product.files? with _ | files
    · simp only [Option.getD_none, List.nil_append]
      exact ih tree
    · simp only [Option.getD_some, stageFiles_append, outcome_bind, outcome_pure, ih]
      rcases outcome (stageFiles staging files) tree with ⟨fault | paths, middle⟩
      · rfl
      · simp only
        rcases outcome (stageFiles staging (keys.flatMap fun key =>
          (((parents.get? key).map Node.product).bind Product.files?).getD [])) middle with
          ⟨fault | others, after⟩ <;> rfl

end Publication

end CertGraph
