import CertGraph.Proofs.FileTree.Performing
import CertGraph.Proofs.Publication.Staged

/- What staging comes to whatever the files are called: each is written where its name leads, which need
not be in the staging directory. -/
set_option autoImplicit false
set_option relaxedAutoImplicit false

namespace CertGraph

open FileTree (Adds Performs WellFormed spot)

namespace Publication

/-- Where a file is staged: the steps of its name are taken from the staging directory. -/
def stagedPath (staging : Path) (file : AssetFile) : Path :=
  staging.join (Path.ofText file.filename)

/-- A change that is about a file at one of the places that the names of some files lead to. -/
def WritesOneOf (start : Place) (staging : Path) (files : List AssetFile) : Change → Prop
  | .createFile place _ | .setMode place _ | .write place _ =>
    ∃ file ∈ files, spot start (stagedPath staging file) = .place place
  | .makeDirectory _ _ | .move _ _ | .remove _ => False

/-- A tree after some files were written, each where its name leads and nothing was. -/
inductive Lays (staging : Path) : List AssetFile → FileTree → FileTree → Prop where
  | nil (tree : FileTree) : Lays staging [] tree tree
  | cons {file : AssetFile} {files : List AssetFile} {tree after : FileTree} {place : Place}
      (located : tree.locate (stagedPath staging file) = .ok (.place place))
      (clean : (stagedPath staging file).Clean) (absent : tree.at? place = none)
      (rest : Lays staging files (tree.withFile place file.mode file.data) after) :
      Lays staging (file :: files) tree after

namespace Lays

variable {staging : Path} {files : List AssetFile} {tree after : FileTree}

theorem adds (lays : Lays staging files tree after) : tree.Adds after := by
  induction lays with
  | nil tree => exact .refl tree
  | cons _ _ absent _ ih => exact (Adds.withFile absent).trans ih

theorem wellFormed (lays : Lays staging files tree after) (first : tree.WellFormed) :
    after.WellFormed := by
  induction lays with
  | nil tree => exact first
  | cons located _ absent _ ih => exact ih (first.withFile located absent)

theorem performs (lays : Lays staging files tree after) :
    Performs (WritesOneOf tree.workingDirectory staging files) tree after := by
  induction lays with
  | nil tree => exact .refl tree
  | @cons file files tree after place located _ _ _ ih =>
    have leads := (FileTree.locate_eq_spot located).symm
    have here : ∃ other ∈ file :: files,
        spot tree.workingDirectory (stagedPath staging other) = .place place :=
      ⟨file, List.mem_cons_self, leads⟩
    refine ((Performs.single here).trans ((Performs.single here).trans (.single here))).trans
      (ih.mono fun change writes => ?_)
    cases change with
    | makeDirectory | move | remove => exact writes
    | createFile | setMode | write =>
      obtain ⟨other, member, leadsOther⟩ := writes
      exact ⟨other, .tail _ member, leadsOther⟩

private theorem spared (lays : Lays staging files tree after) {place : Place}
    (apart : ∀ file ∈ files, spot tree.workingDirectory (stagedPath staging file) ≠ .place place) :
    after.at? place = tree.at? place := by
  induction lays with
  | nil tree => rfl
  | cons located _ _ _ ih =>
    rw [ih fun other member => apart other (.tail _ member)]
    refine FileTree.at?_withFile_ne ?_
    rintro rfl
    exact apart _ List.mem_cons_self (FileTree.locate_eq_spot located).symm

theorem clean (lays : Lays staging files tree after) :
    ∀ file ∈ files, (stagedPath staging file).Clean := by
  induction lays with
  | nil tree => exact nofun
  | cons _ clean _ _ ih =>
    intro other member
    rcases List.mem_cons.mp member with rfl | member
    · exact clean
    · exact ih other member

/-- Each file stands where its name leads, where nothing was. -/
theorem stands (lays : Lays staging files tree after) : ∀ file ∈ files, ∃ place,
    spot tree.workingDirectory (stagedPath staging file) = .place place ∧
      tree.at? place = none ∧ after.at? place = some (.file file.mode file.data) := by
  induction lays with
  | nil tree => exact nofun
  | @cons file files tree after place located _ absent rest ih =>
    intro other member
    rcases List.mem_cons.mp member with rfl | member
    · have present : (tree.withFile place other.mode other.data).at? place =
          some (.file other.mode other.data) :=
        FileTree.at?_withFile (FileTree.ne_nil_of_at?_eq_none absent)
      exact ⟨place, (FileTree.locate_eq_spot located).symm, absent, rest.adds.kept _ _ present⟩
    · obtain ⟨place', leads, absentThere, present⟩ := ih other member
      exact ⟨place', leads, (Adds.withFile absent).absent absentThere, present⟩

/-- No two names lead to the same place. -/
theorem apart (lays : Lays staging files tree after) : files.Pairwise fun file other =>
    spot tree.workingDirectory (stagedPath staging file) ≠
      spot tree.workingDirectory (stagedPath staging other) := by
  induction lays with
  | nil tree => exact .nil
  | @cons file files tree after place located _ absent rest ih =>
    refine List.pairwise_cons.mpr ⟨fun other member same => ?_, ih⟩
    obtain ⟨place', leads, absentThere, -⟩ := rest.stands other member
    have leadsFirst := (FileTree.locate_eq_spot located).symm
    have samePlace : place' = place := by
      cases leads.symm.trans (same.symm.trans leadsFirst)
      rfl
    rw [samePlace, FileTree.at?_withFile (FileTree.ne_nil_of_at?_eq_none absent)] at absentThere
    cases absentThere

/-- A file of the tree was there before, or is one of those that were written. -/
theorem file_iff (lays : Lays staging files tree after) {place : Place} {mode : Nat} {data : Octets} :
    after.at? place = some (.file mode data) ↔ tree.at? place = some (.file mode data) ∨
      ∃ file ∈ files, spot tree.workingDirectory (stagedPath staging file) = .place place ∧
        file.mode = mode ∧ file.data = data := by
  constructor
  · intro known
    by_cases written : ∃ file ∈ files,
        spot tree.workingDirectory (stagedPath staging file) = .place place
    · obtain ⟨file, member, leads⟩ := written
      obtain ⟨place', leads', -, present⟩ := lays.stands file member
      cases leads.symm.trans leads'
      cases present.symm.trans known
      exact .inr ⟨file, member, leads, rfl, rfl⟩
    · rw [lays.spared fun file member leads => written ⟨file, member, leads⟩] at known
      exact .inl known
  · rintro (known | ⟨file, member, leads, rfl, rfl⟩)
    · exact lays.adds.kept _ _ known
    · obtain ⟨place', leads', -, present⟩ := lays.stands file member
      cases leads.symm.trans leads'
      exact present

/-- A written file has the last step of its name for a name. -/
theorem name_stagedPath (lays : Lays staging files tree after) (present : LeadsSomewhere tree staging) :
    ∀ file ∈ files, (stagedPath staging file).name = (Path.ofText file.filename).name := by
  intro file member
  obtain ⟨place, leads, absent, -⟩ := lays.stands file member
  exact name_of_absent present leads absent

end Lays

/-- Files are staged one after another until one cannot be written; if all of them can, their paths
are what comes of it. -/
theorem stageFiles_lays (staging : Path) (files : List AssetFile) (tree : FileTree) :
    ∃ done rest result after, files = done ++ rest ∧
      outcome (stageFiles staging files) tree = (result, after) ∧ Lays staging done tree after ∧
      ((rest = [] ∧ result = .ok (files.map (stagedPath staging))) ∨
        (rest ≠ [] ∧ ∃ fault, result = .error fault)) := by
  induction files generalizing tree with
  | nil => exact ⟨[], [], _, tree, rfl, rfl, .nil tree, .inl ⟨rfl, rfl⟩⟩
  | cons file files ih =>
    simp only [stageFiles, outcome_bind]
    rcases Storing.createFile_cases (staging.join (Path.ofText file.filename)) file.data file.mode_lt
      tree with ⟨place, created, clean, located, absent⟩ | ⟨fault, failed⟩
    · obtain ⟨done, rest, result, after, rfl, ran, lays, ended⟩ :=
        ih (tree.withFile place file.mode file.data)
      rw [created]
      simp only [ran]
      rcases ended with ⟨rfl, rfl⟩ | ⟨more, fault, rfl⟩
      · exact ⟨file :: done, [], _, after, rfl, rfl, .cons located clean absent lays,
          .inl ⟨rfl, rfl⟩⟩
      · exact ⟨file :: done, rest, _, after, rfl, rfl, .cons located clean absent lays,
          .inr ⟨more, fault, rfl⟩⟩
    · rw [failed]
      exact ⟨[], file :: files, _, tree, rfl, rfl, .nil tree,
        .inr ⟨List.cons_ne_nil _ _, fault, rfl⟩⟩

end Publication

end CertGraph
