import CertGraph.Proofs.FileTree.Removing
import CertGraph.Publication

/- Staging: the files of all assets are written to places where nothing was. -/
set_option autoImplicit false
set_option relaxedAutoImplicit false

namespace CertGraph

open FileTree (Adds spot)

variable {σ ε α : Type}

namespace Storing

theorem outcome_attempt (step : Storing α) (tree : FileTree) :
    outcome (attempt step) tree = (.ok (outcome step tree).1, (outcome step tree).2) := by
  simp only [outcome, attempt]
  cases step tree <;> rfl

end Storing

namespace Run

theorem outcome_ofStoring (step : Storing α) (site : Site σ) :
    outcome (ofStoring step) site =
      ((outcome step site.tree).1.mapError .storage,
        { site with tree := (outcome step site.tree).2 }) := by
  simp only [outcome, ofStoring]
  cases step site.tree <;> rfl

theorem outcome_report (level : Level) (message : String) (site : Site σ) :
    outcome (report level message) site =
      (.ok (), { site with workshop := { site.workshop with
        journal := site.workshop.journal ++ [⟨level, message, none⟩] } }) := rfl

private theorem outcome_andFinally (step : Run σ α) (last : Storing Unit) (site : Site σ) :
    outcome (andFinally step last) site =
      match outcome step site with
      | (.ok value, after) => outcome (do ofStoring last; pure value) after
      | (.error fault, after) => outcome (do ofStoring last; throw fault) after := by
  simp only [outcome, andFinally]
  cases step site <;> rfl

/-- A last step that succeeds changes nothing about how the first one ended. -/
theorem outcome_andFinally_of_ok {step : Run σ α} {last : Storing Unit} {site : Site σ}
    {tree : FileTree} (finished : outcome last (outcome step site).2.tree = (.ok (), tree)) :
    outcome (andFinally step last) site =
      ((outcome step site).1, { (outcome step site).2 with tree := tree }) := by
  rw [outcome_andFinally]
  rcases ended : outcome step site with ⟨fault | value, after⟩
  · rw [ended] at finished
    simp only [outcome_bind, outcome_ofStoring, finished]
    rfl
  · rw [ended] at finished
    simp only [outcome_bind, outcome_ofStoring, finished]
    rfl

/-- What could not be stored, if that ended a run. -/
def storageFault? : Except RunFault α → Option StorageFault
  | .error (.storage fault) => some fault
  | _ => none

theorem eq_error_of_storageFault? {ended : Except RunFault α} {fault : StorageFault}
    (found : storageFault? ended = some fault) : ended = .error (.storage fault) := by
  unfold storageFault? at found
  split at found
  · cases found
    rfl
  · cases found

end Run

namespace Publication

/-- The files of the assets under some keys, in order. -/
def filesOf (parents : Parents ε) (keys : List String) : List AssetFile :=
  keys.flatMap fun key => (((parents.get? key).map Node.product).bind Product.files?).getD []

/-- A path that leads to a place where nothing is, and whose name is that of one of some files. -/
structure FreshIn (tree : FileTree) (files : List AssetFile) (path : Path) : Prop where
  clean : path.Clean
  place : ∃ place, spot tree.workingDirectory path = .place place ∧ tree.at? place = none
  named : ∃ file ∈ files, path.name = (Path.ofText file.filename).name

theorem FreshIn.earlier {tree after : FileTree} {files more : List AssetFile} {path : Path}
    (fresh : FreshIn after files path) (adds : tree.Adds after)
    (within : ∀ file ∈ files, file ∈ more) : FreshIn tree more path := by
  obtain ⟨place, leads, absent⟩ := fresh.place
  obtain ⟨file, member, named⟩ := fresh.named
  exact ⟨fresh.clean, ⟨place, adds.workingDirectory ▸ leads, adds.absent absent⟩,
    file, within file member, named⟩

/-- A path that leads to something. -/
def LeadsSomewhere (tree : FileTree) (path : Path) : Prop :=
  ∃ place entry, spot tree.workingDirectory path = .place place ∧ tree.at? place = some entry

private theorem LeadsSomewhere.later {tree after : FileTree} {path : Path}
    (leads : LeadsSomewhere tree path) (adds : tree.Adds after) : LeadsSomewhere after path := by
  obtain ⟨place, entry, named, known⟩ := leads
  exact ⟨place, entry, adds.workingDirectory ▸ named, adds.kept place entry known⟩

/-- A new file in a directory has a name, as the directory itself is there. -/
theorem name_of_absent {tree : FileTree} {staging other : Path} {place : Place}
    (present : LeadsSomewhere tree staging)
    (leads : spot tree.workingDirectory (staging.join other) = .place place)
    (absent : tree.at? place = none) : (staging.join other).name = other.name := by
  unfold Path.join at leads ⊢
  by_cases relative : other.slashes = 0
  · simp only [relative, if_true] at leads ⊢
    rcases steps : other.steps with _ | ⟨step, rest⟩
    · obtain ⟨here, entry, named, known⟩ := present
      rw [steps, List.append_nil] at leads
      cases named.symm.trans leads
      cases absent.symm.trans known
    · simp only [Path.name, steps]
      rw [List.getLast?_append_of_ne_nil _ (List.cons_ne_nil step rest)]
  · simp only [relative, if_false]

private theorem stageFiles_spec (staging : Path) (files : List AssetFile) (tree : FileTree)
    (present : LeadsSomewhere tree staging) :
    tree.Adds (outcome (stageFiles staging files) tree).2 ∧
      ∀ paths, (outcome (stageFiles staging files) tree).1 = .ok paths →
        ∀ path ∈ paths, FreshIn tree files path := by
  induction files generalizing tree with
  | nil =>
    refine ⟨.refl tree, ?_⟩
    rintro _ ⟨⟩
    exact nofun
  | cons file files ih =>
    simp only [stageFiles, outcome_bind]
    rcases Storing.createFile_cases (staging.join (Path.ofText file.filename)) file.data file.mode_lt
      tree with ⟨place, created, clean, located, absent⟩ | ⟨fault, failed⟩
    · rw [created]
      have adds : tree.Adds (tree.withFile place file.mode file.data) := .withFile absent
      have leads := (FileTree.locate_eq_spot located).symm
      have fresh : FreshIn tree (file :: files) (staging.join (Path.ofText file.filename)) :=
        ⟨clean, ⟨place, leads, absent⟩, file, List.mem_cons_self,
          name_of_absent present leads absent⟩
      obtain ⟨more, freshRest⟩ := ih _ (present.later adds)
      simp only
      rcases rest : outcome (stageFiles staging files) (tree.withFile place file.mode file.data) with
        ⟨fault | paths, after⟩
      · rw [rest] at more
        exact ⟨adds.trans more, nofun⟩
      · rw [rest] at more freshRest
        refine ⟨adds.trans more, ?_⟩
        rintro _ ⟨⟩ path member
        rcases List.mem_cons.mp member with rfl | member
        · exact fresh
        · exact (freshRest paths rfl path member).earlier adds
            fun other inRest => List.mem_cons_of_mem _ inRest
    · rw [failed]
      exact ⟨.refl tree, nofun⟩

theorem stageAll_spec (parents : Parents ε) (staging : Path) (keys : List String) (tree : FileTree)
    (present : LeadsSomewhere tree staging) :
    tree.Adds (outcome (stageAll parents staging keys) tree).2 ∧
      ∀ paths serials, (outcome (stageAll parents staging keys) tree).1 = .ok (paths, serials) →
        ∀ path ∈ paths, FreshIn tree (filesOf parents keys) path := by
  induction keys generalizing tree with
  | nil =>
    refine ⟨.refl tree, ?_⟩
    rintro _ _ ⟨⟩
    exact nofun
  | cons key keys ih =>
    have laterKeys : ∀ file ∈ filesOf parents keys, file ∈ filesOf parents (key :: keys) :=
      fun file member => List.mem_append_right _ member
    simp only [stageAll]
    rcases found : ((parents.get? key).map Node.product).bind Product.files? with _ | files
    · obtain ⟨adds, fresh⟩ := ih tree present
      exact ⟨adds, fun paths serials ok path member =>
        (fresh paths serials ok path member).earlier (.refl tree) laterKeys⟩
    · have theseKeys : ∀ file ∈ files, file ∈ filesOf parents (key :: keys) := by
        intro file member
        refine List.mem_append_left _ ?_
        simp only [found]
        exact member
      obtain ⟨adds, fresh⟩ := stageFiles_spec staging files tree present
      simp only [outcome_bind]
      rcases staged : outcome (stageFiles staging files) tree with ⟨fault | paths, middle⟩
      · rw [staged] at adds
        exact ⟨adds, nofun⟩
      · rw [staged] at adds fresh
        obtain ⟨more, freshRest⟩ := ih middle (present.later adds)
        simp only
        rcases rest : outcome (stageAll parents staging keys) middle with
          ⟨fault | ⟨others, serials⟩, after⟩
        · rw [rest] at more
          exact ⟨adds.trans more, nofun⟩
        · rw [rest] at more freshRest
          refine ⟨adds.trans more, ?_⟩
          rintro _ _ ⟨⟩ path member
          rcases List.mem_append.mp member with inFirst | inRest
          · exact (fresh paths rfl path inFirst).earlier (.refl tree) theseKeys
          · exact (freshRest others serials rfl path inRest).earlier adds laterKeys

end Publication

end CertGraph
