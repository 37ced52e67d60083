import CertGraph.Proofs.FileTree.Paving
import CertGraph.Proofs.Publication.RollBack

/- Publications that fail: which of the files that were there are lost, and which are not. -/
set_option autoImplicit false
set_option relaxedAutoImplicit false

namespace CertGraph

open FileTree (Adds Removes spot)

variable {σ ε : Type}

namespace Publication

/-- A commit that fails takes back what it moved. -/
theorem commit_failure {files : List AssetFile} {first : FileTree} {directory : Path}
    {staged : List Path} {site after : Site σ} {fault : RunFault} (grounded : first.Grounded)
    (adds : first.Adds site.tree) (fresh : ∀ path ∈ staged, FreshIn first files path)
    (failed : outcome (commit directory staged) site = (.error fault, after)) :
    ∃ changes, Leaves files changes first after.tree := by
  simp only [commit, outcome_bind, Run.outcome_ofStoring] at failed
  rcases Storing.prepare_cases directory site.tree with
    ⟨status?, middle, found, ensured, clean, ready⟩ | ⟨status?, fault', found, ensured⟩ |
    ⟨fault', found⟩
  · have addsMiddle : first.Adds middle := by
      rcases ready with ⟨mode, -, rfl⟩ | ⟨place, mode, -, -, absent, rfl⟩
      · exact adds
      · exact adds.trans (.makeDirectory absent)
    obtain ⟨moved, fault?, changes, last, moves, notZero, finals, relocates⟩ :=
      moveAll_spec (fun place => first.at? place = none) clean staged middle
        (fun path member => (fresh path member).clean) (by
          intro path member place leads
          obtain ⟨place', leads', absent⟩ := (fresh path member).place
          rw [← addsMiddle.workingDirectory] at leads'
          cases leads.symm.trans leads'
          exact absent)
    simp only [found, ensured, moves, Except.mapError] at failed
    cases fault? with
    | none => cases failed
    | some stopped =>
      have rollsBack : stopped ≠ .zeroCharacter := fun same => notZero (same ▸ rfl)
      obtain ⟨undone, taken, removes, gone⟩ := undo_spec directory status?.isSome
        fun target member =>
          (relocates.targets target member).imp fun _ targets => targets.of_same relocates.same
      simp only [rollsBack, ne_eq, not_false_eq_true, if_true, outcome_bind, Run.outcome_report,
        Run.outcome_ofStoring, taken] at failed
      cases failed
      refine leaves_of_relocates addsMiddle fresh finals relocates removes gone ?_
      rintro place mode data known ⟨made, root, leads, above⟩
      -- only a directory that the commit made itself is removed as a whole
      rcases ready with ⟨mode, rfl, -⟩ | ⟨root', mode, -, located, absent, -⟩
      · cases made
      rw [relocates.same.workingDirectory, addsMiddle.workingDirectory,
        ← adds.workingDirectory, ← FileTree.locate_eq_spot located] at leads
      cases leads
      exact not_below grounded (adds.absent absent) known above
  · simp only [found, ensured, Except.mapError] at failed
    cases failed
    exact Leaves.of_adds adds
  · simp only [found, Except.mapError] at failed
    cases failed
    exact Leaves.of_adds adds

/-- Removing a directory at last changes nothing about how a step ends. -/
private theorem outcome_andRemove {α : Type} (step : Run σ α) (path : Path) (site : Site σ) :
    ∃ last, outcome (Run.andFinally step (Storing.removeTree path)) site =
        ((outcome step site).1, { (outcome step site).2 with tree := last }) ∧
      Removes (fun place => ∃ root,
        spot (outcome step site).2.tree.workingDirectory path = .place root ∧ root <+: place)
        (outcome step site).2.tree last := by
  obtain ⟨last, removed, removes⟩ := Storing.removeTree_spec path (outcome step site).2.tree
  exact ⟨last, Run.outcome_andFinally_of_ok removed, removes⟩

/-- Staging and then committing, where something was made already that is to be staged in. -/
theorem stage_failure {first : FileTree} {parents : Parents ε} {generated : List String}
    {staging directory : Path} {site after : Site σ} {fault : RunFault} (grounded : first.Grounded)
    (adds : first.Adds site.tree) (present : LeadsSomewhere site.tree staging)
    (failed : outcome (do
      let (staged, serials) ← Run.ofStoring (stageAll parents staging generated)
      return (← commit directory staged, serials)) site = (.error fault, after)) :
    ∃ changes, Leaves (filesOf parents generated) changes first after.tree := by
  obtain ⟨more, fresh⟩ := stageAll_spec parents staging generated site.tree present
  simp only [outcome_bind, Run.outcome_ofStoring] at failed
  rcases staged : outcome (stageAll parents staging generated) site.tree with
    ⟨fault' | ⟨paths, serials⟩, middle⟩
  · rw [staged] at more
    simp only [staged, Except.mapError] at failed
    cases failed
    exact Leaves.of_adds (adds.trans more)
  · rw [staged] at more fresh
    simp only [staged, Except.mapError] at failed
    rcases committed : outcome (commit directory paths) { site with tree := middle } with
      ⟨fault' | written, last⟩
    · simp only [committed] at failed
      cases failed
      exact commit_failure grounded (adds.trans more)
        (fun path member => (fresh paths serials rfl path member).earlier adds fun _ => id) committed
    · simp only [committed] at failed
      cases failed

/-- A publication that fails leaves every file that was there, except those that it had already
replaced. -/
theorem write_failure {parents : Parents ε} {generated : List String} {outputDir : Path}
    {tlsDir : String} {suffixes : List String} {site after : Site σ} {fault : RunFault}
    (grounded : site.tree.Grounded)
    (failed : outcome (write parents generated outputDir tlsDir suffixes) site =
      (.error fault, after)) :
    ∃ changes, Leaves (filesOf parents generated) changes site.tree after.tree := by
  simp only [write, outcome_bind, Run.outcome_ofStoring] at failed
  have above : site.tree.Adds (outcome (Storing.ensureDirectories outputDir) site.tree).2 :=
    (Storing.ensureDirectories_paves outputDir site.tree).adds
  rcases ensured : outcome (Storing.ensureDirectories outputDir) site.tree with ⟨fault' | _, outer⟩
  · rw [ensured] at above failed
    cases failed
    exact Leaves.of_adds above
  rw [ensured] at above failed
  simp only [Except.mapError] at failed
  rcases Storing.makePrivateDirectory_cases outputDir (stagingNames tlsDir suffixes) outer with
    ⟨name, -, place, made, located, absent⟩ | ⟨fault', refused⟩
  · generalize outputDir.join (Path.ofText name) = staging at made located
    have leads := (FileTree.locate_eq_spot located).symm
    have present : LeadsSomewhere (outer.after (.makeDirectory place (outer.granted 0o700))) staging :=
      ⟨place, _, leads, FileTree.at?_after_makeDirectory (FileTree.ne_nil_of_at?_eq_none absent)⟩
    simp only [made] at failed
    split at failed
    · cases failed
    · rename_i ended
      cases failed
      obtain ⟨last, ends, removes⟩ := outcome_andRemove (do
        let (staged, serials) ← Run.ofStoring (stageAll parents staging generated)
        return (← commit (outputDir.join (Path.ofText tlsDir)) staged, serials)) staging
        { site with tree := outer.after (.makeDirectory place (outer.granted 0o700)) }
      rw [ends] at ended
      obtain ⟨stopped, rfl⟩ := Prod.mk.inj ended
      obtain ⟨changes, leaves⟩ := stage_failure grounded (above.trans (.makeDirectory absent))
        present (Prod.ext stopped rfl)
      refine leaves.removes removes ?_
      rintro old mode data known ⟨root, leads', above'⟩
      rw [leaves.workingDirectory, ← above.workingDirectory, leads] at leads'
      cases leads'
      exact not_below grounded (above.absent absent) known above'
  · rw [refused] at failed
    cases failed
    exact Leaves.of_adds above

/-- What becomes of a file that was there before a publication that fails: it stays, contents and
permissions, exactly if no file was moved over it before the failure, and else it is gone. A file is
moved only to a place with the name of one of the files to be written. -/
theorem write_failure_keeps_unreplaced {parents : Parents ε} {generated : List String}
    {outputDir : Path} {tlsDir : String} {suffixes : List String} {site after : Site σ}
    {fault : RunFault} (grounded : site.tree.Grounded)
    (failed : outcome (write parents generated outputDir tlsDir suffixes) site =
      (.error fault, after)) :
    ∃ changes, after.tree.history = site.tree.history ++ changes ∧
      (∀ source place, .move source place ∈ changes → ∃ file ∈ filesOf parents generated,
        place.getLast? = some (Path.ofText file.filename).name) ∧
      ∀ place mode data, site.tree.at? place = some (.file mode data) →
        (after.tree.at? place = some (.file mode data) ↔
          ∀ source, .move source place ∉ changes) ∧
        (after.tree.at? place = some (.file mode data) ∨ after.tree.at? place = none) := by
  obtain ⟨changes, leaves⟩ := write_failure grounded failed
  refine ⟨changes, leaves.history, leaves.named, fun place mode data known => ?_⟩
  by_cases unmoved : ∀ source, .move source place ∉ changes
  · have kept := leaves.kept place mode data known unmoved
    exact ⟨⟨fun _ => unmoved, fun _ => kept⟩, .inl kept⟩
  · obtain ⟨source, moved⟩ : ∃ source, .move source place ∈ changes := by simpa using unmoved
    have gone := leaves.lost place mode data known source moved
    exact ⟨⟨fun kept => (by cases gone.symm.trans kept), fun still => absurd still unmoved⟩,
      .inr gone⟩

/-- A tree with one file of an earlier run, and a directory in the way of another. -/
def blockedSite : Site Unit where
  workshop := ⟨.fresh ⟨fun _ => .error (.refused ""), fun _ => 0⟩ ⟨0⟩, [], ()⟩
  tree := {
    entries := [(["out"], .directory 0o755), (["out", "tls"], .directory 0o755),
      (["out", "tls", "a.crt"], .file 0o600 (Octets.ofText "old")),
      (["out", "tls", "b.crt"], .directory 0o755)]
    workingDirectory := []
    umask := 0o022
    history := [] }

/-- One generated asset with two files. -/
def twoFiles : Parents Unit :=
  ⟨[("pair", ⟨"pair", "pair", [], .custom (some [.make "a.crt" (Octets.ofText "new") 0o644,
    .make "b.crt" (Octets.ofText "new") 0o644]) ()⟩)]⟩

/-- A publication of the two files that finds a directory in the way of the second. -/
def blockedWrite : Except RunFault Publication × Site Unit :=
  outcome (write twoFiles ["pair"] (Path.ofText "out") "tls" ["x"]) blockedSite

theorem blockedSite_grounded : blockedSite.tree.Grounded :=
  FileTree.grounded_of_entries (by decide)

theorem blockedWrite_error :
    blockedWrite.1 = .error (.storage
      (.refused .isADirectory "out/.tls-x/b.crt" (some "out/tls/b.crt"))) :=
  Run.eq_error_of_storageFault? (by decide +kernel)

private theorem blockedWrite_eq :
    outcome (write twoFiles ["pair"] (Path.ofText "out") "tls" ["x"]) blockedSite =
      (.error (.storage (.refused .isADirectory "out/.tls-x/b.crt" (some "out/tls/b.crt"))),
        blockedWrite.2) := by
  rw [← blockedWrite_error]
  exact (Prod.eta blockedWrite).symm

/-- The publication of the two files fails, and the file of the earlier run is among those that
either stay or are gone. -/
theorem blockedWrite_keeps_unreplaced :
    ∃ changes, blockedWrite.2.tree.history = blockedSite.tree.history ++ changes ∧
      (∀ source place, .move source place ∈ changes → ∃ file ∈ filesOf twoFiles ["pair"],
        place.getLast? = some (Path.ofText file.filename).name) ∧
      ∀ place mode data, blockedSite.tree.at? place = some (.file mode data) →
        (blockedWrite.2.tree.at? place = some (.file mode data) ↔
          ∀ source, .move source place ∉ changes) ∧
        (blockedWrite.2.tree.at? place = some (.file mode data) ∨
          blockedWrite.2.tree.at? place = none) :=
  write_failure_keeps_unreplaced blockedSite_grounded blockedWrite_eq

/-- The file of the earlier run is replaced and then removed, so that a publication that fails leaves
the directory without it. -/
theorem blockedWrite_loses_file :
    (∃ fault, blockedWrite.1 = .error fault) ∧
      blockedSite.tree.at? ["out", "tls", "a.crt"] = some (.file 0o600 (Octets.ofText "old")) ∧
      blockedWrite.2.tree.at? ["out", "tls", "a.crt"] = none :=
  ⟨⟨_, blockedWrite_error⟩, by decide, by decide +kernel⟩

end Publication

end CertGraph
