import CertGraph.Proofs.Publication.Carried
import CertGraph.Proofs.Publication.Laid
import CertGraph.Proofs.Publication.Opening
import Mathlib.Data.List.Nodup

/- Publications of files with names of any kind: where files are written, where they are moved to, and
what a publication that fails leaves of them. -/
set_option autoImplicit false
set_option relaxedAutoImplicit false

namespace CertGraph

open FileTree (Adds KeepsDirectories OnWay Performs WellFormed goal spot)

variable {σ ε : Type}

namespace Publication

/-- Staging and committing brings all files into the directory, or gives up those it brought there: the
first of those that were written. -/
theorem publish_ends_anywhere (parents : Parents ε) (generated : List String)
    (staging directory : Path) (site : Site σ) (wellFormed : site.tree.WellFormed) :
    (∃ staged last, outcome (publish parents generated staging directory) site =
        (.ok (((filesOf parents generated).map (stagedPath staging)).map (finalPath directory),
          serialsOf parents generated), { site with tree := last }) ∧
      Lays staging (filesOf parents generated) site.tree staged ∧
      Performs (CommitsOneOf site.tree.workingDirectory directory
        ((filesOf parents generated).map (stagedPath staging))) staged last) ∨
    ∃ fault after moved kept rest staged,
      outcome (publish parents generated staging directory) site =
        (.error (.storage fault), after) ∧
      filesOf parents generated = moved ++ kept ++ rest ∧
      Lays staging (moved ++ kept) site.tree staged ∧
      GivesUp directory (moved.map (stagedPath staging)) staged after.tree := by
  obtain ⟨done, rest, result, staged, split, ran, lays, ended⟩ :=
    stageFiles_lays staging (filesOf parents generated) site.tree
  have start := lays.adds.workingDirectory
  simp only [publish, outcome_bind, Run.outcome_ofStoring, outcome_stageAll, ran]
  rcases ended with ⟨rfl, rfl⟩ | ⟨-, fault, rfl⟩
  · rw [List.append_nil] at split
    subst split
    have clean : ∀ path ∈ (filesOf parents generated).map (stagedPath staging), path.Clean := by
      intro path member
      obtain ⟨file, inFiles, rfl⟩ := List.mem_map.mp member
      exact lays.clean file inFiles
    simp only [Except.map, Except.mapError]
    rcases commit_ends_anywhere { site with tree := staged } (lays.wellFormed wellFormed).grounded
      clean with ⟨last, committed, performs⟩ | ⟨fault, after, moved, kept, failed, parts, givesUp⟩
    · rw [committed]
      exact .inl ⟨staged, last, rfl, lays, start ▸ performs⟩
    · obtain ⟨first, second, files, rfl, rfl⟩ := List.map_eq_append_iff.mp parts
      rw [failed]
      refine .inr ⟨fault, after, first, second, [], staged, rfl, ?_, files ▸ lays, givesUp⟩
      rw [files, List.append_nil]
  · exact .inr ⟨fault, _, [], done, rest, staged, rfl, split, lays, .refl directory staged⟩

/-- Where a file belongs: in the final directory, under the last step of its name. -/
def finalPlace (start : Place) (directory : Path) (file : AssetFile) : Place :=
  goal start directory ++ [(Path.ofText file.filename).name]

/-- A change that is made while files are staged: directories on the way to the output directory, the
private directory, and new files where their names lead from there. -/
def StagesAt (start : Place) (outputDir staging : Path) (files : List AssetFile) (change : Change) :
    Prop :=
  (∃ place mode, change = .makeDirectory place mode ∧
    (OnWay start outputDir place ∨ spot start staging = .place place)) ∨
  WritesOneOf start staging files change

/-- A change that is made while files are committed: the final directory, files moved to where they
belong, and what is removed from the two directories. -/
def CommitsAt (start : Place) (staging directory : Path) (source : Place) (files : List AssetFile) :
    Change → Prop
  | .makeDirectory place _ => spot start directory = .place place
  | .move place target => ∃ file ∈ files,
    spot start (stagedPath staging file) = .place place ∧ target = finalPlace start directory file
  | .remove place => goal start directory <+: place ∨ source <+: place
  | .createFile _ _ | .setMode _ _ | .write _ _ => False

/-- What a publication with a private directory comes to. It writes files where their names lead from
that directory, then moves files only to where they belong, and reports these paths if it returns. If it
fails it removes what it moved, and all that is in the private directory, so that of the files that it
had written but not moved those are left whose names lead out of there. -/
structure Settles (files : List AssetFile) (outputDir staging directory : Path) (source : Place)
    (tree : FileTree) (ended : Except RunFault Publication) (after : FileTree) : Prop where
  leads : spot tree.workingDirectory staging = .place source
  absent : tree.at? source = none
  changes : ∃ staged,
    Performs (StagesAt tree.workingDirectory outputDir staging files) tree staged ∧
      Performs (CommitsAt tree.workingDirectory staging directory source files) staged after
  returned : ∀ publication, ended = .ok publication →
    publication.written = files.map (fun file =>
      ⟨directory.slashes, directory.steps ++ [(Path.ofText file.filename).name]⟩) ∧
    (publication.written.Nodup ↔
      (files.map fun file => (Path.ofText file.filename).name).Nodup)
  left : ∀ fault, ended = .error fault → ∃ moved kept rest, files = moved ++ kept ++ rest ∧
    ∀ place mode data, after.at? place = some (.file mode data) ↔
      (∀ file ∈ moved, place ≠ finalPlace tree.workingDirectory directory file) ∧
        (tree.at? place = some (.file mode data) ∨
          ∃ file ∈ kept, spot tree.workingDirectory (stagedPath staging file) = .place place ∧
            ¬ source <+: place ∧ file.mode = mode ∧ file.data = data)

section Ending

variable {files done : List AssetFile} {staging directory : Path} {source : Place}
  {tree base staged : FileTree}

/-- A written file that is moved is moved to where it belongs. -/
private theorem spot_finalPath_iff (lays : Lays staging done base staged)
    (present : LeadsSomewhere base staging)
    {file : AssetFile} (written : file ∈ done) {place : Place} :
    spot base.workingDirectory (finalPath directory (stagedPath staging file)) = .place place ↔
      place = finalPlace base.workingDirectory directory file := by
  have named := lays.name_stagedPath present file written
  constructor
  · intro leads
    rw [eq_of_spot_finalPath leads, named]
    rfl
  · rintro rfl
    obtain ⟨place, leads, -⟩ := lays.stands file written
    -- a name that ends in two dots leads to a directory, where nothing can be written
    have notUp : (stagedPath staging file).name ≠ ".." := by
      intro up
      unfold spot at leads
      unfold Path.name at up
      cases ended : (stagedPath staging file).steps.getLast? with
      | none => simp [ended] at leads
      | some last =>
        rw [ended] at up
        simp [ended, show last = ".." from up] at leads
    simp only [spot, finalPath, List.getLast?_concat, List.dropLast_concat, notUp, if_false]
    rw [named]
    rfl

/-- What is left of written files when some were given up and the private directory is removed. -/
private theorem left_of_givesUp {moved kept : List AssetFile} {stopped after : FileTree}
    (grounded : tree.Grounded) (absent : tree.at? source = none)
    (lays : Lays staging (moved ++ kept) base staged)
    (present : LeadsSomewhere base staging)
    (givesUp : GivesUp directory (moved.map (stagedPath staging)) staged stopped)
    (clears : stopped.Touches (source <+: ·) after)
    (empty : ∀ place, source <+: place → after.at? place = none)
    (files : ∀ place mode data, base.at? place = some (.file mode data) ↔
      tree.at? place = some (.file mode data)) (place : Place) (mode : Nat) (data : Octets) :
    after.at? place = some (.file mode data) ↔
      (∀ file ∈ moved, place ≠ finalPlace base.workingDirectory directory file) ∧
        (tree.at? place = some (.file mode data) ∨
          ∃ file ∈ kept, spot base.workingDirectory (stagedPath staging file) = .place place ∧
            ¬ source <+: place ∧ file.mode = mode ∧ file.data = data) := by
  have start := lays.adds.workingDirectory
  have belongs {file : AssetFile} (member : file ∈ moved) :
      spot base.workingDirectory (finalPath directory (stagedPath staging file)) = .place place ↔
        place = finalPlace base.workingDirectory directory file :=
    spot_finalPath_iff lays present (List.mem_append_left kept member)
  have remains : after.at? place = some (.file mode data) ↔
      ¬ source <+: place ∧ stopped.at? place = some (.file mode data) := by
    by_cases inside : source <+: place
    · rw [empty place inside]
      exact ⟨nofun, fun both => absurd inside both.1⟩
    · rw [clears.spared inside]
      exact (and_iff_right inside).symm
  rw [remains, givesUp.file_iff, lays.file_iff, files, start]
  constructor
  · rintro ⟨outside, known, apart⟩
    refine ⟨fun file member isPlace => ?_, known.imp_right ?_⟩
    · exact (apart _ (List.mem_map_of_mem member)).2 ((belongs member).mpr isPlace)
    · rintro ⟨file, written, leads, sameMode, sameData⟩
      rcases List.mem_append.mp written with inMoved | inKept
      · exact absurd leads (apart _ (List.mem_map_of_mem inMoved)).1
      · exact ⟨file, inKept, leads, outside, sameMode, sameData⟩
  · rintro ⟨apart, known⟩
    have outside : ¬ source <+: place := by
      rcases known with known | ⟨-, -, -, outside, -⟩
      · exact not_below grounded absent known
      · exact outside
    refine ⟨outside, known.imp_right ?_, fun path member => ?_⟩
    · rintro ⟨file, inKept, leads, -, same⟩
      exact ⟨file, List.mem_append_right _ inKept, leads, same⟩
    · obtain ⟨file, inMoved, rfl⟩ := List.mem_map.mp member
      refine ⟨fun leads => ?_, fun leads => apart file inMoved ((belongs inMoved).mp leads)⟩
      rcases known with known | ⟨other, inKept, leadsOther, -⟩
      · obtain ⟨place', leads', absentThere, -⟩ :=
          lays.stands file (List.mem_append_left _ inMoved)
        cases leads.symm.trans leads'
        cases absentThere.symm.trans ((files _ _ _).mpr known)
      · have unlike := (List.pairwise_append.mp lays.apart).2.2 file inMoved other inKept
        exact unlike (leads.trans leadsOther.symm)

end Ending

/-- A tree in which a private directory was made, and before that directories on the way to the output
directory. -/
structure OpensAt (outputDir staging : Path) (source : Place) (tree base : FileTree) : Prop where
  wellFormed : base.WellFormed
  absent : tree.at? source = none
  located : base.locate staging = .ok (.place source)
  present : ∃ mode, base.at? source = some (.directory mode)
  performs : Performs (fun change => ∃ place mode, change = .makeDirectory place mode ∧
    (OnWay tree.workingDirectory outputDir place ∨
      spot tree.workingDirectory staging = .place place)) tree base
  file_iff : ∀ place mode data, base.at? place = some (.file mode data) ↔
    tree.at? place = some (.file mode data)

private theorem opensAt_of_absent {outputDir staging : Path} {source : Place} {tree : FileTree}
    {mode : Nat}
    (wellFormed : tree.WellFormed)
    (located : (outcome (Storing.ensureDirectories outputDir) tree).2.locate staging =
      .ok (.place source))
    (absent : (outcome (Storing.ensureDirectories outputDir) tree).2.at? source = none) :
    OpensAt outputDir staging source tree
      ((outcome (Storing.ensureDirectories outputDir) tree).2.after (.makeDirectory source mode)) := by
  have paved := Storing.ensureDirectories_paves outputDir tree
  have made := Storing.ensureDirectories_performs outputDir tree
  generalize (outcome (Storing.ensureDirectories outputDir) tree).2 = outer at *
  have readies : Readies staging outer false (outer.after (.makeDirectory source mode)) :=
    .made located absent
  have leads := FileTree.locate_eq_spot located
  rw [paved.adds.workingDirectory] at leads
  refine ⟨(paved.wellFormed wellFormed).makeDirectory located absent, paved.adds.absent absent,
    ?_, ⟨mode, FileTree.at?_after_makeDirectory (FileTree.ne_nil_of_at?_eq_none absent)⟩, ?_,
    fun place fileMode data => readies.file_iff.trans paved.file_iff⟩
  · exact KeepsDirectories.locate_ok ⟨readies.adds.workingDirectory, fun place dirMode known =>
      ⟨dirMode, readies.adds.kept place _ known⟩⟩ located
  · refine (made.mono ?_).trans (.single ⟨source, mode, rfl, .inr leads.symm⟩)
    rintro change ⟨place, dirMode, makes, onWay⟩
    exact ⟨place, dirMode, makes, .inl onWay⟩

namespace OpensAt

variable {outputDir staging directory : Path} {source : Place} {tree base staged : FileTree}
  {files done : List AssetFile}

private theorem workingDirectory (opens : OpensAt outputDir staging source tree base) :
    base.workingDirectory = tree.workingDirectory :=
  opens.performs.workingDirectory

private theorem leads (opens : OpensAt outputDir staging source tree base) :
    spot tree.workingDirectory staging = .place source := by
  rw [← opens.workingDirectory]
  exact (FileTree.locate_eq_spot opens.located).symm

private theorem leadsSomewhere (opens : OpensAt outputDir staging source tree base) :
    LeadsSomewhere base staging := by
  obtain ⟨mode, known⟩ := opens.present
  exact ⟨source, _, (FileTree.locate_eq_spot opens.located).symm, known⟩

private theorem stages (opens : OpensAt outputDir staging source tree base)
    (lays : Lays staging done base staged) (within : ∀ file ∈ done, file ∈ files) :
    Performs (StagesAt tree.workingDirectory outputDir staging files) tree staged := by
  refine (opens.performs.mono fun change => .inl).trans (lays.performs.mono fun change writes => ?_)
  rw [opens.workingDirectory] at writes
  cases change with
  | makeDirectory | move | remove => exact writes.elim
  | createFile | setMode | write =>
    obtain ⟨file, written, leads⟩ := writes
    exact .inr ⟨file, within file written, leads⟩

/-- Committing written files, or giving them up, and removing the private directory. -/
theorem commits (opens : OpensAt outputDir staging source tree base)
    (lays : Lays staging done base staged) (within : ∀ file ∈ done, file ∈ files) {paths : List Path}
    (ofFiles : ∀ path ∈ paths, ∃ file ∈ done, path = stagedPath staging file) {last after : FileTree}
    (performs : Performs (CommitsOneOf staged.workingDirectory directory paths) staged last)
    (removed : outcome (Storing.removeTree staging) last = (.ok (), after)) :
    Performs (CommitsAt tree.workingDirectory staging directory source files) staged after := by
  have start : staged.workingDirectory = tree.workingDirectory :=
    lays.adds.workingDirectory.trans opens.workingDirectory
  have removes := Storing.removeTree_performs staging last
  rw [removed, performs.workingDirectory, start] at removes
  rw [start] at performs
  refine (performs.mono fun change commits => ?_).trans (removes.mono ?_)
  · cases change with
    | makeDirectory | createFile | setMode | write => exact commits
    | remove place => exact .inl commits
    | move place target =>
      obtain ⟨path, member, leads, belongs⟩ := commits
      obtain ⟨file, written, rfl⟩ := ofFiles path member
      rw [← opens.workingDirectory] at belongs
      have final := (spot_finalPath_iff lays opens.leadsSomewhere written).mp belongs
      rw [opens.workingDirectory] at final
      exact ⟨file, within file written, leads, final⟩
  · rintro change ⟨place, rfl, root, leads, above⟩
    rw [opens.leads] at leads
    cases leads
    exact .inr above

private theorem settles_of_ok (opens : OpensAt outputDir staging source tree base)
    (lays : Lays staging files base staged) {last after : FileTree}
    (performs : Performs (CommitsOneOf base.workingDirectory directory
      (files.map (stagedPath staging))) staged last)
    (removed : outcome (Storing.removeTree staging) last = (.ok (), after))
    (serials : List (String × String)) :
    Settles files outputDir staging directory source tree
      (.ok ⟨directory, (files.map (stagedPath staging)).map (finalPath directory), serials⟩) after := by
  have ofFiles : ∀ path ∈ files.map (stagedPath staging),
      ∃ file ∈ files, path = stagedPath staging file := by
    intro path member
    obtain ⟨file, inFiles, rfl⟩ := List.mem_map.mp member
    exact ⟨file, inFiles, rfl⟩
  rw [← lays.adds.workingDirectory] at performs
  refine ⟨opens.leads, opens.absent, ⟨staged, opens.stages lays fun _ => id,
    opens.commits lays (fun _ => id) ofFiles performs removed⟩, ?_, nofun⟩
  rintro publication ⟨⟩
  have paths : (files.map (stagedPath staging)).map (finalPath directory) = files.map fun file =>
      ⟨directory.slashes, directory.steps ++ [(Path.ofText file.filename).name]⟩ := by
    rw [List.map_map]
    refine List.map_congr_left fun file member => ?_
    rw [Function.comp, finalPath, lays.name_stagedPath opens.leadsSomewhere file member]
  refine ⟨paths, ?_⟩
  have together : (files.map fun file => (Path.ofText file.filename).name).map
      (fun name => (⟨directory.slashes, directory.steps ++ [name]⟩ : Path)) =
        (files.map (stagedPath staging)).map (finalPath directory) := by
    rw [paths, List.map_map]
    rfl
  have injective : Function.Injective fun name =>
      (⟨directory.slashes, directory.steps ++ [name]⟩ : Path) := by
    intro name other same
    exact (FileTree.concat_inj (Path.mk.inj same).2).2
  rw [← together]
  exact List.nodup_map_iff injective

private theorem settles_of_error (opens : OpensAt outputDir staging source tree base)
    (grounded : tree.Grounded) {moved kept rest : List AssetFile} (split : files = moved ++ kept ++ rest)
    (lays : Lays staging (moved ++ kept) base staged) {stopped after : FileTree}
    (givesUp : GivesUp directory (moved.map (stagedPath staging)) staged stopped)
    (removed : outcome (Storing.removeTree staging) stopped = (.ok (), after)) (fault : RunFault) :
    Settles files outputDir staging directory source tree (.error fault) after := by
  have within : ∀ file ∈ moved ++ kept, file ∈ files := by
    intro file member
    rw [split]
    exact List.mem_append_left rest member
  have ofFiles : ∀ path ∈ moved.map (stagedPath staging),
      ∃ file ∈ moved ++ kept, path = stagedPath staging file := by
    intro path member
    obtain ⟨file, inMoved, rfl⟩ := List.mem_map.mp member
    exact ⟨file, List.mem_append_left kept inMoved, rfl⟩
  refine ⟨opens.leads, opens.absent, ⟨staged, opens.stages lays within,
    opens.commits lays within ofFiles givesUp.performs removed⟩, nofun, ?_⟩
  rintro _ ⟨⟩
  refine ⟨moved, kept, rest, split, ?_⟩
  -- the private directory is still where its path leads, as no directory was given up
  have directories (place : Place) (mode : Nat)
      (known : base.at? place = some (.directory mode)) :
      stopped.at? place = some (.directory mode) :=
    givesUp.directories place mode (lays.adds.kept place _ known)
  obtain ⟨mode, known⟩ := opens.present
  have located : stopped.locate staging = .ok (.place source) := by
    refine KeepsDirectories.locate_ok ⟨?_, fun place dirMode there =>
      ⟨dirMode, directories place dirMode there⟩⟩ opens.located
    rw [givesUp.performs.workingDirectory, lays.adds.workingDirectory]
  obtain ⟨last, ran, clears, empty⟩ := Storing.removeTree_clears located
    (FileTree.ne_nil_of_at?_eq_none opens.absent) (directories source mode known)
  cases ran.symm.trans removed
  have left := left_of_givesUp grounded opens.absent lays opens.leadsSomewhere givesUp clears empty
    opens.file_iff
  rwa [opens.workingDirectory] at left

end OpensAt

/-- If every name leads into the private directory, a publication that fails leaves no file. -/
private theorem Settles.none_left {files : List AssetFile} {outputDir staging directory : Path}
    {source : Place} {tree after : FileTree} {ended : Except RunFault Publication}
    (settles : Settles files outputDir staging directory source tree ended after)
    (inside : ∀ file ∈ files, ∀ place,
      spot tree.workingDirectory (stagedPath staging file) = .place place → source <+: place)
    (fault : RunFault) (failed : ended = .error fault) (place : Place) (mode : Nat) (data : Octets)
    (known : after.at? place = some (.file mode data)) : tree.at? place = some (.file mode data) := by
  obtain ⟨moved, kept, rest, rfl, left⟩ := settles.left fault failed
  rcases ((left place mode data).mp known).2 with there | ⟨file, inKept, leads, outside, -⟩
  · exact there
  · have member : file ∈ moved ++ kept ++ rest :=
      List.mem_append_left rest (List.mem_append_right moved inKept)
    exact absurd (inside file member place leads) outside

/-- In a tree in which directories are nested, a publication of files with any names fails before it has
a private directory, and makes nothing but directories on the way to the output directory; or it
settles. If it fails and every name leads into the private directory, no file is left but those that were
there before. -/
theorem write_settles (parents : Parents ε) (generated : List String) (outputDir : Path)
    (tlsDir : String) (suffixes : List String) (site : Site σ) (wellFormed : site.tree.WellFormed) :
    let files := filesOf parents generated
    let ended := outcome (write parents generated outputDir tlsDir suffixes) site
    let after := ended.2.tree
    ((∃ fault, ended.1 = .error fault) ∧
      Performs (fun change => ∃ place mode, change = .makeDirectory place mode ∧
        OnWay site.tree.workingDirectory outputDir place) site.tree after ∧
      ∀ place mode data, after.at? place = some (.file mode data) ↔
        site.tree.at? place = some (.file mode data)) ∨
    ∃ name ∈ stagingNames tlsDir suffixes, ∃ source,
      Settles files outputDir (outputDir.join (Path.ofText name)) (outputDir.join (Path.ofText tlsDir))
        source site.tree ended.1 after ∧
      ((∀ file ∈ files, ∀ place, spot site.tree.workingDirectory
          (stagedPath (outputDir.join (Path.ofText name)) file) = .place place → source <+: place) →
        ∀ fault, ended.1 = .error fault → ∀ place mode data,
          after.at? place = some (.file mode data) → site.tree.at? place = some (.file mode data)) := by
  intro files ended after
  have paved := Storing.ensureDirectories_paves outputDir site.tree
  have made := Storing.ensureDirectories_performs outputDir site.tree
  rcases write_begins parents generated outputDir tlsDir suffixes site with
    ⟨fault, failed, -⟩ | ⟨name, member, source, dirMode, located, absent, closing⟩
  · left
    simp only [ended, after, failed]
    exact ⟨⟨_, rfl⟩, made, fun _ _ _ => paved.file_iff⟩
  right
  refine ⟨name, member, source, ?_⟩
  have opens : OpensAt outputDir (outputDir.join (Path.ofText name)) source site.tree
      ((outcome (Storing.ensureDirectories outputDir) site.tree).2.after
        (.makeDirectory source dirMode)) := opensAt_of_absent wellFormed located absent
  generalize (outcome (Storing.ensureDirectories outputDir) site.tree).2.after
    (.makeDirectory source dirMode) = base at opens closing
  generalize outputDir.join (Path.ofText name) = staging at opens closing ⊢
  generalize outputDir.join (Path.ofText tlsDir) = directory at closing ⊢
  have settled : Settles files outputDir staging directory source site.tree ended.1 after := by
    rcases publish_ends_anywhere parents generated staging directory { site with tree := base }
      opens.wellFormed with ⟨staged, last, published, lays, performs⟩ |
      ⟨fault, stopped, moved, kept, rest, staged, published, split, lays, givesUp⟩
    · obtain ⟨final, removed, -⟩ := Storing.removeTree_spec staging last
      obtain ⟨workshop, written⟩ := (closing _ _ published removed).2 _ _ rfl
      simp only [ended, after, written]
      exact opens.settles_of_ok lays performs removed _
    · obtain ⟨final, removed, -⟩ := Storing.removeTree_spec staging stopped.tree
      have written := (closing _ _ published removed).1 _ rfl
      simp only [ended, after, written]
      exact opens.settles_of_error wellFormed.grounded split lays givesUp removed _
  exact ⟨settled, fun inside => settled.none_left inside⟩

/-- An empty tree. -/
def strayingSite : Site Unit where
  workshop := ⟨.fresh ⟨fun _ => .error (.refused ""), fun _ => 0⟩ ⟨0⟩, [], ()⟩
  tree := { entries := [], workingDirectory := [], umask := 0o022, history := [] }

/-- One generated asset with a file whose name leads out of the directory it is taken from, and one whose
name leads into a directory that is not there. -/
def strays : Parents Unit :=
  ⟨[("pair", ⟨"pair", "pair", [], .custom (some [.make "../a.crt" (Octets.ofText "a") 0o644,
    .make "b/c.crt" (Octets.ofText "c") 0o644]) ()⟩)]⟩

/-- A publication of the two files: the first is written, the second cannot be. -/
def strayingWrite : Except RunFault Publication × Site Unit :=
  outcome (write strays ["pair"] (Path.ofText "out") "tls" ["x"]) strayingSite

private theorem strayingSite_wellFormed : strayingSite.tree.WellFormed :=
  ⟨FileTree.grounded_of_entries (by decide), _, FileTree.at?_nil⟩

private theorem strayingWrite_error :
    strayingWrite.1 = .error (.storage (.refused .missing "out/.tls-x/b/c.crt" none)) :=
  Run.eq_error_of_storageFault? (by decide +kernel)

private theorem strayingWrite_file :
    strayingWrite.2.tree.at? ["out", "a.crt"] = some (.file 0o644 (Octets.ofText "a")) := by
  decide +kernel

/-- The publication of the two files has a private directory, and what it leaves is as it has to be. -/
theorem strayingWrite_settles :
    ∃ source, Settles (filesOf strays ["pair"]) (Path.ofText "out")
      ((Path.ofText "out").join (Path.ofText ".tls-x")) ((Path.ofText "out").join (Path.ofText "tls"))
      source strayingSite.tree strayingWrite.1 strayingWrite.2.tree := by
  rcases write_settles strays ["pair"] (Path.ofText "out") "tls" ["x"] strayingSite
    strayingSite_wellFormed with ⟨-, -, same⟩ | ⟨name, member, source, settles, -⟩
  · cases (same ["out", "a.crt"] 0o644 (Octets.ofText "a")).mp strayingWrite_file
  · obtain rfl := List.mem_singleton.mp member
    exact ⟨source, settles⟩

/-- The publication of the two files fails and leaves the first beside the final directory. -/
theorem strayingWrite_leaves_file :
    (∃ fault, strayingWrite.1 = .error fault) ∧
      strayingSite.tree.at? ["out", "a.crt"] = none ∧
      ∃ mode data, strayingWrite.2.tree.at? ["out", "a.crt"] = some (.file mode data) :=
  ⟨⟨_, strayingWrite_error⟩, by decide, _, _, strayingWrite_file⟩

end Publication

end CertGraph
