import CertGraph.Proofs.Publication.Failure
import CertGraph.Proofs.Publication.Opening

/- What a publication that fails leaves behind: nothing of what it wrote. -/
set_option autoImplicit false
set_option relaxedAutoImplicit false

namespace CertGraph

open FileTree (Paves OnWay WellFormed Touches goal)

variable {σ ε : Type}

namespace Publication

/-- A directory on the way to the output directory; if that way never leads up, it is at or above the
output directory. -/
structure LeftOnWay (outputDir : Path) (tree after : FileTree) (place : Place) : Prop where
  onWay : OnWay tree.workingDirectory outputDir place
  directory : ∃ mode, after.at? place = some (.directory mode)
  above : ".." ∉ outputDir.steps → place <+: goal tree.workingDirectory outputDir

theorem LeftOnWay.not_below {outputDir : Path} {tree after : FileTree} {place : Place}
    (left : LeftOnWay outputDir tree after place) (down : ".." ∉ outputDir.steps) {name : String} :
    ¬ goal tree.workingDirectory outputDir ++ [name] <+: place := by
  intro below
  have short := (below.trans (left.above down)).length_le
  rw [List.length_append, List.length_singleton] at short
  omega

theorem leftOnWay_of_paves {outputDir : Path} {tree middle after : FileTree}
    (paves : Paves (OnWay tree.workingDirectory outputDir) tree middle)
    (kept : ∀ place mode, middle.at? place = some (.directory mode) →
      after.at? place = some (.directory mode)) :
    tree.Touches (LeftOnWay outputDir tree after) middle := by
  refine paves.touches.mono ?_
  rintro place ⟨onWay, mode, known⟩
  exact ⟨onWay, ⟨mode, kept place mode known⟩, onWay.prefix_goal⟩

/-- When a publication was given up and its private directory is gone, nothing is left where anything
was changed, except on the way to the output directory. -/
private theorem Opens.closes {outputDir staging : Path} {tlsDir : String}
    {tree outer base last : FileTree}
    {source : Place} {allowed : Place → Prop}
    (opens : Opens outputDir tlsDir tree outer base staging source) (wellFormed : tree.WellFormed)
    (withdraws : Withdraws source allowed base last) :
    ∃ after, outcome (Storing.removeTree staging) last = (.ok (), after) ∧
      tree.Touches (fun place => (source <+: place ∨ allowed place) ∧ after.at? place = none ∨
        LeftOnWay outputDir tree after place) after := by
  obtain ⟨after, removed, clears, empty⟩ :=
    opens.removed withdraws.touches.workingDirectory withdraws.directories
  have made : outer.Touches (source <+: ·) base := by
    obtain ⟨mode, rfl⟩ := opens.made
    refine .single fun place isSource => ?_
    obtain rfl := List.mem_singleton.mp isSource
    exact List.prefix_rfl
  have gone {place : Place} (inSource : source <+: place) :
      (source <+: place ∨ allowed place) ∧ after.at? place = none :=
    ⟨.inl inSource, empty place inSource⟩
  refine ⟨after, removed, ?_⟩
  refine ((leftOnWay_of_paves opens.paves
    (opens.outer_kept wellFormed withdraws.directories clears)).mono fun _ => .inr).trans
    ((made.mono fun _ inSource => .inl (gone inSource)).trans
      ((withdraws.touches.mono ?_).trans (clears.mono fun _ inSource => .inl (gone inSource))))
  rintro place (inSource | ⟨isAllowed, absent⟩)
  · exact .inl (gone inSource)
  · by_cases inSource : source <+: place
    · exact .inl (gone inSource)
    · refine .inl ⟨.inr isAllowed, ?_⟩
      rw [clears.spared inSource, absent]

/-- A publication that fails leaves nothing where it changed anything, except directories on the way to
the output directory; unless the path of that holds a zero character, an operation was refused. -/
theorem write_withdraws {parents : Parents ε} {generated : List String} {outputDir : Path}
    {tlsDir : String} {suffixes : List String} {site after : Site σ} {fault : RunFault}
    (wellFormed : site.tree.WellFormed) (component : Path.IsComponent tlsDir)
    (plain : ∀ suffix ∈ suffixes, Path.Plain suffix)
    (components : ∀ file ∈ filesOf parents generated, Path.IsComponent file.filename)
    (failed : outcome (write parents generated outputDir tlsDir suffixes) site =
      (.error fault, after)) :
    (∃ stopped, fault = .storage stopped ∧ (outputDir.Clean → stopped ≠ .zeroCharacter)) ∧
      site.tree.Touches (fun place => after.tree.at? place = none ∨
        LeftOnWay outputDir site.tree after.tree place) after.tree := by
  rcases write_opens parents generated outputDir site component plain with
    ⟨stopped, last, ended, paves, notZero⟩ | ⟨outer, base, staging, source, opens, clean, closing⟩
  · cases ended.symm.trans failed
    exact ⟨⟨stopped, rfl, notZero⟩,
      (leftOnWay_of_paves paves fun _ _ known => known).mono fun _ => .inr⟩
  · -- a failure after the private directory was made is withdrawn, and that directory is removed
    have left {last : Site σ} {stopped : StorageFault} {allowed : Place → Prop}
        (published : outcome (publish parents generated staging (outputDir.child tlsDir))
          { site with tree := base } = (.error (.storage stopped), last))
        (withdraws : Withdraws source allowed base last.tree)
        (notZero : outputDir.Clean → stopped ≠ .zeroCharacter) :
        (∃ stopped, fault = .storage stopped ∧ (outputDir.Clean → stopped ≠ .zeroCharacter)) ∧
          site.tree.Touches (fun place => after.tree.at? place = none ∨
            LeftOnWay outputDir site.tree after.tree place) after.tree := by
      obtain ⟨final, removed, touches⟩ := opens.closes wellFormed withdraws
      cases ((closing _ _ published removed).1 _ rfl).symm.trans failed
      exact ⟨⟨stopped, rfl, notZero⟩, touches.mono fun _ => Or.imp_left And.right⟩
    cases opens.publish_ends wellFormed component components site.workshop with
    | unstaged stopped last published refused withdraws =>
      refine left published withdraws fun cleanOutput isZero => ?_
      exact stageFiles_onlyRefuses (clean cleanOutput) components base (isZero ▸ refused)
    | uncommitted nodup stopped last published withdraws notZero =>
      exact left published withdraws fun cleanOutput =>
        notZero (Path.clean_child cleanOutput component)
    | committed nodup staged prepared last existed published =>
      obtain ⟨final, removed, -⟩ := Storing.removeTree_spec staging last
      obtain ⟨workshop, ended⟩ := (closing _ _ published removed).2 _ _ rfl
      cases ended.symm.trans failed

/-- A publication to a path with a zero character is given up before anything changes. -/
theorem write_of_not_clean {outputDir : Path} (unclean : ¬ outputDir.Clean) (parents : Parents ε)
    (generated : List String) (tlsDir : String) (suffixes : List String) (site : Site σ) :
    outcome (write parents generated outputDir tlsDir suffixes) site =
      (.error (.storage .zeroCharacter), site) := by
  simp only [write, outcome_bind, Run.outcome_ofStoring,
    Storing.ensureDirectories_of_not_clean unclean, Except.mapError]

end Publication

end CertGraph
