import CertGraph.CommandLine
import CertGraph.Proofs.Cluster.FileNames

/- Doing what a command is asked for: the targets are resolved and published, or nothing is left; and
what is missed where a request lacks a value. -/
set_option autoImplicit false
set_option relaxedAutoImplicit false

namespace CertGraph

open Publication (LeftOnWay Publishes filesOf)

variable {σ : Type}

/-- Whether a command reports what ended it, and returns. -/
def RunFault.isReported : RunFault → Bool
  | .failure _ => true
  | .storage (.refused _ _ _) => true
  | .storage .zeroCharacter => false
  | .targetMissing => false
  | .directoryMissing => false

namespace CommandLine

/-- A site after the start was reported. -/
def announced (site : Site σ) : Site σ :=
  (outcome (Run.report .info "Generating cluster PKI...") site).2

namespace Request

/-- The targets that are resolved: all that are meant, or those before the first without a value. -/
def ahead (request : Request) : List String :=
  match request.targets.mapM id with
  | some targets => Cluster.wanted targets
  | none => (request.targets.takeWhile Option.isSome).filterMap id

/-- Resolve these targets. -/
def resolving (request : Request) (config : InstallConfig) : Run σ (Executor Unit) :=
  Publication.resolveTargets (Cluster.catalog config request.keySize) request.ahead

/-- The settings are valid, and the targets resolve. -/
structure Resolves (request : Request) (site : Site σ) (config : InstallConfig)
    (executor : Executor Unit) (resolved : Site σ) : Prop where
  configured : request.installConfig = .ok config
  resolved : outcome (request.resolving config) (announced site) = (.ok executor, resolved)

/-- The settings are valid, all targets have values and resolve, and their files are written. -/
structure Completes (request : Request) (suffixes : List String) (site : Site σ)
    (executor : Executor Unit) (outputDir : Path) (publication : Publication) (last : Site σ) :
    Prop where
  named : none ∉ request.targets
  given : request.outputDir = some outputDir
  resolves : ∃ config resolved, request.Resolves site config executor resolved ∧
    outcome (Publication.write executor.parents executor.generated outputDir Cluster.defaultTlsDir
      suffixes) resolved = (.ok publication, last)

/-- A target or the output directory has no value, or the path of that holds a zero character. -/
inductive Lacks (request : Request) : Prop where
  | target (missing : none ∈ request.targets)
  | outputDir (missing : request.outputDir = none)
  | text {outputDir : Path} (given : request.outputDir = some outputDir)
      (unclean : ¬ outputDir.Clean)

private theorem mapM_id_eq_none_iff {α : Type} {values : List (Option α)} :
    values.mapM id = none ↔ none ∈ values := by
  induction values with
  | nil => simp
  | cons value values ih =>
    cases value with
    | none => simp
    | some value =>
      rw [List.mem_cons, ← ih]
      cases rest : values.mapM id <;> simp [rest]

/-- What is done once the targets are resolved. -/
def finish (request : Request) (executor : Executor Unit) (suffixes : List String) :
    Run σ Publication :=
  if none ∈ request.targets then throw .targetMissing
  else match request.outputDir with
    | none => throw .directoryMissing
    | some outputDir =>
      Publication.write executor.parents executor.generated outputDir Cluster.defaultTlsDir suffixes

private theorem publish_eq (config : InstallConfig) (request : Request) (suffixes : List String) :
    (publish config request suffixes : Run σ Publication) =
      request.resolving config >>= fun executor => request.finish executor suffixes := by
  unfold publish resolving ahead finish
  rcases values : request.targets.mapM id with _ | targets
  · have missing := mapM_id_eq_none_iff.mp values
    by_cases named : (request.targets.takeWhile Option.isSome).filterMap id = []
    · simp only [named, missing, if_true, ne_eq, not_true_eq_false, if_false]
      rfl
    · simp only [named, missing, if_true, ne_eq, not_false_eq_true, Cluster.resolve, Cluster.wanted,
        if_false]
  · have named : none ∉ request.targets := by
      rw [← mapM_id_eq_none_iff, values]
      exact Option.some_ne_none targets
    cases request.outputDir with
    | none => simp only [named, if_false, Cluster.resolve]
    | some outputDir => simp only [named, if_false, Cluster.generate, Publication.generate]

/-- Report the serial numbers, and that all is done. -/
def conclude (done : Publication) : Run σ Unit := do
  done.serials.forM fun (key, serial) =>
    Run.report .info ("  " ++ key ++ ": serial " ++ serial)
  Run.report .info ("PKI generation complete: " ++ done.outputDir.text)

private theorem outcome_conclude (done : Publication) (site : Site σ) :
    ∃ workshop, outcome (conclude done) site = (.ok (), { site with workshop := workshop }) := by
  have reports (serials : List (String × String)) (site : Site σ) :
      ∃ workshop, outcome (serials.forM fun (key, serial) =>
        Run.report .info ("  " ++ key ++ ": serial " ++ serial)) site =
          (.ok (), { site with workshop := workshop }) := by
    induction serials generalizing site with
    | nil => exact ⟨site.workshop, rfl⟩
    | cons first serials ih =>
      obtain ⟨workshop, reported⟩ := ih (outcome (Run.report .info
        ("  " ++ first.1 ++ ": serial " ++ first.2)) site).2
      refine ⟨workshop, ?_⟩
      simp only [List.forM, outcome_bind, Run.outcome_report]
      exact reported
  obtain ⟨workshop, reported⟩ := reports done.serials site
  simp only [conclude, outcome_bind, reported, Run.outcome_report]
  exact ⟨_, rfl⟩

variable {request : Request} {suffixes : List String} {site : Site σ}

private theorem outcome_perform {config : InstallConfig}
    (configured : request.installConfig = .ok config) :
    outcome (perform request suffixes) site = outcome (do
      let executor ← request.resolving config
      let done ← request.finish executor suffixes
      conclude done) (announced site) := by
  have started : outcome (perform request suffixes) site = outcome (do
      let done ← publish config request suffixes
      conclude done) (announced site) := by
    simp only [perform, configured]
    rfl
  rw [started, publish_eq, bind_assoc]

namespace Resolves

variable {config : InstallConfig} {executor : Executor Unit} {resolved : Site σ}

theorem tree (resolves : request.Resolves site config executor resolved) :
    resolved.tree = site.tree :=
  (Publication.resolveTargets_ok resolves.resolved).2.2.2

private theorem components (resolves : request.Resolves site config executor resolved) :
    ∀ file ∈ filesOf executor.parents executor.generated, Path.IsComponent file.filename :=
  Cluster.components_of_resolved resolves.resolved

private theorem outcome_perform (resolves : request.Resolves site config executor resolved) :
    outcome (perform request suffixes) site =
      outcome (request.finish executor suffixes >>= conclude) resolved := by
  rw [Request.outcome_perform resolves.configured, outcome_bind, resolves.resolved]

/-- A value that lacks is missed once the targets are resolved, before anything changes. -/
theorem perform_of_lacks (resolves : request.Resolves site config executor resolved)
    (lacks : request.Lacks) :
    ∃ fault, fault.isReported = false ∧
      outcome (perform request suffixes) site = (.error fault, resolved) := by
  rw [resolves.outcome_perform, outcome_bind]
  by_cases missing : none ∈ request.targets
  · simp only [finish, missing, if_true]
    exact ⟨_, rfl, rfl⟩
  · cases lacks with
    | target isMissing => exact absurd isMissing missing
    | outputDir isMissing =>
      simp only [finish, missing, isMissing, if_false]
      exact ⟨_, rfl, rfl⟩
    | text given unclean =>
      simp only [finish, missing, given, if_false, Publication.write_of_not_clean unclean]
      exact ⟨_, rfl, rfl⟩

end Resolves

namespace Completes

variable {executor : Executor Unit} {outputDir : Path} {publication : Publication} {last : Site σ}

theorem perform (completes : request.Completes suffixes site executor outputDir publication last) :
    ∃ after, outcome (CommandLine.perform request suffixes) site = (.ok (), after) ∧
      after.tree = last.tree := by
  obtain ⟨named, given, config, resolved, resolves, written⟩ := completes
  obtain ⟨workshop, concluded⟩ := outcome_conclude publication last
  rw [resolves.outcome_perform, outcome_bind]
  simp only [finish, named, given, if_false, written, concluded]
  exact ⟨_, rfl, rfl⟩

theorem publishes (completes : request.Completes suffixes site executor outputDir publication last)
    (wellFormed : site.tree.WellFormed) (plain : ∀ suffix ∈ suffixes, Path.Plain suffix) :
    Publishes (filesOf executor.parents executor.generated) outputDir Cluster.defaultTlsDir site.tree
      publication last.tree := by
  obtain ⟨-, -, config, resolved, resolves, written⟩ := completes
  rw [← resolves.tree] at wellFormed ⊢
  exact (Publication.write_publishes wellFormed (by decide) plain resolves.components written).1

end Completes

/-- How doing what is asked for can end. -/
inductive Performs (request : Request) (suffixes : List String) (site : Site σ) :
    Except RunFault Unit → Site σ → Prop where
  | misconfigured (fault : ConfigurationFault) (invalid : request.installConfig = .error fault) :
      Performs request suffixes site (.error (.failure (.configuration fault))) site
  | unresolved (config : InstallConfig) (failure : Failure) (stopped : Site σ)
      (failed : outcome (request.resolving config) (announced site) =
        (.error (.failure failure), stopped))
      (sameTree : stopped.tree = site.tree) :
      Performs request suffixes site (.error (.failure failure)) stopped
  | unnamed (config : InstallConfig) (executor : Executor Unit) (resolved : Site σ)
      (resolves : request.Resolves site config executor resolved) (missing : none ∈ request.targets) :
      Performs request suffixes site (.error .targetMissing) resolved
  | undirected (config : InstallConfig) (executor : Executor Unit) (resolved : Site σ)
      (resolves : request.Resolves site config executor resolved)
      (missing : request.outputDir = none) :
      Performs request suffixes site (.error .directoryMissing) resolved
  | unwritten (config : InstallConfig) (executor : Executor Unit) (resolved : Site σ)
      (resolves : request.Resolves site config executor resolved) (outputDir : Path)
      (given : request.outputDir = some outputDir) (fault : RunFault) (stopped : Site σ)
      (failed : outcome (Publication.write executor.parents executor.generated outputDir
        Cluster.defaultTlsDir suffixes) resolved = (.error fault, stopped)) :
      Performs request suffixes site (.error fault) stopped
  | completed (executor : Executor Unit) (outputDir : Path) (publication : Publication)
      (last after : Site σ)
      (completes : request.Completes suffixes site executor outputDir publication last) :
      Performs request suffixes site (.ok ()) after

theorem performs (request : Request) (suffixes : List String) (site : Site σ) :
    Performs request suffixes site (outcome (perform request suffixes) site).1
      (outcome (perform request suffixes) site).2 := by
  rcases configured : request.installConfig with fault | config
  · simp only [perform, configured]
    exact .misconfigured fault configured
  rcases resolved : outcome (request.resolving config) (announced site) with
    ⟨fault | executor, middle⟩
  · rw [outcome_perform configured, outcome_bind, resolved]
    obtain ⟨⟨failure, rfl⟩, sameTree⟩ := Publication.resolveTargets_error resolved
    exact .unresolved config failure middle resolved sameTree
  have resolves : request.Resolves site config executor middle := ⟨configured, resolved⟩
  -- the targets are resolved, and what follows looks at the request alone until it writes
  rw [resolves.outcome_perform, outcome_bind]
  by_cases missing : none ∈ request.targets
  · simp only [finish, missing, if_true]
    exact .unnamed config executor middle resolves missing
  rcases given : request.outputDir with _ | outputDir
  · simp only [finish, missing, given, if_false]
    exact .undirected config executor middle resolves given
  simp only [finish, missing, given, if_false]
  rcases written : outcome (Publication.write executor.parents executor.generated outputDir
    Cluster.defaultTlsDir suffixes) middle with ⟨fault | publication, last⟩
  · exact .unwritten config executor middle resolves outputDir given fault last written
  · obtain ⟨workshop, concluded⟩ := outcome_conclude publication last
    simp only [concluded]
    exact .completed executor outputDir publication last _
      ⟨missing, given, config, middle, resolves, written⟩

namespace Performs

variable {fault : RunFault} {after : Site σ}

/-- What a command does not report is raised for want of a value. -/
theorem lacks (performs : Performs request suffixes site (.error fault) after)
    (unreported : fault.isReported = false) (wellFormed : site.tree.WellFormed)
    (plain : ∀ suffix ∈ suffixes, Path.Plain suffix) :
    (∃ config executor resolved, request.Resolves site config executor resolved) ∧
      request.Lacks := by
  cases performs with
  | misconfigured fault => cases unreported
  | unresolved config failure => cases unreported
  | unnamed config executor _ resolves missing =>
    exact ⟨⟨config, executor, after, resolves⟩, .target missing⟩
  | undirected config executor _ resolves missing =>
    exact ⟨⟨config, executor, after, resolves⟩, .outputDir missing⟩
  | unwritten config executor resolved resolves outputDir given _ _ failed =>
    refine ⟨⟨config, executor, resolved, resolves⟩, .text given fun clean => ?_⟩
    obtain ⟨⟨stopped, rfl, notZero⟩, -⟩ := Publication.write_withdraws
      (resolves.tree.symm ▸ wellFormed) (by decide) plain resolves.components failed
    cases stopped with
    | refused refusal path target => cases unreported
    | zeroCharacter => exact notZero clean rfl

/-- What fails leaves nothing where it changed anything, except on the way to the output directory. -/
theorem withdraws (performs : Performs request suffixes site (.error fault) after)
    (wellFormed : site.tree.WellFormed) (plain : ∀ suffix ∈ suffixes, Path.Plain suffix) :
    site.tree.Touches (fun place => after.tree.at? place = none ∨
      ∃ outputDir, request.outputDir = some outputDir ∧
        LeftOnWay outputDir site.tree after.tree place) after.tree := by
  cases performs with
  | misconfigured => exact .refl _
  | unresolved _ _ _ _ sameTree => exact sameTree ▸ .refl _
  | unnamed _ _ _ resolves => exact resolves.tree ▸ .refl _
  | undirected _ _ _ resolves => exact resolves.tree ▸ .refl _
  | unwritten config executor resolved resolves outputDir given _ _ failed =>
    obtain ⟨-, touches⟩ := Publication.write_withdraws (resolves.tree.symm ▸ wellFormed) (by decide)
      plain resolves.components failed
    rw [resolves.tree] at touches
    exact touches.mono fun _ => Or.imp_right fun left => ⟨outputDir, given, left⟩

end Performs

end Request

end CommandLine

end CertGraph
