import CertGraph.Proofs.Cluster.Resolving
import CertGraph.Proofs.CommandLine.Performing

/- How a command ends that is asked for something: its exit code says whether everything is published or
nothing is left, unless the request lacks a value. -/
set_option autoImplicit false
set_option relaxedAutoImplicit false

namespace CertGraph.CommandLine

open FileTree (goal)
open Publication (LeftOnWay Publishes filesOf)

variable {σ : Type}

/-- What a command comes to, by how doing what was asked for ended. -/
def answer : Except RunFault Unit → Except RunFault Outcome
  | .ok () => .ok ⟨0, none⟩
  | .error fault => if fault.isReported then .ok ⟨1, none⟩ else .error fault

section

variable {result : Except RunFault Unit}

private theorem answer_eq_error_iff {fault : RunFault} :
    answer result = .error fault ↔ result = .error fault ∧ fault.isReported = false := by
  rcases result with other | ⟨⟩
  · by_cases reported : other.isReported
    · simp only [answer, reported, if_true, reduceCtorEq, Except.error.injEq, false_iff, not_and]
      rintro rfl
      rw [reported]
      nofun
    · simp only [answer, reported, Bool.false_eq_true, if_false, Except.error.injEq]
      exact ⟨fun same => ⟨same, same ▸ eq_false_of_ne_true reported⟩, And.left⟩
  · simp [answer]

private theorem answer_eq_zero_iff : answer result = .ok ⟨0, none⟩ ↔ result = .ok () := by
  rcases result with fault | ⟨⟩
  · by_cases reported : fault.isReported <;> simp [answer, reported]
  · simp [answer]

private theorem answer_cases {done : Outcome} (answered : answer result = .ok done) :
    done = ⟨0, none⟩ ∨ done = ⟨1, none⟩ ∧ ∃ fault, result = .error fault := by
  rcases result with fault | ⟨⟩
  · refine .inr ?_
    by_cases reported : fault.isReported
    · simp only [answer, reported, if_true, Except.ok.injEq] at answered
      exact ⟨answered.symm, fault, rfl⟩
    · simp [answer, reported] at answered
  · exact .inl (Except.ok.inj answered).symm

end

private theorem outcome_execute (request : Request) (suffixes : List String) (site : Site σ) :
    (outcome (execute request suffixes) site).1 =
        answer (outcome (perform request suffixes) site).1 ∧
      (outcome (execute request suffixes) site).2.tree =
        (outcome (perform request suffixes) site).2.tree := by
  rw [execute, outcome_tryCatch, outcome_bind]
  rcases outcome (perform request suffixes) site with ⟨fault | ⟨⟩, after⟩
  · cases fault with
    | failure failure => exact ⟨rfl, rfl⟩
    | storage fault => cases fault <;> exact ⟨rfl, rfl⟩
    | targetMissing => exact ⟨rfl, rfl⟩
    | directoryMissing => exact ⟨rfl, rfl⟩
  · exact ⟨rfl, rfl⟩

section

variable {request : Request} {suffixes : List String} {site : Site σ}

/-- What gets out is raised for want of a value, and nothing has changed. -/
private theorem execute_error (wellFormed : site.tree.WellFormed)
    (plain : ∀ suffix ∈ suffixes, Path.Plain suffix) {fault : RunFault}
    (raised : (outcome (execute request suffixes) site).1 = .error fault) :
    ((∃ config executor resolved, request.Resolves site config executor resolved) ∧
      request.Lacks) ∧ (outcome (execute request suffixes) site).2.tree = site.tree := by
  obtain ⟨answered, sameTree⟩ := outcome_execute request suffixes site
  obtain ⟨failed, unreported⟩ := answer_eq_error_iff.mp (answered.symm.trans raised)
  have performs := request.performs suffixes site
  rw [failed] at performs
  obtain ⟨⟨config, executor, resolved, resolves⟩, lacks⟩ :=
    performs.lacks unreported wellFormed plain
  obtain ⟨other, -, stopped⟩ := resolves.perform_of_lacks lacks
  rw [sameTree, stopped, resolves.tree]
  exact ⟨⟨⟨config, executor, resolved, resolves⟩, lacks⟩, rfl⟩

private theorem execute_of_lacks {config : InstallConfig} {executor : Executor Unit} {resolved : Site σ}
    (resolves : request.Resolves site config executor resolved) (lacks : request.Lacks) :
    ∃ fault, (outcome (execute request suffixes) site).1 = .error fault := by
  obtain ⟨fault, unreported, failed⟩ := resolves.perform_of_lacks lacks
  obtain ⟨answered, -⟩ := outcome_execute request suffixes site
  rw [failed] at answered
  exact ⟨fault, answered.trans (answer_eq_error_iff.mpr ⟨rfl, unreported⟩)⟩

private theorem completes_of_execute
    (zero : (outcome (execute request suffixes) site).1 = .ok ⟨0, none⟩) :
    ∃ executor outputDir publication last,
      request.Completes suffixes site executor outputDir publication last := by
  obtain ⟨answered, -⟩ := outcome_execute request suffixes site
  have performs := request.performs suffixes site
  rw [answer_eq_zero_iff.mp (answered.symm.trans zero)] at performs
  cases performs with
  | completed executor outputDir publication last _ completes =>
    exact ⟨executor, outputDir, publication, last, completes⟩

private theorem execute_of_completes {executor : Executor Unit} {outputDir : Path}
    {publication : Publication} {last : Site σ}
    (completes : request.Completes suffixes site executor outputDir publication last) :
    (outcome (execute request suffixes) site).1 = .ok ⟨0, none⟩ ∧
      (outcome (execute request suffixes) site).2.tree = last.tree := by
  obtain ⟨stopped, performed, kept⟩ := completes.perform
  obtain ⟨answered, sameTree⟩ := outcome_execute request suffixes site
  rw [performed] at answered sameTree
  exact ⟨answered, sameTree.trans kept⟩

/-- What is reported leaves nothing where it changed anything, except on the way to the output
directory. -/
private theorem execute_one (wellFormed : site.tree.WellFormed)
    (plain : ∀ suffix ∈ suffixes, Path.Plain suffix)
    (one : (outcome (execute request suffixes) site).1 = .ok ⟨1, none⟩) :
    site.tree.Touches (fun place =>
      (outcome (execute request suffixes) site).2.tree.at? place = none ∨
        ∃ outputDir, request.outputDir = some outputDir ∧ LeftOnWay outputDir site.tree
          (outcome (execute request suffixes) site).2.tree place)
      (outcome (execute request suffixes) site).2.tree := by
  obtain ⟨answered, sameTree⟩ := outcome_execute request suffixes site
  have performs := request.performs suffixes site
  rcases answer_cases (answered.symm.trans one) with impossible | ⟨-, fault, failed⟩
  · cases impossible
  · rw [failed] at performs
    rw [sameTree]
    exact performs.withdraws wellFormed plain

end

/-- How a command ends that is asked for something, whatever the clock, the keys and the random numbers
are. It ends in an exception exactly if the settings are valid and the targets resolve, but a target or
the output directory has no value, or the path of that holds a zero character; then nothing has
changed. Else its exit code is zero or one. It is zero exactly if the settings are valid, all targets
resolve and the publication returns, and then every file of every generated asset stands in the final
directory. When it is one, nothing is left at any place that was changed, except directories on the way
to the output directory; so if that way never leads up, all that stands below the output directory
stood there before. -/
theorem run_ends {arguments suffixes : List String} {request : Request} {site : Site σ}
    (accepted : read arguments = .request request) (wellFormed : site.tree.WellFormed)
    (plain : ∀ suffix ∈ suffixes, Path.Plain suffix) :
    let ended := outcome (run arguments suffixes) site
    let after := ended.2.tree
    ((∃ fault, ended.1 = .error fault) ↔
      (∃ config executor resolved, request.Resolves site config executor resolved) ∧
        request.Lacks) ∧
    (∀ fault, ended.1 = .error fault → after = site.tree) ∧
    (∀ done, ended.1 = .ok done → done = ⟨0, none⟩ ∨ done = ⟨1, none⟩) ∧
    (ended.1 = .ok ⟨0, none⟩ ↔ ∃ executor outputDir publication last,
      request.Completes suffixes site executor outputDir publication last) ∧
    (∀ executor outputDir publication last,
      request.Completes suffixes site executor outputDir publication last →
        Publishes (filesOf executor.parents executor.generated) outputDir Cluster.defaultTlsDir
          site.tree publication after) ∧
    (ended.1 = .ok ⟨1, none⟩ →
      site.tree.Touches (fun place => after.at? place = none ∨
        ∃ outputDir, request.outputDir = some outputDir ∧
          LeftOnWay outputDir site.tree after place) after ∧
      ∀ outputDir, request.outputDir = some outputDir → ".." ∉ outputDir.steps → ∀ name place,
        goal site.tree.workingDirectory outputDir ++ [name] <+: place →
          after.at? place = none ∨ after.at? place = site.tree.at? place) := by
  have executed : (run arguments suffixes : Run σ Outcome) = execute request suffixes := by
    rw [run, accepted]
  rw [executed]
  intro ended after
  refine ⟨⟨?_, ?_⟩, ?_, ?_, ⟨completes_of_execute, ?_⟩, ?_, fun one => ?_⟩
  · rintro ⟨fault, raised⟩
    exact (execute_error wellFormed plain raised).1
  · rintro ⟨⟨config, executor, resolved, resolves⟩, lacks⟩
    exact execute_of_lacks resolves lacks
  · exact fun fault raised => (execute_error wellFormed plain raised).2
  · intro done returned
    obtain ⟨answered, -⟩ := outcome_execute request suffixes site
    exact (answer_cases (answered.symm.trans returned)).imp_right And.left
  · rintro ⟨executor, outputDir, publication, last, completes⟩
    exact (execute_of_completes completes).1
  · intro executor outputDir publication last completes
    have published := completes.publishes wellFormed plain
    rwa [← (execute_of_completes completes).2] at published
  · have touches := execute_one wellFormed plain one
    refine ⟨touches, fun outputDir given down name place below => ?_⟩
    by_cases gone : after.at? place = none
    · exact .inl gone
    · refine .inr (touches.spared ?_)
      rintro (absent | ⟨otherDir, givenAgain, left⟩)
      · exact gone absent
      · cases given.symm.trans givenAgain
        exact left.not_below down below

/-- Arguments that ask for one signer with a short key. -/
def modest : List String :=
  ["--service-cidr", "10.0.0.0/16", "--api-address", "api.example.com", "--target", "kube-ca",
    "--key-size", "1128"]

/-- Arguments with a target that has no value. -/
def untargeted : List String :=
  ["--service-cidr", "10.0.0.0/16", "--api-address", "api.example.com", "--target=--"]

private theorem steadySite_wellFormed : Cluster.steadySite.tree.WellFormed :=
  ⟨FileTree.grounded_of_entries (by decide), _, FileTree.at?_nil⟩

private theorem modest_answer :
    (outcome (run modest ["x"]) Cluster.steadySite).1.toOption = some ⟨0, none⟩ := by
  decide +kernel

/-- The signer is published with exit code zero; where the target has no value, nothing changes. -/
theorem modest_ends :
    (∃ (executor : Executor Unit) (outputDir : Path) (publication : Publication),
      Publishes (filesOf executor.parents executor.generated) outputDir Cluster.defaultTlsDir
        Cluster.steadySite.tree publication (outcome (run modest ["x"]) Cluster.steadySite).2.tree) ∧
    ∀ fault, (outcome (run untargeted ["x"]) Cluster.steadySite).1 = .error fault →
      (outcome (run untargeted ["x"]) Cluster.steadySite).2.tree = Cluster.steadySite.tree := by
  constructor
  · obtain ⟨request, accepted⟩ : ∃ request, read modest = .request request := ⟨_, rfl⟩
    have answered := modest_answer
    have ends := @run_ends Unit modest ["x"] request Cluster.steadySite accepted
      steadySite_wellFormed (by decide)
    dsimp only at ends
    -- unfolding what is published would run it
    generalize outcome (run modest ["x"]) Cluster.steadySite = ended at answered ends ⊢
    obtain ⟨fault | done, after⟩ := ended
    · cases answered
    · cases answered
      obtain ⟨-, -, -, zero, publishes, -⟩ := ends
      obtain ⟨executor, outputDir, publication, last, completes⟩ := zero.mp rfl
      exact ⟨executor, outputDir, publication, publishes _ _ _ _ completes⟩
  · obtain ⟨request, accepted⟩ : ∃ request, read untargeted = .request request := ⟨_, rfl⟩
    obtain ⟨-, unchanged, -⟩ := @run_ends Unit untargeted ["x"] request Cluster.steadySite accepted
      steadySite_wellFormed (by decide)
    exact unchanged

/-- A target without a value is accepted, and so is an output directory whose path holds a zero
character; nothing is returned. -/
theorem untargeted_raises :
    ((∃ request, read untargeted = .request request) ∧
      (outcome (run untargeted ["x"]) Cluster.steadySite).1 = .error .targetMissing) ∧
    (∃ request, read (modest ++ ["--output-dir", "a\x00b"]) = .request request) ∧
      (outcome (run (modest ++ ["--output-dir", "a\x00b"]) ["x"])
        Cluster.steadySite).1.toOption = none := by
  refine ⟨⟨⟨_, rfl⟩, rfl⟩, ⟨_, rfl⟩, ?_⟩
  decide +kernel

end CertGraph.CommandLine
