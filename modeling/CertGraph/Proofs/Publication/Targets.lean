import CertGraph.Proofs.Resolution.Closure
import CertGraph.Publication

/- Resolving all targets of a publication: what is recorded afterwards is their closure. -/
set_option autoImplicit false
set_option relaxedAutoImplicit false

namespace CertGraph

open Relation (ReflTransGen)

variable {σ ε : Type}

namespace Publication

/-- What holds of a session after targets were resolved in another one. -/
structure Resolves (catalog : Catalog σ ε) (targets : List String) (session after : Session σ ε) :
    Prop where
  idle : after.Idle
  orderly : after.executor.Orderly
  made : after.Made catalog
  grown : session.Grown after
  targeted : ∀ target ∈ targets, target ∈ after.executor.generated
  reached : ∀ key ∈ after.executor.generated, key ∈ session.executor.generated ∨
    ∃ target ∈ targets, ReflTransGen after.executor.Depends target key

private theorem resolveAll_resolves {catalog : Catalog σ ε} {targets : List String}
    {session after : Session σ ε} (idle : session.Idle) (orderly : session.executor.Orderly)
    (made : session.Made catalog)
    (resolved : outcome (resolveAll catalog targets) session = (.ok (), after)) :
    Resolves catalog targets session after := by
  induction targets generalizing session with
  | nil =>
    cases resolved
    exact ⟨idle, orderly, made, .refl _, nofun, fun key member => .inl member⟩
  | cons target targets ih =>
    obtain ⟨node, middle, first, rest⟩ := outcome_bind_ok resolved
    have ran : Runs catalog (.target (.key target)) session (Resolution.call catalog (.key target)
      session).1 (Resolution.call catalog (.key target) session).2 :=
      Resolution.call_runs (.key target) idle
    rw [Resolution.call, first] at ran
    have idleMiddle : middle.Idle :=
      ⟨(ran.steady_and_kept idle.steady trivial).1.own, ran.stack_eq.trans idle.stack_nil⟩
    have orderlyMiddle := ran.orderly idle.steady trivial orderly
    have recorded := (ran.steady_and_kept idle.steady trivial).2 node rfl
    have resolves := ih idleMiddle orderlyMiddle (ran.made_of_declared trivial made) rest
    refine ⟨resolves.idle, resolves.orderly, resolves.made, ran.grown.trans resolves.grown, ?_, ?_⟩
    · intro other member
      rcases List.mem_cons.mp member with rfl | member
      · exact resolves.orderly.mem_generated_iff.mpr ⟨node, resolves.grown.get? recorded⟩
      · exact resolves.targeted other member
    · intro key member
      rcases resolves.reached key member with inMiddle | ⟨other, isTarget, reaches⟩
      · rcases ran.reached idle.steady trivial trivial rfl key inMiddle with old | reaches
        · exact .inl old
        · exact .inr ⟨target, List.mem_cons_self, resolves.grown.reaches reaches⟩
      · exact .inr ⟨other, List.mem_cons_of_mem _ isTarget, reaches⟩

/-- Once all targets are resolved, exactly their closure is recorded, and the tree is untouched. -/
theorem resolveTargets_ok {catalog : Catalog σ ε} {targets : List String} {site after : Site σ}
    {executor : Executor ε}
    (resolved : outcome (resolveTargets catalog targets) site = (.ok executor, after)) :
    executor.Orderly ∧ (⟨after.workshop, executor⟩ : Session σ ε).Made catalog ∧
      (∀ key, key ∈ executor.generated ↔
        ∃ target ∈ targets, ReflTransGen executor.Depends target key) ∧
      after.tree = site.tree := by
  have fresh : (⟨site.workshop, Executor.fresh⟩ : Session σ ε) = .fresh site.workshop := rfl
  simp only [outcome, resolveTargets, fresh] at resolved
  cases ran : resolveAll catalog targets (.fresh site.workshop) with
  | error failure session =>
    rw [ran] at resolved
    cases resolved
  | ok value session =>
    rw [ran] at resolved
    cases resolved
    have ended : outcome (resolveAll catalog targets) (.fresh site.workshop) = (.ok (), session) := by
      rw [outcome, ran]
    have resolves := resolveAll_resolves (Session.Idle.fresh site.workshop) .fresh
      (Session.made_fresh catalog site.workshop) ended
    refine ⟨resolves.orderly, resolves.made, fun key => ⟨fun member => ?_, ?_⟩, rfl⟩
    · rcases resolves.reached key member with old | reached
      · cases old
      · exact reached
    · rintro ⟨target, isTarget, reaches⟩
      exact resolves.orderly.generated_of_reaches (resolves.targeted target isTarget) reaches

theorem resolveTargets_error {catalog : Catalog σ ε} {targets : List String} {site after : Site σ}
    {fault : RunFault} (failed : outcome (resolveTargets catalog targets) site = (.error fault, after)) :
    (∃ failure, fault = .failure failure) ∧ after.tree = site.tree := by
  simp only [outcome, resolveTargets] at failed
  cases ran : resolveAll catalog targets ⟨site.workshop, Executor.fresh⟩ with
  | ok value session =>
    rw [ran] at failed
    cases failed
  | error failure session =>
    rw [ran] at failed
    cases failed
    exact ⟨⟨failure, rfl⟩, rfl⟩

end Publication

end CertGraph
