import CertGraph.Proofs.Resolution.Calls

/- The order of generation: each key once, and each after everything it depends on. -/
set_option autoImplicit false
set_option relaxedAutoImplicit false

namespace CertGraph

variable {σ ε : Type}

/-- One key stands before another. -/
def Precedes (keys : List String) (first second : String) : Prop :=
  ∃ before after, keys = before ++ second :: after ∧ first ∈ before

private theorem Precedes.extend {keys longer : List String} {first second : String}
    (precedes : Precedes keys first second) (extended : keys <+: longer) :
    Precedes longer first second := by
  obtain ⟨before, after, rfl, member⟩ := precedes
  obtain ⟨more, rfl⟩ := extended
  exact ⟨before, after ++ more, by simp, member⟩

private theorem Precedes.concat {keys : List String} {first : String} (last : String)
    (member : first ∈ keys) : Precedes (keys ++ [last]) first last :=
  ⟨keys, [], rfl, member⟩

/-- The generated keys are those of the assets kept, each once and in order, and each asset stands
under its own key after all that it depends on. -/
structure Executor.Orderly (executor : Executor ε) : Prop where
  nodup : executor.generated.Nodup
  generated_eq : executor.generated = executor.parents.keys
  own : ∀ key node, executor.parents.get? key = some node → node.key = key
  dependencies : ∀ key node, executor.parents.get? key = some node →
    ∀ dependency ∈ node.dependencies, Precedes executor.generated dependency key

namespace Executor.Orderly

theorem fresh : (Executor.fresh : Executor ε).Orderly where
  nodup := List.nodup_nil
  generated_eq := rfl
  own := by rintro _ _ ⟨⟩
  dependencies := by rintro _ _ ⟨⟩

theorem mem_generated_iff {executor : Executor ε} (orderly : executor.Orderly) {key : String} :
    key ∈ executor.generated ↔ ∃ node, executor.parents.get? key = some node := by
  rw [orderly.generated_eq, ← Option.isSome_iff_exists, ← Option.ne_none_iff_isSome, ne_eq,
    Parents.get?_eq_none_iff, not_not]

/-- Keeping an asset whose dependencies are kept already. -/
private theorem keeping {session : Session σ ε} {node : Node ε} (orderly : session.executor.Orderly)
    (absent : session.executor.parents.get? node.key = none)
    (ready : ∀ dependency ∈ node.dependencies,
      ∃ kept, session.executor.parents.get? dependency = some kept) :
    (session.keeping node).executor.Orderly where
  nodup := by
    have unlisted : node.key ∉ session.executor.generated := by
      rw [orderly.generated_eq]
      exact Parents.get?_eq_none_iff.mp absent
    refine List.nodup_append.mpr ⟨orderly.nodup, by simp, ?_⟩
    intro key member last isLast same
    obtain rfl := List.mem_singleton.mp isLast
    exact unlisted (same ▸ member)
  generated_eq := by
    simp [Session.keeping, Parents.keys, orderly.generated_eq]
  own := by
    intro key kept known
    by_cases same : key = node.key
    · subst same
      cases (Parents.get?_concat_self node absent).symm.trans known
      rfl
    · exact orderly.own key kept ((Parents.get?_concat_ne node same).symm.trans known)
  dependencies := by
    intro key kept known dependency member
    by_cases same : key = node.key
    · subst same
      cases (Parents.get?_concat_self node absent).symm.trans known
      exact .concat _ (orderly.mem_generated_iff.mpr (ready dependency member))
    · have old := orderly.dependencies key kept ((Parents.get?_concat_ne node same).symm.trans known)
      exact (old dependency member).extend (List.prefix_append _ _)

end Executor.Orderly

namespace Runs

variable {catalog : Catalog σ ε} {task : Task σ ε} {session after : Session σ ε}
  {result : Except Failure (Node ε)}

theorem orderly (run : Runs catalog task session result after) (steady : session.Steady)
    (ready : task.Ready session) (orderly : session.executor.Orderly) :
    after.executor.Orderly := by
  induction run with
  | reuseKey known =>
    exact ⟨orderly.nodup, orderly.generated_eq, orderly.own, orderly.dependencies⟩
  | reuseAsset known =>
    exact ⟨orderly.nodup, orderly.generated_eq, orderly.own, orderly.dependencies⟩
  | uncreated absent created => exact orderly
  | created absent created rest ih =>
    exact ih ⟨steady.own, steady.nodup, steady.absent⟩ trivial orderly
  | cycle absent stacked => exact orderly
  | visited absent unstacked rest ih =>
    exact ih (steady.push absent unstacked) (.pushed _ _)
      ⟨orderly.nodup, orderly.generated_eq, orderly.own, orderly.dependencies⟩
  | fetched first rest ihFirst ihRest =>
    obtain ⟨steadyMiddle, kept⟩ := first.steady_and_kept steady trivial
    exact ihRest steadyMiddle (ready.fetched first.grown first.stack_eq (kept _ rfl))
      (ihFirst steady trivial orderly)
  | unfetched first ih =>
    have middle := ih steady trivial orderly
    exact ⟨middle.nodup, middle.generated_eq, middle.own, middle.dependencies⟩
  | broken failed =>
    exact ⟨orderly.nodup, orderly.generated_eq, orderly.own, orderly.dependencies⟩
  | @made asset product session workshop generated =>
    refine Executor.Orderly.keeping
      ⟨orderly.nodup, orderly.generated_eq, orderly.own, orderly.dependencies⟩ ?_ ?_
    · exact steady.absent _ (List.mem_of_getLast? ready.1)
    · intro dependency member
      rcases ready.2 dependency member with waiting | kept
      · cases waiting
      · exact kept

/-- An asset is never kept twice: only a factory can say that one was. -/
theorem raised_of_alreadyGenerated (run : Runs catalog task session result after) {key : String}
    (ended : result = .error (.configuration (.alreadyGenerated key))) :
    ∃ other, catalog.Raises other (.configuration (.alreadyGenerated key)) := by
  induction run with
  | reuseKey known => cases ended
  | reuseAsset known => cases ended
  | uncreated absent created =>
    cases ended
    rcases Catalog.create_error created with ⟨-, unknown⟩ | ⟨built, -, mismatch⟩ | raises
    · cases unknown
    · cases mismatch
    · exact ⟨_, raises⟩
  | created absent created rest ih => exact ih ended
  | cycle absent stacked => cases ended
  | visited absent unstacked rest ih => exact ih ended
  | fetched first rest ihFirst ihRest => exact ihRest ended
  | @unfetched asset other pending failure session middle first ih =>
    unfold Resolution.fetchFailure at ended
    split at ended
    · cases ended
    · exact ih (congrArg Except.error (Except.error.inj ended))
  | broken failed => cases ended
  | made generated => cases ended

end Runs

namespace Resolution

theorem callAll_orderly (catalog : Catalog σ ε) (workshop : Workshop σ)
    (targets : List (Target σ ε)) :
    (callAll catalog targets (.fresh workshop)).Idle ∧
      (callAll catalog targets (.fresh workshop)).executor.Orderly :=
  callAll_induction targets (.fresh workshop) .fresh fun target _ _ idle orderly =>
    (call_runs target idle).orderly idle.steady trivial orderly

/-- After every call in a row of calls, whatever failed, nothing is being worked on, the kept assets are
in order, and everything kept before is kept still, with more after it at most. No call ever tries to
keep an asset twice: if one says that an asset was already generated, a factory has raised it. -/
theorem call_keeps_order (catalog : Catalog σ ε) (workshop : Workshop σ)
    (targets : List (Target σ ε)) (target : Target σ ε) :
    let before := callAll catalog targets (.fresh workshop)
    let (result, after) := call catalog target before
    after.executor.stack = [] ∧ after.executor.Orderly ∧
      before.executor.generated <+: after.executor.generated ∧
      before.executor.parents.entries <+: after.executor.parents.entries ∧
      ∀ key, result = .error (.configuration (.alreadyGenerated key)) →
        ∃ other, catalog.Raises other (.configuration (.alreadyGenerated key)) := by
  obtain ⟨idle, orderly⟩ := callAll_orderly catalog workshop targets
  have run : Runs catalog _ _ _ _ := call_runs target idle
  exact ⟨run.stack_eq.trans idle.stack_nil, run.orderly idle.steady trivial orderly,
    run.grown.generated, run.grown.entries, fun _ => run.raised_of_alreadyGenerated⟩

end Resolution

end CertGraph
