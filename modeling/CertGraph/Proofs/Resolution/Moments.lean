import CertGraph.Proofs.Resolution.Walking

/- The moments of a run: the tasks that a run comes to on its way, each with the session at that
moment. A run that fails comes to a task that fails of itself. -/
set_option autoImplicit false
set_option relaxedAutoImplicit false

namespace CertGraph

variable {σ ε : Type}

/-- The run of a task comes to another task, in a session at that moment. -/
inductive Comes (catalog : Catalog σ ε) :
    Task σ ε → Session σ ε → Task σ ε → Session σ ε → Prop
  | here {task : Task σ ε} {session : Session σ ε} : Comes catalog task session task session
  | created {key : String} {asset : Asset σ ε} {session moment : Session σ ε}
      {workshop : Workshop σ} {later : Task σ ε}
      (absent : session.executor.parents.get? key = none)
      (created : (catalog.create key).outcome session.workshop = (.ok asset, workshop))
      (rest : Comes catalog (.target (.asset asset)) { session with workshop } later moment) :
      Comes catalog (.target (.key key)) session later moment
  | visited {asset : Asset σ ε} {session moment : Session σ ε} {later : Task σ ε}
      (absent : session.executor.parents.get? asset.key = none)
      (unstacked : asset.key ∉ session.executor.stack)
      (rest : Comes catalog (.finish asset asset.dependencies) (session.push asset.key) later
        moment) :
      Comes catalog (.target (.asset asset)) session later moment
  | fetching {asset : Asset σ ε} {key : String} {pending : List String}
      {session moment : Session σ ε} {later : Task σ ε}
      (first : Comes catalog (.target (.key key)) session later moment) :
      Comes catalog (.finish asset (key :: pending)) session later moment
  | fetched {asset : Asset σ ε} {key : String} {pending : List String} {node : Node ε}
      {session middle moment : Session σ ε} {later : Task σ ε}
      (first : Runs catalog (.target (.key key)) session (.ok node) middle)
      (rest : Comes catalog (.finish asset pending) middle later moment) :
      Comes catalog (.finish asset (key :: pending)) session later moment

/-- A task fails of itself, and the session in which it stops: an asset cannot be made, stands on the
stack already, or cannot be generated. -/
inductive Stops (catalog : Catalog σ ε) : Task σ ε → Session σ ε → Failure → Session σ ε → Prop
  | uncreated {key : String} {failure : Failure} {session : Session σ ε} {workshop : Workshop σ}
      (absent : session.executor.parents.get? key = none)
      (created : (catalog.create key).outcome session.workshop = (.error failure, workshop)) :
      Stops catalog (.target (.key key)) session failure { session with workshop }
  | cycle {asset : Asset σ ε} {session : Session σ ε}
      (absent : session.executor.parents.get? asset.key = none)
      (stacked : asset.key ∈ session.executor.stack) :
      Stops catalog (.target (.asset asset)) session
        (.cycle (loopOf session.executor.stack asset.key)) session
  | broken {asset : Asset σ ε} {failure : Failure} {session : Session σ ε} {workshop : Workshop σ}
      (failed : (asset.generate session.executor.parents).outcome
        (session.starting asset).workshop = (.error failure, workshop)) :
      Stops catalog (.finish asset []) session failure { session.starting asset with workshop }

/-- The session with another stack. -/
def Session.unwound (session : Session σ ε) (stack : List String) : Session σ ε :=
  { session with executor := { session.executor with stack } }

private theorem Failure.root_fetchFailure (name : String) (failure : Failure) :
    (Resolution.fetchFailure name failure).root = failure.root := by
  unfold Resolution.fetchFailure
  split <;> rfl

namespace Runs

variable {catalog : Catalog σ ε} {task : Task σ ε} {session after : Session σ ε}
  {result : Except Failure (Node ε)}

/-- A run that fails comes to a task that fails of itself, and does nothing more but to take the keys
off the stack. Both failures have the same root. -/
theorem stops (run : Runs catalog task session result after) {failure : Failure}
    (failed : result = .error failure) :
    ∃ later moment cause stopped, Comes catalog task session later moment ∧
      Stops catalog later moment cause stopped ∧ failure.root = cause.root ∧
      after = stopped.unwound after.executor.stack := by
  induction run generalizing failure with
  | reuseKey known => cases failed
  | reuseAsset known => cases failed
  | uncreated absent created =>
    cases failed
    exact ⟨_, _, _, _, .here, .uncreated absent created, rfl, rfl⟩
  | created absent created rest ih =>
    obtain ⟨later, moment, cause, stopped, comes, stops, root, unwound⟩ := ih failed
    exact ⟨later, moment, cause, stopped, .created absent created comes, stops, root, unwound⟩
  | cycle absent stacked =>
    cases failed
    exact ⟨_, _, _, _, .here, .cycle absent stacked, rfl, rfl⟩
  | visited absent unstacked rest ih =>
    obtain ⟨later, moment, cause, stopped, comes, stops, root, unwound⟩ := ih failed
    exact ⟨later, moment, cause, stopped, .visited absent unstacked comes, stops, root, unwound⟩
  | fetched first rest ihFirst ihRest =>
    obtain ⟨later, moment, cause, stopped, comes, stops, root, unwound⟩ := ihRest failed
    exact ⟨later, moment, cause, stopped, .fetched first comes, stops, root, unwound⟩
  | @unfetched asset key pending inner session middle first ih =>
    cases failed
    obtain ⟨later, moment, cause, stopped, comes, stops, root, unwound⟩ := ih rfl
    refine ⟨later, moment, cause, stopped, .fetching comes, stops, ?_, ?_⟩
    · exact (inner.root_fetchFailure asset.name).trans root
    · rw [unwound]
      rfl
  | broken raised =>
    cases failed
    exact ⟨_, _, _, _, .here, .broken raised, rfl, rfl⟩
  | made generated => cases failed

end Runs

namespace Comes

variable {catalog : Catalog σ ε} {task later : Task σ ε} {session moment : Session σ ε}

theorem grown (comes : Comes catalog task session later moment) : session.Grown moment := by
  induction comes with
  | here => exact .refl _
  | created absent created rest ih => exact ⟨ih.entries, ih.generated, ih.history⟩
  | visited absent unstacked rest ih =>
    exact ⟨ih.entries, ih.generated, (List.prefix_append _ _).trans ih.history⟩
  | fetching first ih => exact ih
  | fetched first rest ih => exact first.grown.trans ih

theorem steady_and_ready (comes : Comes catalog task session later moment)
    (steady : session.Steady) (ready : task.Ready session) :
    moment.Steady ∧ later.Ready moment := by
  induction comes with
  | here => exact ⟨steady, ready⟩
  | created absent created rest ih =>
    exact ih ⟨steady.own, steady.nodup, steady.absent⟩ trivial
  | visited absent unstacked rest ih => exact ih (steady.push absent unstacked) (.pushed _ _)
  | fetching first ih => exact ih steady trivial
  | fetched first rest ih =>
    obtain ⟨steadyMiddle, kept⟩ := first.steady_and_kept steady trivial
    exact ih steadyMiddle (ready.fetched first.grown first.stack_eq (kept _ rfl))

/-- What a walk comes to belongs to the walk. -/
theorem walking {graph : KeyGraph} {done : List String} {root : String}
    (comes : Comes catalog task session later moment)
    (registered : ∀ key, graph.Needed done root key → catalog.Declares graph key)
    (walking : Walking graph done root task session) : Walking graph done root later moment := by
  induction comes with
  | here => exact walking
  | created absent created rest ih => exact ih (walking.create absent registered created)
  | visited absent unstacked rest ih => exact ih (walking.visit absent unstacked)
  | fetching first ih => exact ih walking.first
  | fetched first rest ih => exact ih (walking.rest first)

/-- An asset whose generation a run comes to is not recorded yet, and all that it depends on is. -/
theorem generating {asset : Asset σ ε} (comes : Comes catalog task session (.finish asset []) moment)
    (steady : session.Steady) (ready : task.Ready session) :
    moment.executor.parents.get? asset.key = none ∧
      ∀ dependency ∈ asset.dependencies,
        ∃ node, moment.executor.parents.get? dependency = some node := by
  obtain ⟨steadyMoment, last, recorded⟩ := comes.steady_and_ready steady ready
  refine ⟨steadyMoment.absent _ (List.mem_of_getLast? last), ?_⟩
  intro dependency member
  rcases recorded dependency member with waiting | kept
  · cases waiting
  · exact kept

end Comes

end CertGraph
