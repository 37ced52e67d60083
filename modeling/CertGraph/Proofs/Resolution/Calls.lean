import CertGraph.Proofs.Resolution.Runs
import Mathlib.Data.List.Perm.Subperm

/- Calls of an executor: each is a run of its target, as calls are never nested too deep. -/
set_option autoImplicit false
set_option relaxedAutoImplicit false

namespace CertGraph

variable {σ ε : Type}

/-- The stack holds registered keys and perhaps that of the target, and calls may still be nested
deep enough for all of them. -/
structure Session.Fits (catalog : Catalog σ ε) (root : String) (depth : Nat)
    (session : Session σ ε) : Prop where
  known : ∀ key ∈ session.executor.stack, key ∈ root :: catalog.keys
  room : catalog.keys.length + 2 ≤ depth + session.executor.stack.length

private theorem Session.Fits.depth_pos {catalog : Catalog σ ε} {root : String} {depth : Nat}
    {session : Session σ ε} (fits : session.Fits catalog root depth)
    (nodup : session.executor.stack.Nodup) : 0 < depth := by
  have short := (List.subperm_of_subset nodup fits.known).length_le
  have room := fits.room
  simp only [List.length_cons] at short
  omega

private theorem Session.Fits.push {catalog : Catalog σ ε} {root key : String} {depth : Nat}
    {session : Session σ ε} (fits : session.Fits catalog root (depth + 1))
    (known : key ∈ root :: catalog.keys) : (session.push key).Fits catalog root depth := by
  constructor
  · intro other member
    rcases List.mem_append.mp member with old | new
    · exact fits.known other old
    · obtain rfl := List.mem_singleton.mp new
      exact known
  · have room := fits.room
    simp only [Session.push, List.length_append, List.length_singleton]
    omega

private theorem Session.Fits.of_stack_eq {catalog : Catalog σ ε} {root : String} {depth : Nat}
    {session after : Session σ ε} (fits : session.Fits catalog root depth)
    (same : after.executor.stack = session.executor.stack) : after.Fits catalog root depth :=
  ⟨same ▸ fits.known, same ▸ fits.room⟩

namespace Resolution

variable {catalog : Catalog σ ε} {root : String} {depth : Nat}

/-- What resolves a key runs as the key's task does, in all sessions with room for it. -/
def Follows (catalog : Catalog σ ε) (root : String) (depth : Nat)
    (resolveKey : String → Resolution σ ε (Node ε)) : Prop :=
  ∀ key (session : Session σ ε), session.Steady → session.Fits catalog root depth →
    Runs catalog (.target (.key key)) session
      (outcome (resolveKey key) session).1 (outcome (resolveKey key) session).2

/-- Resolve the pending dependencies of an asset on the stack, generate it, and keep it. -/
def finish (resolveKey : String → Resolution σ ε (Node ε)) (asset : Asset σ ε)
    (pending : List String) (session : Session σ ε) : Except Failure (Node ε) × Session σ ε :=
  match outcome (do fetchAll resolveKey asset.name pending; produce asset) session with
  | (.ok product, after) => outcome (keep (asset.holding product)) after.pop
  | (.error failure, after) => (.error failure, after.pop)

private theorem finish_runs {resolveKey : String → Resolution σ ε (Node ε)}
    (follows : Follows catalog root depth resolveKey) (asset : Asset σ ε) (pending : List String)
    (session : Session σ ε) (steady : session.Steady) (fits : session.Fits catalog root depth)
    (ready : (Task.finish asset pending).Ready session) :
    Runs catalog (.finish asset pending) session
      (finish resolveKey asset pending session).1 (finish resolveKey asset pending session).2 := by
  induction pending generalizing session with
  | nil =>
    simp only [finish, fetchAll, outcome_bind, outcome_pure, outcome_produce]
    rcases generated : (asset.generate session.executor.parents).outcome
      (session.starting asset).workshop with ⟨failure | product, workshop⟩
    · exact .broken generated
    · have absent : session.executor.parents.get? asset.key = none :=
        steady.absent _ (List.mem_of_getLast? ready.1)
      have kept : outcome (keep (asset.holding product))
          (({ session.starting asset with workshop }.noted (.finished asset.key)).pop) = _ :=
        outcome_keep absent
      simp only [kept]
      exact .made generated
  | cons key pending ih =>
    simp only [finish, fetchAll, outcome_bind, outcome_wrapping]
    have first := follows key session steady fits
    rcases fetched : outcome (resolveKey key) session with ⟨failure | node, middle⟩
    · rw [fetched] at first
      exact .unfetched first
    · rw [fetched] at first
      obtain ⟨steadyMiddle, kept⟩ := first.steady_and_kept steady trivial
      have sameStack : middle.executor.stack = session.executor.stack := first.stack_eq
      have rest := ih middle steadyMiddle (fits.of_stack_eq sameStack)
        (ready.fetched first.grown sameStack (kept node rfl))
      simp only [finish, outcome_bind] at rest
      exact .fetched first rest

private theorem outcome_visit {resolveKey : String → Resolution σ ε (Node ε)} {asset : Asset σ ε}
    {session : Session σ ε} (unstacked : asset.key ∉ session.executor.stack) :
    outcome (visit resolveKey asset) session =
      finish resolveKey asset asset.dependencies (session.push asset.key) := by
  simp only [visit, outcome_bind, outcome_executor, unstacked, if_false, outcome_onStack, finish]
  rcases outcome (fetchAll resolveKey asset.name asset.dependencies) (session.push asset.key) with
    ⟨failure | _, middle⟩
  · rfl
  · simp only
    rcases outcome (produce asset) middle with ⟨failure | product, last⟩ <;> rfl

private theorem visit_runs {resolveKey : String → Resolution σ ε (Node ε)}
    (follows : Follows catalog root depth resolveKey) {asset : Asset σ ε} {session : Session σ ε}
    (steady : session.Steady) (fits : session.Fits catalog root (depth + 1))
    (known : asset.key ∈ root :: catalog.keys)
    (absent : session.executor.parents.get? asset.key = none) :
    Runs catalog (.target (.asset asset)) session
      (outcome (visit resolveKey asset) session).1 (outcome (visit resolveKey asset) session).2 := by
  by_cases stacked : asset.key ∈ session.executor.stack
  · have closed : outcome (visit resolveKey asset) session =
        (.error (.cycle (loopOf session.executor.stack asset.key)), session) := by
      simp only [visit, outcome_bind, outcome_executor, stacked, if_true]
      rfl
    rw [closed]
    exact .cycle absent stacked
  · rw [outcome_visit stacked]
    exact .visited absent stacked (finish_runs follows asset _ _ (steady.push absent stacked)
      (fits.push known) (.pushed asset session))

/-- What is registered, or the target at hand. -/
def Covers (catalog : Catalog σ ε) (root : String) : Target σ ε → Prop
  | .key _ => True
  | .asset asset => asset.key ∈ root :: catalog.keys

/-- With room for the stack, a call is a run. -/
theorem resolveWithin_runs (target : Target σ ε) (covered : Covers catalog root target)
    (session : Session σ ε) (steady : session.Steady) (fits : session.Fits catalog root depth) :
    Runs catalog (.target target) session (outcome (resolveWithin catalog depth target) session).1
      (outcome (resolveWithin catalog depth target) session).2 := by
  induction depth generalizing target session with
  | zero => exact absurd (fits.depth_pos steady.nodup) (Nat.lt_irrefl 0)
  | succ depth ih =>
    have follows : Follows catalog root depth fun key => resolveWithin catalog depth (.key key) :=
      fun key session steady fits => ih (.key key) trivial session steady fits
    cases target with
    | key key =>
      simp only [resolveWithin, outcome_bind, outcome_executor]
      rcases found : session.executor.parents.get? key with _ | node
      · simp only [outcome_bind, outcome_ofWork]
        rcases created : (catalog.create key).outcome session.workshop with
          ⟨failure | asset, workshop⟩
        · exact .uncreated found created
        · obtain ⟨factory, registered, -, same, -⟩ := Catalog.create_ok created
          refine .created found created (visit_runs follows ⟨steady.own, steady.nodup, steady.absent⟩
            (fits.of_stack_eq rfl) ?_ (same ▸ found))
          exact List.mem_cons_of_mem _ (same ▸ Catalog.mem_keys_of_lookup registered)
      · exact .reuseKey found
    | asset asset =>
      simp only [resolveWithin, outcome_bind, outcome_executor]
      rcases found : session.executor.parents.get? asset.key with _ | node
      · exact visit_runs follows steady fits covered found
      · exact .reuseAsset found

/-- One call of an executor: its outcome, and the session after it. -/
def call (catalog : Catalog σ ε) (target : Target σ ε) (session : Session σ ε) :
    Except Failure (Node ε) × Session σ ε :=
  outcome (resolve catalog target) session

/-- The session after calls in a row, whatever came of each. -/
def callAll (catalog : Catalog σ ε) (targets : List (Target σ ε)) (session : Session σ ε) :
    Session σ ε :=
  targets.foldl (fun session target => (call catalog target session).2) session

end Resolution

/-- A session in which nothing was generated yet. -/
def Session.fresh (workshop : Workshop σ) : Session σ ε :=
  ⟨workshop, Executor.fresh⟩

/-- A session between two calls: nothing is being worked on. -/
structure Session.Idle (session : Session σ ε) : Prop where
  own : ∀ key node, session.executor.parents.get? key = some node → node.key = key
  stack_nil : session.executor.stack = []

namespace Session.Idle

theorem steady {session : Session σ ε} (idle : session.Idle) : session.Steady :=
  ⟨idle.own, by simp [idle.stack_nil], by simp [idle.stack_nil]⟩

theorem fresh (workshop : Workshop σ) : (Session.fresh workshop : Session σ ε).Idle :=
  ⟨fun _ _ known => (by cases known), rfl⟩

end Session.Idle

namespace Resolution

variable {catalog : Catalog σ ε}

/-- A call of an idle executor is a run of its target. -/
theorem call_runs (target : Target σ ε) {session : Session σ ε} (idle : session.Idle) :
    Runs catalog (.target target) session (call catalog target session).1
      (call catalog target session).2 := by
  have room : session.Fits catalog (Task.target target).key (depthFor catalog) :=
    ⟨by simp [idle.stack_nil], by simp [depthFor]⟩
  refine resolveWithin_runs target ?_ session idle.steady room
  cases target with
  | key key => trivial
  | asset asset => exact List.mem_cons_self

theorem call_idle (target : Target σ ε) {session : Session σ ε} (idle : session.Idle) :
    (call catalog target session).2.Idle := by
  have run : Runs catalog _ _ _ _ := call_runs target idle
  exact ⟨(run.steady_and_kept idle.steady trivial).1.own, run.stack_eq.trans idle.stack_nil⟩

/-- What holds at first and is kept by every call of an idle executor holds after all calls. -/
theorem callAll_induction {motive : Session σ ε → Prop} (targets : List (Target σ ε))
    {session : Session σ ε} (idle : session.Idle) (first : motive session)
    (step : ∀ target ∈ targets, ∀ session : Session σ ε, session.Idle → motive session →
      motive (call catalog target session).2) :
    (callAll catalog targets session).Idle ∧ motive (callAll catalog targets session) := by
  induction targets generalizing session with
  | nil => exact ⟨idle, first⟩
  | cons target targets ih =>
    exact ih (call_idle target idle) (step target List.mem_cons_self session idle first)
      fun target member => step target (List.mem_cons_of_mem _ member)

end Resolution

end CertGraph
