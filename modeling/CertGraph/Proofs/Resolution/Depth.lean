import CertGraph.Proofs.Resolution.Made
import CertGraph.Proofs.Resolution.Moments
import CertGraph.Proofs.Resolution.PostOrder

/- How deep calls are nested: every call ends, the stack holds no key twice and hardly more keys than are
registered, and at most one call stands above it. -/
set_option autoImplicit false
set_option relaxedAutoImplicit false

namespace CertGraph

variable {σ ε : Type}

namespace Runs

variable {catalog : Catalog σ ε} {task : Task σ ε} {session after last : Session σ ε}
  {result ended : Except Failure (Node ε)}

/-- A task ends in one way. -/
theorem unique (run : Runs catalog task session result after)
    (other : Runs catalog task session ended last) : ended = result ∧ last = after := by
  induction run generalizing ended last with
  | reuseKey known =>
    cases other with
    | reuseKey known' => cases known.symm.trans known'; exact ⟨rfl, rfl⟩
    | uncreated absent created => cases absent.symm.trans known
    | created absent created rest => cases absent.symm.trans known
  | reuseAsset known =>
    cases other with
    | reuseAsset known' => cases known.symm.trans known'; exact ⟨rfl, rfl⟩
    | cycle absent stacked => cases absent.symm.trans known
    | visited absent unstacked rest => cases absent.symm.trans known
  | uncreated absent created =>
    cases other with
    | reuseKey known => cases absent.symm.trans known
    | uncreated absent' created' => cases created.symm.trans created'; exact ⟨rfl, rfl⟩
    | created absent' created' rest => cases created.symm.trans created'
  | created absent created rest ih =>
    cases other with
    | reuseKey known => cases absent.symm.trans known
    | uncreated absent' created' => cases created.symm.trans created'
    | created absent' created' rest' => cases created.symm.trans created'; exact ih rest'
  | cycle absent stacked =>
    cases other with
    | reuseAsset known => cases absent.symm.trans known
    | cycle absent' stacked' => exact ⟨rfl, rfl⟩
    | visited absent' unstacked rest => exact absurd stacked unstacked
  | visited absent unstacked rest ih =>
    cases other with
    | reuseAsset known => cases absent.symm.trans known
    | cycle absent' stacked => exact absurd stacked unstacked
    | visited absent' unstacked' rest' => exact ih rest'
  | fetched first rest ihFirst ihRest =>
    cases other with
    | fetched first' rest' =>
      obtain ⟨sameNode, rfl⟩ := ihFirst first'
      exact ihRest rest'
    | unfetched first' => cases (ihFirst first').1
  | unfetched first ih =>
    cases other with
    | fetched first' rest' => cases (ih first').1
    | unfetched first' =>
      obtain ⟨sameFailure, rfl⟩ := ih first'
      cases sameFailure
      exact ⟨rfl, rfl⟩
  | broken failed =>
    cases other with
    | broken failed' => cases failed.symm.trans failed'; exact ⟨rfl, rfl⟩
    | made generated => cases failed.symm.trans generated
  | made generated =>
    cases other with
    | broken failed => cases generated.symm.trans failed
    | made generated' => cases generated.symm.trans generated'; exact ⟨rfl, rfl⟩

end Runs

/-- The run of a task has come to another task, inside of calls for some keys, each nested in the one
before, that are not over yet. -/
inductive Ongoing (catalog : Catalog σ ε) :
    Task σ ε → Session σ ε → List String → Task σ ε → Session σ ε → Prop
  | here {task : Task σ ε} {session : Session σ ε} : Ongoing catalog task session [] task session
  | created {key : String} {asset : Asset σ ε} {session moment : Session σ ε}
      {workshop : Workshop σ} {calls : List String} {later : Task σ ε}
      (absent : session.executor.parents.get? key = none)
      (created : (catalog.create key).outcome session.workshop = (.ok asset, workshop))
      (rest : Ongoing catalog (.target (.asset asset)) { session with workshop } calls later moment) :
      Ongoing catalog (.target (.key key)) session calls later moment
  | visited {asset : Asset σ ε} {session moment : Session σ ε} {calls : List String}
      {later : Task σ ε}
      (absent : session.executor.parents.get? asset.key = none)
      (unstacked : asset.key ∉ session.executor.stack)
      (rest : Ongoing catalog (.finish asset asset.dependencies) (session.push asset.key) calls later
        moment) :
      Ongoing catalog (.target (.asset asset)) session calls later moment
  | fetching {asset : Asset σ ε} {key : String} {pending calls : List String}
      {session moment : Session σ ε} {later : Task σ ε}
      (first : Ongoing catalog (.target (.key key)) session calls later moment) :
      Ongoing catalog (.finish asset (key :: pending)) session (key :: calls) later moment
  | fetched {asset : Asset σ ε} {key : String} {pending calls : List String} {node : Node ε}
      {session middle moment : Session σ ε} {later : Task σ ε}
      (first : Runs catalog (.target (.key key)) session (.ok node) middle)
      (rest : Ongoing catalog (.finish asset pending) middle calls later moment) :
      Ongoing catalog (.finish asset (key :: pending)) session calls later moment

/-- The keys that a task is inside of: those on the stack, and that of a target on top of them. -/
def Task.inside : Task σ ε → Session σ ε → List String
  | .target sought, session => session.executor.stack ++ [(Task.target sought).key]
  | .finish _ _, session => session.executor.stack

namespace Ongoing

variable {catalog : Catalog σ ε} {task later : Task σ ε} {session moment : Session σ ε}
  {calls : List String}

private theorem comes (ongoing : Ongoing catalog task session calls later moment) :
    Comes catalog task session later moment := by
  induction ongoing with
  | here => exact .here
  | created absent created rest ih => exact .created absent created ih
  | visited absent unstacked rest ih => exact .visited absent unstacked ih
  | fetching first ih => exact .fetching ih
  | fetched first rest ih => exact .fetched first ih

/-- Each nested call stands for one more key. -/
private theorem inside_eq (ongoing : Ongoing catalog task session calls later moment) :
    later.inside moment = task.inside session ++ calls := by
  induction ongoing with
  | here => exact (List.append_nil _).symm
  | created absent created rest ih =>
    obtain rfl := (Catalog.makes_of_create created).1
    exact ih
  | visited absent unstacked rest ih => exact ih
  | fetching first ih =>
    rw [ih]
    exact List.append_assoc _ _ _
  | @fetched asset key pending calls node session middle moment later first rest ih =>
    have sameStack : middle.executor.stack = session.executor.stack := first.stack_eq
    rw [ih, Task.inside, sameStack, Task.inside]

end Ongoing

/-- The stack holds registered keys and perhaps that of the root, and so does an asset that is about to
be put on it. -/
def Task.Known (catalog : Catalog σ ε) (root : String) : Task σ ε → Session σ ε → Prop
  | .target sought, session =>
    (∀ key ∈ session.executor.stack, key ∈ root :: catalog.keys) ∧ Resolution.Covers catalog root sought
  | .finish _ _, session => ∀ key ∈ session.executor.stack, key ∈ root :: catalog.keys

private theorem Comes.known {catalog : Catalog σ ε} {root : String} {task later : Task σ ε}
    {session moment : Session σ ε} (comes : Comes catalog task session later moment)
    (known : task.Known catalog root session) :
    ∀ key ∈ moment.executor.stack, key ∈ root :: catalog.keys := by
  induction comes with
  | @here task session =>
    cases task with
    | target target => exact known.1
    | finish asset pending => exact known
  | created absent created rest ih =>
    obtain ⟨factory, found, -, rfl, -⟩ := Catalog.create_ok created
    exact ih ⟨known.1, List.mem_cons_of_mem _ (Catalog.mem_keys_of_lookup found)⟩
  | visited absent unstacked rest ih =>
    refine ih fun key member => ?_
    rcases List.mem_append.mp member with old | new
    · exact known.1 key old
    · obtain rfl := List.mem_singleton.mp new
      exact known.2
  | fetching first ih => exact ih ⟨known, trivial⟩
  | fetched first rest ih =>
    intro key member
    refine ih (fun other stacked => known other ?_) key member
    rw [first.stack_eq] at stacked
    exact stacked

/-- Every stack that is entered in a run is that of a moment of it. -/
theorem Runs.entered {catalog : Catalog σ ε} {task : Task σ ε} {session after : Session σ ε}
    {result : Except Failure (Node ε)} (run : Runs catalog task session result after) :
    ∃ events, after.executor.history = session.executor.history ++ events ∧
      ∀ stack, Event.entered stack ∈ events →
        ∃ later moment, Comes catalog task session later moment ∧ moment.executor.stack = stack := by
  induction run with
  | reuseKey known => exact ⟨_, rfl, by simp⟩
  | reuseAsset known => exact ⟨_, rfl, by simp⟩
  | uncreated absent created => exact ⟨[], (List.append_nil _).symm, nofun⟩
  | created absent created rest ih =>
    obtain ⟨events, history, entered⟩ := ih
    refine ⟨events, history, fun stack told => ?_⟩
    obtain ⟨later, moment, comes, same⟩ := entered stack told
    exact ⟨later, moment, .created absent created comes, same⟩
  | cycle absent stacked => exact ⟨[], (List.append_nil _).symm, nofun⟩
  | @visited asset session after result absent unstacked rest ih =>
    obtain ⟨events, history, entered⟩ := ih
    refine ⟨_ :: events, history.trans (List.append_assoc _ [_] events), fun stack told => ?_⟩
    rcases List.mem_cons.mp told with first | told
    · cases first
      exact ⟨_, _, .visited absent unstacked .here, rfl⟩
    · obtain ⟨later, moment, comes, same⟩ := entered stack told
      exact ⟨later, moment, .visited absent unstacked comes, same⟩
  | fetched first rest ihFirst ihRest =>
    obtain ⟨events, history, entered⟩ := ihFirst
    obtain ⟨more, longer, enteredRest⟩ := ihRest
    refine ⟨events ++ more, by rw [longer, history, List.append_assoc], fun stack told => ?_⟩
    rcases List.mem_append.mp told with early | late
    · obtain ⟨later, moment, comes, same⟩ := entered stack early
      exact ⟨later, moment, .fetching comes, same⟩
    · obtain ⟨later, moment, comes, same⟩ := enteredRest stack late
      exact ⟨later, moment, .fetched first comes, same⟩
  | unfetched first ih =>
    obtain ⟨events, history, entered⟩ := ih
    refine ⟨events, history, fun stack told => ?_⟩
    obtain ⟨later, moment, comes, same⟩ := entered stack told
    exact ⟨later, moment, .fetching comes, same⟩
  | broken failed => exact ⟨_, List.append_assoc _ _ _, by simp⟩
  | made generated =>
    refine ⟨_, (List.append_assoc _ _ _).trans (List.append_assoc _ _ _), by simp⟩

namespace Resolution

/-- The session after calls in a row, each with the keys that were registered by then, whatever came of
each. -/
def callEach (calls : List (Catalog σ ε × Target σ ε)) (session : Session σ ε) : Session σ ε :=
  calls.foldl (fun session (catalog, target) => (call catalog target session).2) session

private theorem callEach_idle (calls : List (Catalog σ ε × Target σ ε)) {session : Session σ ε}
    (idle : session.Idle) : (callEach calls session).Idle := by
  induction calls generalizing session with
  | nil => exact idle
  | cons first calls ih => exact ih (call_idle first.2 idle)

private theorem known_of_idle (catalog : Catalog σ ε) (target : Target σ ε) {session : Session σ ε}
    (idle : session.Idle) :
    (Task.target target).Known catalog (Task.target target).key session := by
  refine ⟨by simp [idle.stack_nil], ?_⟩
  cases target with
  | key key => trivial
  | asset asset => exact List.mem_cons_self

/-- Whatever was called for before, and whatever was registered meanwhile: a call ends, in one way,
which more room for nested calls does not change. While it is going on, and whenever a key was put on
the stack, no key stands on the stack twice, and at most one key more than are registered. The calls
that are not over are those of the keys on the stack, and at most one on top of them. -/
theorem call_nests_within_catalog (calls : List (Catalog σ ε × Target σ ε)) (catalog : Catalog σ ε)
    (workshop : Workshop σ) (target : Target σ ε) :
    let before := callEach calls (.fresh workshop)
    let result := (call catalog target before).1
    let after := (call catalog target before).2
    (∀ ended last, Runs catalog (.target target) before ended last ↔ ended = result ∧ last = after) ∧
    (∀ depth, depthFor catalog ≤ depth →
      outcome (resolveWithin catalog depth target) before = (result, after)) ∧
    (∀ nested later moment, Ongoing catalog (.target target) before nested later moment →
      moment.executor.stack.Nodup ∧ moment.executor.stack.length ≤ catalog.keys.length + 1 ∧
        ((Task.target target).key :: nested = moment.executor.stack ∨
          ∃ key, (Task.target target).key :: nested = moment.executor.stack ++ [key])) ∧
    ∀ stack, Event.entered stack ∈ before.eventsUntil after →
      stack.Nodup ∧ stack.length ≤ catalog.keys.length + 1 := by
  intro before result after
  have idle : before.Idle := callEach_idle calls (.fresh workshop)
  have run : Runs catalog (.target target) before result after := call_runs target idle
  have bounded {later : Task σ ε} {moment : Session σ ε}
      (comes : Comes catalog (.target target) before later moment) :
      moment.executor.stack.Nodup ∧ moment.executor.stack.length ≤ catalog.keys.length + 1 := by
    have nodup := (comes.steady_and_ready idle.steady trivial).1.nodup
    exact ⟨nodup, (List.subperm_of_subset nodup (comes.known (known_of_idle catalog target idle))).length_le⟩
  refine ⟨fun ended last => ⟨run.unique, ?_⟩, fun depth enough => ?_, ?_, ?_⟩
  · rintro ⟨rfl, rfl⟩
    exact run
  · have covered := (known_of_idle catalog target idle).2
    have fits : before.Fits catalog (Task.target target).key depth :=
      ⟨by simp [idle.stack_nil], by simpa [idle.stack_nil, depthFor] using enough⟩
    obtain ⟨same, sameAfter⟩ := run.unique (resolveWithin_runs target covered before idle.steady fits)
    exact Prod.ext same sameAfter
  · intro nested later moment ongoing
    obtain ⟨nodup, short⟩ := bounded ongoing.comes
    refine ⟨nodup, short, ?_⟩
    have inside := ongoing.inside_eq
    rw [Task.inside, idle.stack_nil] at inside
    cases later with
    | finish asset pending => exact .inl inside.symm
    | target sought => exact .inr ⟨_, inside.symm⟩
  · intro stack told
    obtain ⟨events, history, entered⟩ := run.entered
    have since : before.eventsUntil after = events := by
      rw [Session.eventsUntil, history, List.drop_left]
    obtain ⟨later, moment, comes, rfl⟩ := entered stack (since ▸ told)
    exact bounded comes

/-- A catalog of one asset, which needs another that is not registered. -/
def echo : Catalog Unit Unit :=
  ⟨[plain "link" ["self"]], by decide⟩

/-- The other asset, which needs the one that is registered. -/
def echoed : Asset Unit Unit :=
  .custom ⟨"self", "self", ["link"], none, (), fun _ => pure (none, ())⟩

/-- The bounds are met: with one key registered two stand on the stack, and a third call is made on top.
-/
theorem echo_nests_within_catalog :
    ∃ nested later moment, Ongoing echo (.target (.asset echoed)) (.fresh bareWorkshop) nested later moment ∧
      moment.executor.stack = ["self", "link"] ∧ "self" :: nested = ["self", "link", "self"] ∧
      moment.executor.stack.Nodup ∧ moment.executor.stack.length ≤ echo.keys.length + 1 := by
  have ongoing : Ongoing echo (.target (.asset echoed)) (.fresh bareWorkshop) ["link", "self"]
      (.target (.key "self")) (((Session.fresh bareWorkshop).push "self").push "link") :=
    .visited rfl List.not_mem_nil (.fetching (.created rfl rfl (.visited rfl (by decide)
      (.fetching .here))))
  obtain ⟨nodup, short, -⟩ :=
    (call_nests_within_catalog [] echo bareWorkshop (.asset echoed)).2.2.1 _ _ _ ongoing
  exact ⟨_, _, _, ongoing, rfl, rfl, nodup, short⟩

end Resolution

end CertGraph
