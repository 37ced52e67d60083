import CertGraph.Proofs.Resolution.History

/- Calls for one key again and again: each attempt goes on where the last one broke off, so that in
the end the same keys are generated in the same order as by one call in which nothing fails. -/
set_option autoImplicit false
set_option relaxedAutoImplicit false

namespace CertGraph

open Relation (TransGen)

variable {σ ε : Type}

private theorem mem_listing {listed keys : List String} {key : String} :
    key ∈ listing listed keys ↔ key ∈ listed ∨ key ∈ keys := by
  rw [listing_eq_append, List.mem_append, List.mem_eraseDups, List.mem_filter]
  by_cases known : key ∈ listed <;> simp [known]

private theorem listing_prefix (listed : List String) {keys longer : List String}
    (extended : keys <+: longer) : listing listed keys <+: listing listed longer := by
  obtain ⟨more, rfl⟩ := extended
  rw [listing_append, listing_eq_append _ more]
  exact List.prefix_append _ _

/-- Listing a part of the keys first changes nothing. -/
private theorem listing_of_prefix (listed : List String) {keys longer : List String}
    (extended : keys <+: longer) : listing (listing listed keys) longer = listing listed longer := by
  obtain ⟨more, rfl⟩ := extended
  have known : ∀ key ∈ keys, key ∈ listing listed keys :=
    fun key member => mem_listing.mpr (.inr member)
  rw [listing_append (listing listed keys), listing_of_subset known, listing_append]

namespace Runs

variable {catalog : Catalog σ ε} {graph : KeyGraph} {done : List String} {root : String}
  {task : Task σ ε} {session after : Session σ ε} {result : Except Failure (Node ε)}

/-- A run that fails lists the first part of what completes on the walk of its task. -/
theorem generated_eq_listing_prefix (run : Runs catalog task session result after)
    (walking : Walking graph done root task session)
    (registered : ∀ key, graph.Needed done root key → catalog.Declares graph key)
    (closed : session.executor.Closed graph done) {failure : Failure}
    (failed : result = .error failure) {order : List String}
    (completes : graph.Completes done task.todo order) :
    ∃ listed, listed <+: order ++ task.last ∧
      after.executor.generated = listing session.executor.generated listed ∧
      after.executor.Closed graph done := by
  induction run generalizing failure order with
  | reuseKey known => cases failed
  | reuseAsset known => cases failed
  | uncreated absent created => exact ⟨[], List.nil_prefix, rfl, closed⟩
  | created absent created rest ih =>
    have walking' := walking.create absent registered created
    obtain ⟨factory, -, -, rfl, -⟩ := Catalog.create_ok created
    exact ih walking' closed failed completes
  | cycle absent stacked => exact ⟨[], List.nil_prefix, rfl, closed⟩
  | visited absent unstacked rest ih =>
    obtain ⟨inner, rfl, inside⟩ := completes.singleton_inv (walking.not_done absent)
    rw [← walking.within.1] at inside
    rw [Task.last, List.append_nil]
    exact ih (walking.visit absent unstacked) closed failed inside
  | @fetched asset key pending node session middle after result first rest ihFirst ihRest =>
    obtain ⟨before, later, rfl, completesFirst, completesRest⟩ := completes.cons_inv
    obtain ⟨listedFirst, closedMiddle⟩ :=
      first.generated_eq_listing walking.first registered closed rfl completesFirst
    obtain ⟨listed, isPrefix, listedRest, closedAfter⟩ :=
      ihRest (walking.rest first) closedMiddle failed completesRest
    rw [Task.last, List.append_nil] at listedFirst
    refine ⟨before ++ listed, ?_, ?_, closedAfter⟩
    · rw [List.append_assoc]
      exact (List.prefix_append_right_inj before).mpr isPrefix
    · rw [listedRest, listedFirst, listing_append]
  | unfetched first ih =>
    obtain ⟨before, later, rfl, completesFirst, -⟩ := completes.cons_inv
    obtain ⟨listed, isPrefix, listedFirst, closedAfter⟩ := ih walking.first closed rfl completesFirst
    refine ⟨listed, ?_, listedFirst, closedAfter⟩
    rw [Task.last, List.append_nil] at isPrefix
    rw [List.append_assoc]
    exact isPrefix.trans (List.prefix_append _ _)
  | broken raised => exact ⟨[], List.nil_prefix, rfl, closed⟩
  | made generated => cases failed

end Runs

/-- The generation of a key was begun between two sessions, and did not end. -/
def Session.Fails (before after : Session σ ε) (key : String) : Prop :=
  Event.started key ∈ before.eventsUntil after ∧ Event.finished key ∉ before.eventsUntil after

instance (before after : Session σ ε) (key : String) : Decidable (before.Fails after key) :=
  inferInstanceAs (Decidable (_ ∧ _))

namespace Runs

variable {catalog : Catalog σ ε} {graph : KeyGraph} {done : List String} {root : String}
  {task : Task σ ε} {session after : Session σ ε} {result : Except Failure (Node ε)}

/-- Where every needed key is registered and on no cycle, a run that fails has begun the generation of
a needed key that did not end. -/
theorem fails_of_error (run : Runs catalog task session result after)
    (walking : Walking graph done root task session)
    (registered : ∀ key, graph.Needed done root key → catalog.Declares graph key)
    (acyclic : ∀ key, graph.Needed done root key → ¬ TransGen (graph.Open done) key key)
    (accounted : session.Accounted) {failure : Failure} (failed : result = .error failure) :
    ∃ key, graph.Needed done root key ∧ session.Fails after key := by
  obtain ⟨later, moment, cause, stopped, comes, stops, -, unwound⟩ := run.stops failed
  have walkingMoment := comes.walking registered walking
  cases stops with
  | uncreated absent created =>
    have needed := (walkingMoment.within (walkingMoment.not_done absent)).1
    exact absurd created (registered _ needed).not_error
  | cycle absent stacked =>
    obtain ⟨needed, fromStack⟩ := walkingMoment.within.2 (walkingMoment.not_done absent)
    exact absurd (fromStack _ stacked) (acyclic _ needed)
  | @broken asset cause _ workshop raised =>
    have history : after.executor.history = moment.executor.history ++
        [.reported ⟨.info, "Generating " ++ asset.name, some asset.key⟩, .started asset.key] := by
      rw [unwound]
      simp [Session.unwound, Session.starting, Session.told, Session.noted]
    obtain ⟨events, extended⟩ := comes.grown.history
    have since : session.eventsUntil after = events ++
        [.reported ⟨.info, "Generating " ++ asset.name, some asset.key⟩, .started asset.key] := by
      simp [Session.eventsUntil, history, ← extended]
    refine ⟨asset.key, walkingMoment.within.2.1, by simp [since], ?_⟩
    intro finished
    have accountedAfter := run.accounted walking.steady walking.ready walking.orderly accounted
    have generated := accountedAfter.mem_generated (List.mem_of_mem_drop finished)
    -- nothing is recorded while an asset is generated, so its key would have been recorded before
    have unrecorded : asset.key ∉ moment.executor.generated := by
      rw [walkingMoment.orderly.generated_eq]
      exact Parents.get?_eq_none_iff.mp
        (walkingMoment.steady.absent _ (List.mem_of_getLast? walkingMoment.ready.1))
    rw [unwound] at generated
    exact unrecorded generated

private theorem not_fails_of_recorded {key other : String} {node : Node ε}
    (run : Runs catalog (.target (.key key)) session result after)
    (known : session.executor.parents.get? key = some node) : ¬ session.Fails after other := by
  rintro ⟨started, -⟩
  cases run with
  | reuseKey known' =>
    simp [Session.eventsUntil, Session.reusing, Session.told, Session.noted] at started
  | uncreated absent created => cases absent.symm.trans known
  | created absent created rest => cases absent.symm.trans known

end Runs

namespace Walking

variable {graph : KeyGraph} {done : List String} {session : Session σ ε}

/-- A walk for a key can be started again in any session that has kept what was done. -/
private theorem restart {key : String} (idle : session.Idle) (orderly : session.executor.Orderly)
    (since : done <+: session.executor.generated) :
    Walking graph done key (.target (.key key)) session :=
  ⟨idle.steady, trivial, orderly, since, fun notDone => ⟨⟨notDone, .refl⟩, by simp [idle.stack_nil]⟩⟩

end Walking

/-- A session between two calls that has listed the first part of an order, after what was done. -/
structure Session.Resumes (graph : KeyGraph) (done order : List String) (session : Session σ ε) :
    Prop where
  idle : session.Idle
  orderly : session.executor.Orderly
  accounted : session.Accounted
  closed : session.executor.Closed graph done
  listed : ∃ keys, keys <+: order ∧ session.executor.generated = listing done keys

namespace Session.Resumes

variable {catalog : Catalog σ ε} {graph : KeyGraph} {done order : List String} {key : String}
  {session after : Session σ ε} {result : Except Failure (Node ε)}

private theorem start (idle : session.Idle) (orderly : session.executor.Orderly)
    (accounted : session.Accounted) : session.Resumes graph session.executor.generated order where
  idle := idle
  orderly := orderly
  accounted := accounted
  closed := fun _ member notDone => absurd member notDone
  listed := ⟨[], List.nil_prefix, rfl⟩

private theorem since (resumes : session.Resumes graph done order) :
    done <+: session.executor.generated := by
  obtain ⟨keys, -, generated⟩ := resumes.listed
  rw [generated, listing_eq_append]
  exact List.prefix_append _ _

private theorem isPrefix (resumes : session.Resumes graph done order) :
    session.executor.generated <+: listing done order := by
  obtain ⟨keys, isPrefix, generated⟩ := resumes.listed
  rw [generated]
  exact listing_prefix done isPrefix

private theorem walking (resumes : session.Resumes graph done order) :
    Walking graph done key (.target (.key key)) session :=
  .restart resumes.idle resumes.orderly resumes.since

/-- A call that succeeds completes the order. -/
private theorem completed (resumes : session.Resumes graph done order)
    (run : Runs catalog (.target (.key key)) session result after)
    (registered : ∀ other, graph.Needed done key other → catalog.Declares graph other)
    (completes : graph.Completes done [key] order) {node : Node ε} (succeeded : result = .ok node) :
    after.executor.generated = listing done order := by
  have listed :=
    (run.generated_eq_listing resumes.walking registered resumes.closed succeeded completes).1
  obtain ⟨keys, isPrefix, generated⟩ := resumes.listed
  rw [listed, Task.last, List.append_nil, generated, listing_of_prefix done isPrefix]

/-- Whatever comes of a call, the next one resumes from there. -/
private theorem step (resumes : session.Resumes graph done order)
    (run : Runs catalog (.target (.key key)) session result after)
    (registered : ∀ other, graph.Needed done key other → catalog.Declares graph other)
    (completes : graph.Completes done [key] order) : after.Resumes graph done order := by
  have steady := resumes.idle.steady
  have idle : after.Idle :=
    ⟨(run.steady_and_kept steady trivial).1.own, run.stack_eq.trans resumes.idle.stack_nil⟩
  have orderly := run.orderly steady trivial resumes.orderly
  have accounted := run.accounted steady trivial resumes.orderly resumes.accounted
  have walking : Walking graph done key (.target (.key key)) session := resumes.walking
  rcases outcome : result with failure | node
  · obtain ⟨listed, isPrefix, generated, closed⟩ := run.generated_eq_listing_prefix walking registered
      resumes.closed outcome completes
    rw [Task.last, List.append_nil] at isPrefix
    obtain ⟨keys, isPrefixKeys, generatedBefore⟩ := resumes.listed
    refine ⟨idle, orderly, accounted, closed, ?_⟩
    -- the call has gone over the same order from its beginning, less far than before or further
    rcases List.prefix_or_prefix_of_prefix isPrefixKeys isPrefix with further | lessFar
    · exact ⟨listed, isPrefix, by rw [generated, generatedBefore, listing_of_prefix done further]⟩
    · have known : ∀ other ∈ listed, other ∈ listing done keys :=
        fun other member => mem_listing.mpr (.inr (lessFar.subset member))
      exact ⟨keys, isPrefixKeys, by rw [generated, generatedBefore, listing_of_subset known]⟩
  · have closed := (run.generated_eq_listing walking registered resumes.closed outcome completes).2
    exact ⟨idle, orderly, accounted, closed, order, List.prefix_rfl,
      resumes.completed run registered completes outcome⟩

/-- A call that begins no generation in vain completes the order. -/
private theorem unfailing (resumes : session.Resumes graph done order)
    (run : Runs catalog (.target (.key key)) session result after)
    (registered : ∀ other, graph.Needed done key other → catalog.Declares graph other)
    (acyclic : ∀ other, graph.Needed done key other → ¬ TransGen (graph.Open done) other other)
    (completes : graph.Completes done [key] order) (allFinished : session.AllFinished after) :
    (∃ node, result = .ok node) ∧ after.executor.generated = listing done order := by
  rcases outcome : result with failure | node
  · obtain ⟨other, -, started, unfinished⟩ :=
      run.fails_of_error resumes.walking registered acyclic resumes.accounted outcome
    exact absurd (allFinished other (List.mem_filterMap.mpr ⟨_, started, rfl⟩)) unfinished
  · exact ⟨⟨node, rfl⟩, resumes.completed run registered completes outcome⟩

end Session.Resumes

namespace Resolution

/-- The session after calls for targets and then so many calls for one key, whatever came of each. -/
def attempt (catalog : Catalog σ ε) (workshop : Workshop σ) (targets : List (Target σ ε))
    (key : String) (count : Nat) : Session σ ε :=
  callAll catalog (targets ++ List.replicate count (.key key)) (.fresh workshop)

section

variable (catalog : Catalog σ ε) (workshop : Workshop σ) (targets : List (Target σ ε)) (key : String)

private theorem attempt_succ (count : Nat) :
    attempt catalog workshop targets key (count + 1) =
      (call catalog (.key key) (attempt catalog workshop targets key count)).2 := by
  rw [attempt, List.replicate_succ', ← List.append_assoc, callAll, List.foldl_append]
  rfl

private theorem attempt_idle (count : Nat) : (attempt catalog workshop targets key count).Idle :=
  (callAll_orderly catalog workshop _).1

private theorem attempt_runs (count : Nat) :
    Runs catalog (.target (.key key)) (attempt catalog workshop targets key count)
      (call catalog (.key key) (attempt catalog workshop targets key count)).1
      (attempt catalog workshop targets key (count + 1)) := by
  rw [attempt_succ]
  exact call_runs (.key key) (attempt_idle catalog workshop targets key count)

variable {catalog workshop targets key}

private theorem attempt_resumes {graph : KeyGraph} {order : List String}
    (registered : ∀ other,
      graph.Needed (attempt catalog workshop targets key 0).executor.generated key other →
        catalog.Declares graph other)
    (completes :
      graph.Completes (attempt catalog workshop targets key 0).executor.generated [key] order)
    (count : Nat) :
    (attempt catalog workshop targets key count).Resumes graph
      (attempt catalog workshop targets key 0).executor.generated order := by
  induction count with
  | zero =>
    obtain ⟨orderly, accounted⟩ := callAll_accounted catalog workshop (targets ++ [])
    exact .start (attempt_idle catalog workshop targets key 0) orderly accounted
  | succ count ih =>
    exact ih.step (attempt_runs catalog workshop targets key count) registered completes

/-- If each key fails finitely often then not all attempts fail. -/
theorem exists_attempt_ok {graph : KeyGraph}
    (registered : ∀ other,
      graph.Needed (attempt catalog workshop targets key 0).executor.generated key other →
        catalog.Declares graph other)
    (acyclic : ∀ other,
      graph.Needed (attempt catalog workshop targets key 0).executor.generated key other →
        ¬ TransGen (graph.Open (attempt catalog workshop targets key 0).executor.generated) other other)
    (transient : ∀ other, {count | (attempt catalog workshop targets key count).Fails
      (attempt catalog workshop targets key (count + 1)) other}.Finite)
    {order : List String}
    (completes :
      graph.Completes (attempt catalog workshop targets key 0).executor.generated [key] order) :
    ∃ count node,
      (call catalog (.key key) (attempt catalog workshop targets key count)).1 = .ok node := by
  by_contra allFail
  have covered : Set.univ ⊆ ⋃ other ∈ {other | other ∈ catalog.keys},
      {count | (attempt catalog workshop targets key count).Fails
        (attempt catalog workshop targets key (count + 1)) other} := by
    intro count _
    have resumes := attempt_resumes registered completes count
    have run := attempt_runs catalog workshop targets key count
    rcases outcome : (call catalog (.key key) (attempt catalog workshop targets key count)).1 with
      failure | node
    · obtain ⟨other, needed, fails⟩ :=
        run.fails_of_error resumes.walking registered acyclic resumes.accounted outcome
      exact Set.mem_biUnion (registered other needed).mem_keys fails
    · exact absurd ⟨count, node, outcome⟩ allFail
  refine Set.infinite_univ (Set.Finite.subset ?_ covered)
  exact (List.finite_toSet catalog.keys).biUnion fun other _ => transient other

end

/-- Let every key that a target needs be registered with a factory of that key, on no cycle, and let
each key fail to generate in finitely many attempts only. Then one of the attempts returns the asset.
The keys generated by then are those that were there and the needed ones in post-order, as in a single
call in which nothing fails; every attempt leaves the first part of them, and keeps what the attempts
before it have recorded. -/
theorem attempts_generate_postorder (catalog : Catalog σ ε) (graph : KeyGraph)
    (workshop : Workshop σ) (targets : List (Target σ ε)) (key : String) :
    let after := attempt catalog workshop targets key
    let result := fun count => (call catalog (.key key) (after count)).1
    let before := after 0
    let done := before.executor.generated
    (∀ other, graph.Needed done key other → catalog.Declares graph other) →
    (∀ other, graph.Needed done key other → ¬ TransGen (graph.Open done) other other) →
    (∀ other, {count | (after count).Fails (after (count + 1)) other}.Finite) →
    ∃ tries node order, graph.Completes done [key] order ∧
      (∀ count < tries, ∃ failure, result count = .error failure) ∧
      result tries = .ok node ∧
      (after (tries + 1)).executor.generated = done ++ order.eraseDups ∧
      (∀ count, (after count).executor.generated <+: done ++ order.eraseDups ∧
        (after count).Grown (after (count + 1))) ∧
      ∀ (τ : Type) (calm : Catalog τ ε) (other : Workshop τ),
        let single := call calm (.key key) ⟨other, before.executor⟩
        (∀ needed, graph.Needed done key needed → calm.Declares graph needed) →
        (⟨other, before.executor⟩ : Session τ ε).AllFinished single.2 →
        (∃ node, single.1 = .ok node) ∧ single.2.executor.generated = done ++ order.eraseDups := by
  intro after result before done registered acyclic transient
  obtain ⟨order, completes⟩ := KeyGraph.exists_completes catalog.keys
    (fun other needed => (registered other needed).mem_keys) acyclic
  have listed : listing done order = done ++ order.eraseDups := by
    have fresh : order.filter (· ∉ done) = order := by
      refine List.filter_eq_self.mpr fun other member => ?_
      obtain ⟨root, -, needed⟩ := (completes.mem_iff other).mp member
      simpa using needed.not_mem
    rw [listing_eq_append, fresh]
  have resumes (count : Nat) : (after count).Resumes graph done order :=
    attempt_resumes registered completes count
  have runs (count : Nat) : Runs catalog (.target (.key key)) (after count) (result count)
      (after (count + 1)) := attempt_runs catalog workshop targets key count
  have succeeds : ∃ count node, result count = .ok node :=
    exists_attempt_ok registered acyclic transient completes
  classical
  obtain ⟨node, succeeded⟩ := Nat.find_spec succeeds
  refine ⟨Nat.find succeeds, node, order, completes, ?_, succeeded, ?_, ?_, ?_⟩
  · intro count earlier
    rcases outcome : result count with failure | node
    · exact ⟨failure, rfl⟩
    · exact absurd ⟨node, outcome⟩ (Nat.find_min succeeds earlier)
  · rw [← listed]
    exact (resumes _).completed (runs _) registered completes succeeded
  · intro count
    rw [← listed]
    exact ⟨(resumes count).isPrefix, (runs count).grown⟩
  · intro τ calm other single declared allFinished
    rw [← listed]
    have idle : (⟨other, before.executor⟩ : Session τ ε).Idle :=
      ⟨(resumes 0).idle.own, (resumes 0).idle.stack_nil⟩
    have start : (⟨other, before.executor⟩ : Session τ ε).Resumes graph done order :=
      .start idle (resumes 0).orderly ⟨(resumes 0).accounted.ended, (resumes 0).accounted.lasting⟩
    exact start.unfailing (call_runs (.key key) start.idle) declared acyclic completes allFinished

/-- Assets that fail in turn: the first as long as nothing has failed, and each of the others as long
as no more has failed than those before it. -/
def stubborn : Catalog Nat Unit :=
  ⟨[late "base" [] 1, late "link" ["base"] 2, late "top" ["base", "link", "base"] 3], by decide⟩

/-- The assets that fail in turn, without their failures. -/
def docile : Catalog Unit Unit :=
  ⟨[plain "base" [], plain "link" ["base"], plain "top" ["base", "link", "base"]], by decide⟩

/-- What the assets that fail in turn depend on. -/
def stubbornGraph : KeyGraph
  | "link" => ["base"]
  | "top" => ["base", "link", "base"]
  | _ => []

private theorem stubborn_needed {done : List String} {other : String}
    (needed : stubbornGraph.Needed done "top" other) : other ∈ ["base", "link", "top"] := by
  induction needed.2 with
  | refl => simp
  | tail _ next _ =>
    have member := next.1
    unfold stubbornGraph at member
    split at member <;> simp at member ⊢ <;> tauto

private theorem stubborn_declares {done : List String} {other : String}
    (needed : stubbornGraph.Needed done "top" other) : stubborn.Declares stubbornGraph other := by
  have member := stubborn_needed needed
  simp only [List.mem_cons, List.not_mem_nil, or_false] at member
  rcases member with rfl | rfl | rfl <;> exact ⟨_, rfl, fun _ => ⟨_, rfl, rfl, rfl⟩⟩

private theorem docile_declares {done : List String} {other : String}
    (needed : stubbornGraph.Needed done "top" other) : docile.Declares stubbornGraph other := by
  have member := stubborn_needed needed
  simp only [List.mem_cons, List.not_mem_nil, or_false] at member
  rcases member with rfl | rfl | rfl <;> exact ⟨_, rfl, fun _ => ⟨_, rfl, rfl, rfl⟩⟩

private theorem stubborn_acyclic {done : List String} (key : String) :
    ¬ TransGen (stubbornGraph.Open done) key key := by
  refine KeyGraph.not_cyclic_of_rank (fun key => ["base", "link", "top"].idxOf key) ?_ key
  rintro key other ⟨member, -⟩
  unfold stubbornGraph at member
  split at member <;> simp at member
  · subst member; decide
  · rcases member with rfl | rfl | rfl <;> decide

/-- From the fourth attempt on the top is recorded, and nothing is begun. -/
private theorem stubborn_transient (other : String) :
    {count | (attempt stubborn untriedWorkshop [] "top" count).Fails
      (attempt stubborn untriedWorkshop [] "top" (count + 1)) other}.Finite := by
  have recorded (count : Nat) : ∃ node, (attempt stubborn untriedWorkshop [] "top"
      (4 + count)).executor.parents.get? "top" = some node := by
    induction count with
    | zero => exact Option.isSome_iff_exists.mp (by decide +kernel)
    | succ count ih =>
      obtain ⟨node, known⟩ := ih
      exact ⟨node, (attempt_runs stubborn untriedWorkshop [] "top" (4 + count)).grown.get? known⟩
  refine (Set.finite_lt_nat 4).subset fun count fails => ?_
  by_contra atLeast
  obtain ⟨later, rfl⟩ := Nat.exists_eq_add_of_le (Nat.le_of_not_lt atLeast)
  obtain ⟨node, known⟩ := recorded later
  have run := attempt_runs stubborn untriedWorkshop [] "top" (4 + later)
  exact run.not_fails_of_recorded known fails

/-- Three attempts fail, each at another key, and the fourth one returns the top. The keys are those
of one call in which nothing fails. -/
theorem stubborn_generates_postorder :
    let after := attempt stubborn untriedWorkshop [] "top"
    let single := call docile (.key "top") ⟨bareWorkshop, (after 0).executor⟩
    (List.range 5).map (fun count => (after count).executor.generated) =
      [[], [], ["base"], ["base", "link"], ["base", "link", "top"]] ∧
    ∃ tries node,
      (∀ count < tries, ∃ failure, (call stubborn (.key "top") (after count)).1 = .error failure) ∧
      (call stubborn (.key "top") (after tries)).1 = .ok node ∧
      (after (tries + 1)).executor.generated = single.2.executor.generated ∧
      ∀ count, (after count).executor.generated <+: single.2.executor.generated := by
  obtain ⟨tries, node, order, -, failed, succeeded, generated, prefixes, calm⟩ :=
    attempts_generate_postorder stubborn stubbornGraph untriedWorkshop [] "top"
      (fun _ => stubborn_declares) (fun other _ => stubborn_acyclic other) stubborn_transient
  have same := (calm Unit docile bareWorkshop (fun _ => docile_declares) (by decide +kernel)).2
  refine ⟨by decide +kernel, tries, node, failed, succeeded, generated.trans same.symm, ?_⟩
  intro count
  rw [same]
  exact (prefixes count).1

end Resolution

end CertGraph
