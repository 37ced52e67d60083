import CertGraph.Proofs.Resolution.Moments
import CertGraph.Proofs.Resolution.PostOrder

/- What the history of an executor tells: when generations are begun, which of them are finished, and
that no generation is begun again after it was finished. -/
set_option autoImplicit false
set_option relaxedAutoImplicit false

namespace CertGraph

variable {σ ε : Type}

/-- The key of the asset whose generation is ended without a failure by an event. -/
def Event.ended? : Event → Option String
  | .finished key => some key
  | _ => none

/-- The second event does not begin a generation that the first one finished. -/
def Event.Lasts (first second : Event) : Prop :=
  ∀ key, first = .finished key → second ≠ .started key

/-- What was finished is what is generated, and nothing was begun once it was finished. -/
structure Session.Accounted (session : Session σ ε) : Prop where
  ended : session.executor.history.filterMap Event.ended? = session.executor.generated
  lasting : session.executor.history.Pairwise Event.Lasts

namespace Session.Accounted

variable {session : Session σ ε}

private theorem fresh (workshop : Workshop σ) : (Session.fresh workshop : Session σ ε).Accounted :=
  ⟨rfl, .nil⟩

theorem mem_generated (accounted : session.Accounted) {key : String}
    (told : Event.finished key ∈ session.executor.history) : key ∈ session.executor.generated := by
  rw [← accounted.ended]
  exact List.mem_filterMap.mpr ⟨_, told, rfl⟩

private theorem noted {event : Event} (accounted : session.Accounted) (unended : event.ended? = none)
    (unfinished : ∀ key, event = .started key → key ∉ session.executor.generated) :
    (session.noted event).Accounted := by
  constructor
  · show (session.executor.history ++ [event]).filterMap Event.ended? = session.executor.generated
    rw [List.filterMap_append, accounted.ended]
    simp [unended]
  · refine List.pairwise_append.mpr ⟨accounted.lasting, List.pairwise_singleton _ _, ?_⟩
    intro first told second isLast key finished begun
    obtain rfl := List.mem_singleton.mp isLast
    exact unfinished key begun (accounted.mem_generated (finished ▸ told))

private theorem told (accounted : session.Accounted) (report : Report) :
    (session.told report).Accounted :=
  have noted : (session.noted (.reported report)).Accounted := accounted.noted rfl nofun
  ⟨noted.ended, noted.lasting⟩

private theorem push (accounted : session.Accounted) (key : String) : (session.push key).Accounted :=
  have noted : (session.noted (.entered (session.executor.stack ++ [key]))).Accounted :=
    accounted.noted rfl nofun
  ⟨noted.ended, noted.lasting⟩

private theorem starting {asset : Asset σ ε} (accounted : session.Accounted)
    (ungenerated : asset.key ∉ session.executor.generated) : (session.starting asset).Accounted := by
  refine (accounted.told _).noted rfl ?_
  rintro key ⟨rfl⟩
  exact ungenerated

/-- Keeping an asset right after its generation was finished. -/
private theorem finishing (node : Node ε) (accounted : session.Accounted) :
    ((session.noted (.finished node.key)).pop.keeping node).Accounted := by
  constructor
  · show (session.executor.history ++ [Event.finished node.key]).filterMap Event.ended? =
      session.executor.generated ++ [node.key]
    rw [List.filterMap_append, accounted.ended]
    rfl
  · refine List.pairwise_append.mpr ⟨accounted.lasting, List.pairwise_singleton _ _, ?_⟩
    intro first told second isLast key finished begun
    rw [List.mem_singleton.mp isLast] at begun
    cases begun

end Session.Accounted

/-- What was begun from one session to another: some assets that are recorded since, in order, and then
perhaps one more that is not. -/
structure Session.Progress (before after : Session σ ε) (keys : List String)
    (broken : Option String) : Prop where
  generated : after.executor.generated = before.executor.generated ++ keys
  begun : after.executor.history.filterMap Event.begun? =
    before.executor.history.filterMap Event.begun? ++ (keys ++ broken.toList)
  unrecorded : ∀ key ∈ broken, after.executor.parents.get? key = none

private theorem begun_starting (session : Session σ ε) (asset : Asset σ ε) :
    (session.starting asset).executor.history.filterMap Event.begun? =
      session.executor.history.filterMap Event.begun? ++ [asset.key] := by
  show (session.executor.history ++ [Event.reported _] ++ [Event.started asset.key]).filterMap
    Event.begun? = _
  rw [List.filterMap_append, List.filterMap_append]
  exact congrArg (· ++ [asset.key]) (List.append_nil _)

namespace Session.Progress

variable {first second third : Session σ ε} {keys more : List String} {broken : Option String}

private theorem same {before after : Session σ ε} (executor : after.executor = before.executor) :
    before.Progress after [] none :=
  ⟨by simp [executor], by simp [executor], nofun⟩

private theorem told (session : Session σ ε) (report : Report) :
    session.Progress (session.told report) [] none :=
  ⟨(List.append_nil _).symm, by simp [Session.told, Session.noted, Event.begun?], nofun⟩

private theorem push (session : Session σ ε) (key : String) :
    session.Progress (session.push key) [] none :=
  ⟨(List.append_nil _).symm, by simp [Session.push, Event.begun?], nofun⟩

theorem trans (earlier : first.Progress second keys none)
    (later : second.Progress third more broken) : first.Progress third (keys ++ more) broken := by
  refine ⟨?_, ?_, later.unrecorded⟩
  · rw [later.generated, earlier.generated, List.append_assoc]
  · rw [later.begun, earlier.begun]
    simp

/-- No generation is begun twice. -/
private theorem nodup_begun (progress : first.Progress second keys broken)
    (orderly : second.executor.Orderly)
    (extended : first.executor.history <+: second.executor.history) :
    ((first.eventsUntil second).filterMap Event.begun?).Nodup := by
  obtain ⟨events, history⟩ := extended
  have since : first.eventsUntil second = events := by simp [Session.eventsUntil, ← history]
  have begun : events.filterMap Event.begun? = keys ++ broken.toList := by
    have whole := progress.begun
    rw [← history, List.filterMap_append] at whole
    exact List.append_cancel_left whole
  have nodup := orderly.nodup
  rw [progress.generated] at nodup
  rw [since, begun]
  refine List.nodup_append.mpr ⟨(List.nodup_append.mp nodup).2.1, ?_, ?_⟩
  · cases broken <;> simp
  · intro key inKeys other isBroken same
    subst same
    have absent := progress.unrecorded key (Option.mem_toList.mp isBroken)
    rw [Parents.get?_eq_none_iff, ← orderly.generated_eq, progress.generated] at absent
    exact absent (List.mem_append_right _ inKeys)

end Session.Progress

/-- A generation that is begun at a moment is finished next, or else it fails, the run fails with it,
and nothing more happens. -/
def Session.Settles (moment : Session σ ε) (asset : Asset σ ε) (result : Except Failure (Node ε))
    (after : Session σ ε) : Prop :=
  (∃ product workshop, (asset.generate moment.executor.parents).outcome
      (moment.starting asset).workshop = (.ok product, workshop)) ∧
    (moment.starting asset).executor.history ++ [.finished asset.key] <+: after.executor.history ∨
  (∃ failure workshop, (asset.generate moment.executor.parents).outcome
      (moment.starting asset).workshop = (.error failure, workshop)) ∧
    after.executor.history = (moment.starting asset).executor.history ∧
    ∃ failure, result = .error failure

private theorem Session.Settles.extend {moment middle after : Session σ ε} {asset : Asset σ ε}
    {node : Node ε} {result : Except Failure (Node ε)}
    (settles : moment.Settles asset (.ok node) middle)
    (extended : middle.executor.history <+: after.executor.history) :
    moment.Settles asset result after := by
  rcases settles with ⟨generated, finished⟩ | ⟨-, -, failure, failed⟩
  · exact .inl ⟨generated, finished.trans extended⟩
  · cases failed

private theorem Session.Settles.unfetched {moment middle : Session σ ε} {asset : Asset σ ε}
    {failure other : Failure} (settles : moment.Settles asset (.error failure) middle) :
    moment.Settles asset (.error other) middle.pop := by
  rcases settles with ⟨generated, finished⟩ | ⟨raised, last, -⟩
  · exact .inl ⟨generated, finished⟩
  · exact .inr ⟨raised, last, other, rfl⟩

/-- An event that ends a history is not behind another event. -/
private theorem prefix_of_concat {history earlier : List Event} {event last : Event}
    (told : earlier ++ [event] <+: history ++ [last]) (unlike : event ≠ last) :
    earlier ++ [event] <+: history := by
  rcases List.prefix_concat_iff.mp told with whole | inside
  · exact absurd (List.append_inj' whole rfl).2 (by simpa using unlike)
  · exact inside

namespace Runs

variable {catalog : Catalog σ ε} {task : Task σ ε} {session after : Session σ ε}
  {result : Except Failure (Node ε)}

theorem accounted (run : Runs catalog task session result after) (steady : session.Steady)
    (ready : task.Ready session) (orderly : session.executor.Orderly)
    (accounted : session.Accounted) : after.Accounted := by
  have ungenerated {asset : Asset σ ε} {session : Session σ ε} (steady : session.Steady)
      (ready : (Task.finish asset []).Ready session) (orderly : session.executor.Orderly) :
      asset.key ∉ session.executor.generated := by
    rw [orderly.generated_eq]
    exact Parents.get?_eq_none_iff.mp (steady.absent _ (List.mem_of_getLast? ready.1))
  induction run with
  | reuseKey known => exact accounted.told _
  | reuseAsset known => exact accounted.told _
  | uncreated absent created => exact ⟨accounted.ended, accounted.lasting⟩
  | created absent created rest ih =>
    exact ih ⟨steady.own, steady.nodup, steady.absent⟩ trivial orderly
      ⟨accounted.ended, accounted.lasting⟩
  | cycle absent stacked => exact accounted
  | visited absent unstacked rest ih =>
    exact ih (steady.push absent unstacked) (.pushed _ _)
      ⟨orderly.nodup, orderly.generated_eq, orderly.own, orderly.dependencies⟩ (accounted.push _)
  | fetched first rest ihFirst ihRest =>
    obtain ⟨steadyMiddle, kept⟩ := first.steady_and_kept steady trivial
    exact ihRest steadyMiddle (ready.fetched first.grown first.stack_eq (kept _ rfl))
      (first.orderly steady trivial orderly) (ihFirst steady trivial orderly accounted)
  | unfetched first ih =>
    have middle := ih steady trivial orderly accounted
    exact ⟨middle.ended, middle.lasting⟩
  | broken failed =>
    have begun := accounted.starting (ungenerated steady ready orderly)
    exact ⟨begun.ended, begun.lasting⟩
  | @made asset product session workshop generated =>
    have begun := accounted.starting (ungenerated steady ready orderly)
    have middle : ({ session.starting asset with workshop } : Session σ ε).Accounted :=
      ⟨begun.ended, begun.lasting⟩
    exact middle.finishing (asset.holding product)

/-- A run begins the generations of what it records, and at most one more, at which it fails. -/
theorem progress (run : Runs catalog task session result after) (steady : session.Steady)
    (ready : task.Ready session) :
    ∃ keys broken, session.Progress after keys broken ∧
      ∀ node, result = .ok node → broken = none := by
  induction run with
  | reuseKey known => exact ⟨[], none, .told _ _, fun _ _ => rfl⟩
  | reuseAsset known => exact ⟨[], none, .told _ _, fun _ _ => rfl⟩
  | uncreated absent created => exact ⟨[], none, .same rfl, fun _ _ => rfl⟩
  | created absent created rest ih =>
    obtain ⟨keys, broken, progress, unbroken⟩ :=
      ih ⟨steady.own, steady.nodup, steady.absent⟩ trivial
    exact ⟨keys, broken, ⟨progress.generated, progress.begun, progress.unrecorded⟩, unbroken⟩
  | cycle absent stacked => exact ⟨[], none, .same rfl, fun _ _ => rfl⟩
  | @visited asset session after result absent unstacked rest ih =>
    obtain ⟨keys, broken, progress, unbroken⟩ := ih (steady.push absent unstacked) (.pushed _ _)
    exact ⟨keys, broken, (Session.Progress.push session asset.key).trans progress, unbroken⟩
  | fetched first rest ihFirst ihRest =>
    obtain ⟨steadyMiddle, kept⟩ := first.steady_and_kept steady trivial
    obtain ⟨keys, broken, progressFirst, unbroken⟩ := ihFirst steady trivial
    obtain ⟨more, brokenRest, progressRest, unbrokenRest⟩ :=
      ihRest steadyMiddle (ready.fetched first.grown first.stack_eq (kept _ rfl))
    obtain rfl := unbroken _ rfl
    exact ⟨keys ++ more, brokenRest, progressFirst.trans progressRest, unbrokenRest⟩
  | unfetched first ih =>
    obtain ⟨keys, broken, progress, -⟩ := ih steady trivial
    exact ⟨keys, broken, ⟨progress.generated, progress.begun, progress.unrecorded⟩, by rintro _ ⟨⟩⟩
  | @broken asset failure session workshop failed =>
    refine ⟨[], some asset.key, ⟨(List.append_nil _).symm, begun_starting session asset, ?_⟩,
      by rintro _ ⟨⟩⟩
    rintro key ⟨rfl⟩
    exact steady.absent _ (List.mem_of_getLast? ready.1)
  | @made asset product session workshop generated =>
    refine ⟨[asset.key], none, ⟨rfl, ?_, nofun⟩, fun _ _ => rfl⟩
    show ((session.starting asset).executor.history ++ [Event.finished asset.key]).filterMap
      Event.begun? = _
    rw [List.filterMap_append, begun_starting]
    exact List.append_nil _

/-- Where a run begins a generation, it has come to the moment for it. -/
theorem comes_of_started (run : Runs catalog task session result after) {earlier : List Event}
    {key : String} (told : earlier ++ [.started key] <+: after.executor.history) :
    earlier ++ [.started key] <+: session.executor.history ∨
      ∃ asset moment, Comes catalog task session (.finish asset []) moment ∧ asset.key = key ∧
        (moment.starting asset).executor.history = earlier ++ [.started key] ∧
        moment.Settles asset result after := by
  have atStart {asset : Asset σ ε} {session : Session σ ε}
      (told : earlier ++ [.started key] <+: (session.starting asset).executor.history) :
      earlier ++ [.started key] <+: session.executor.history ∨ asset.key = key ∧
        (session.starting asset).executor.history = earlier ++ [.started key] := by
    rcases List.prefix_concat_iff.mp told with whole | inside
    · have same : Event.started key = .started asset.key :=
        List.singleton_inj.mp (List.append_inj' whole rfl).2
      cases same
      exact .inr ⟨rfl, whole.symm⟩
    · exact .inl (prefix_of_concat inside nofun)
  induction run with
  | reuseKey known => exact .inl (prefix_of_concat told nofun)
  | reuseAsset known => exact .inl (prefix_of_concat told nofun)
  | uncreated absent created => exact .inl told
  | created absent created rest ih =>
    exact (ih told).imp_right fun ⟨asset, moment, comes, begun⟩ =>
      ⟨asset, moment, .created absent created comes, begun⟩
  | cycle absent stacked => exact .inl told
  | visited absent unstacked rest ih =>
    rcases ih told with before | ⟨asset, moment, comes, begun⟩
    · exact .inl (prefix_of_concat before nofun)
    · exact .inr ⟨asset, moment, .visited absent unstacked comes, begun⟩
  | fetched first rest ihFirst ihRest =>
    rcases ihRest told with inMiddle | ⟨asset, moment, comes, begun⟩
    · exact (ihFirst inMiddle).imp_right fun ⟨asset, moment, comes, same, history, settles⟩ =>
        ⟨asset, moment, .fetching comes, same, history, settles.extend rest.grown.history⟩
    · exact .inr ⟨asset, moment, .fetched first comes, begun⟩
  | unfetched first ih =>
    exact (ih told).imp_right fun ⟨asset, moment, comes, same, history, settles⟩ =>
      ⟨asset, moment, .fetching comes, same, history, settles.unfetched⟩
  | broken failed =>
    exact (atStart told).imp_right fun ⟨same, history⟩ =>
      ⟨_, _, .here, same, history, .inr ⟨⟨_, _, failed⟩, rfl, _, rfl⟩⟩
  | made generated =>
    exact (atStart (prefix_of_concat told nofun)).imp_right fun ⟨same, history⟩ =>
      ⟨_, _, .here, same, history, .inl ⟨⟨_, _, generated⟩, List.prefix_rfl⟩⟩

end Runs

namespace Comes

variable {catalog : Catalog σ ε} {task later : Task σ ε} {session moment : Session σ ε}

private theorem orderly_and_accounted (comes : Comes catalog task session later moment)
    (steady : session.Steady) (ready : task.Ready session) (orderly : session.executor.Orderly)
    (accounted : session.Accounted) : moment.executor.Orderly ∧ moment.Accounted := by
  induction comes with
  | here => exact ⟨orderly, accounted⟩
  | created absent created rest ih =>
    exact ih ⟨steady.own, steady.nodup, steady.absent⟩ trivial orderly
      ⟨accounted.ended, accounted.lasting⟩
  | visited absent unstacked rest ih =>
    exact ih (steady.push absent unstacked) (.pushed _ _)
      ⟨orderly.nodup, orderly.generated_eq, orderly.own, orderly.dependencies⟩ (accounted.push _)
  | fetching first ih => exact ih steady trivial orderly accounted
  | fetched first rest ih =>
    obtain ⟨steadyMiddle, kept⟩ := first.steady_and_kept steady trivial
    exact ih steadyMiddle (ready.fetched first.grown first.stack_eq (kept _ rfl))
      (first.orderly steady trivial orderly) (first.accounted steady trivial orderly accounted)

end Comes

namespace Resolution

theorem callAll_accounted (catalog : Catalog σ ε) (workshop : Workshop σ)
    (targets : List (Target σ ε)) :
    (callAll catalog targets (.fresh workshop)).executor.Orderly ∧
      (callAll catalog targets (.fresh workshop)).Accounted :=
  (callAll_induction
    (motive := fun session : Session σ ε => session.executor.Orderly ∧ session.Accounted)
    targets (.fresh workshop) ⟨.fresh, .fresh workshop⟩ fun target _ _ idle ⟨orderly, accounted⟩ =>
      ⟨(call_runs target idle).orderly idle.steady trivial orderly,
        (call_runs target idle).accounted idle.steady trivial orderly accounted⟩).2

/-- Whatever was called for before, and whatever comes of a call. Each generation that the call begins
is begun at a moment at which the asset is not recorded and all that it depends on is, right after the
report about it; it is finished next, or else the call fails and nothing more happens. A generation
that was finished is never begun again, a call begins no generation twice, and the generations that
were finished are those of the generated keys, in order. -/
theorem call_begins_in_turn (catalog : Catalog σ ε) (workshop : Workshop σ)
    (targets : List (Target σ ε)) (target : Target σ ε) :
    let before := callAll catalog targets (.fresh workshop)
    let result := (call catalog target before).1
    let after := (call catalog target before).2
    (∀ earlier key, earlier ++ [.started key] <+: after.executor.history →
      ¬ earlier ++ [.started key] <+: before.executor.history →
      ∃ asset moment, Comes catalog (.target target) before (.finish asset []) moment ∧
        asset.key = key ∧
        earlier = moment.executor.history ++
          [.reported ⟨.info, "Generating " ++ asset.name, some key⟩] ∧
        (moment.starting asset).workshop.journal.getLast? =
          some ⟨.info, "Generating " ++ asset.name, some key⟩ ∧
        moment.executor.parents.keys = earlier.filterMap Event.ended? ∧
        moment.executor.parents.get? key = none ∧
        (∀ dependency ∈ asset.dependencies,
          ∃ node, moment.executor.parents.get? dependency = some node) ∧
        moment.Settles asset result after) ∧
    (∀ earlier key later, after.executor.history = earlier ++ .finished key :: later →
      .started key ∉ later ∧ .finished key ∉ later) ∧
    ((before.eventsUntil after).filterMap Event.begun?).Nodup ∧
    after.executor.history.filterMap Event.ended? = after.executor.generated := by
  intro before result after
  obtain ⟨idle, -⟩ := callAll_orderly catalog workshop targets
  obtain ⟨orderly, accounted⟩ := callAll_accounted catalog workshop targets
  have run : Runs catalog (.target target) before result after := call_runs target idle
  have orderlyAfter : after.executor.Orderly := run.orderly idle.steady trivial orderly
  have accountedAfter : after.Accounted := run.accounted idle.steady trivial orderly accounted
  refine ⟨?_, ?_, ?_, accountedAfter.ended⟩
  · intro earlier key told isNew
    obtain ⟨asset, moment, comes, rfl, history, settles⟩ :=
      (run.comes_of_started told).resolve_left isNew
    obtain ⟨orderlyMoment, accountedMoment⟩ :=
      comes.orderly_and_accounted idle.steady trivial orderly accounted
    obtain ⟨absent, prepared⟩ := comes.generating idle.steady trivial
    have reported : earlier = moment.executor.history ++
        [.reported ⟨.info, "Generating " ++ asset.name, some asset.key⟩] :=
      (List.append_cancel_right history).symm
    have ended : earlier.filterMap Event.ended? = moment.executor.parents.keys := by
      rw [reported, List.filterMap_append, accountedMoment.ended, orderlyMoment.generated_eq]
      exact List.append_nil _
    exact ⟨asset, moment, comes, rfl, reported, List.getLast?_concat, ended.symm, absent, prepared,
      settles⟩
  · intro earlier key later history
    have nodup := orderlyAfter.nodup
    rw [← accountedAfter.ended, history, List.filterMap_append, List.nodup_append] at nodup
    have lasting := accountedAfter.lasting
    rw [history, List.pairwise_append, List.pairwise_cons] at lasting
    constructor
    · intro again
      exact lasting.2.1.1 _ again key rfl rfl
    · intro again
      have twice : key ∈ later.filterMap Event.ended? := List.mem_filterMap.mpr ⟨_, again, rfl⟩
      exact (List.nodup_cons.mp nodup.2.1).1 twice
  · obtain ⟨keys, broken, progress, -⟩ := run.progress idle.steady trivial
    exact progress.nodup_begun orderlyAfter run.grown.history

/-- An asset that fails to generate as long as the workshop has not seen so many failures. -/
def late (key : String) (dependencies : List String) (failures : Nat) :
    String × Factory Nat Unit :=
  (key, .always (.custom ⟨key, key, dependencies, none, (), fun _ workshop =>
    if workshop.app < failures then
      .error (.application "RuntimeError" "not yet") { workshop with app := workshop.app + 1 }
    else .ok (none, ()) workshop⟩))

/-- Assets one of which fails once; the others need it or what it needs. -/
def flaky : Catalog Nat Unit :=
  ⟨[late "base" [] 0, late "link" ["base"] 1, late "top" ["base", "link", "base"] 0], by decide⟩

/-- A workshop that has seen no failure yet, with no keys to take. -/
def untriedWorkshop : Workshop Nat :=
  ⟨.fresh ⟨fun _ => .error (.refused ""), fun _ => 0⟩ ⟨0⟩, [], 0⟩

/-- A call fails at the link, and the next one begins with the link: the base is not begun again, and
the top is begun last, when both are recorded. -/
theorem flaky_begins_in_turn :
    let before := callAll flaky [.key "top"] (.fresh untriedWorkshop)
    let result := (call flaky (.key "top") before).1
    let after := (call flaky (.key "top") before).2
    before.executor.history.filterMap Event.begun? = ["base", "link"] ∧
    (before.eventsUntil after).filterMap Event.begun? = ["link", "top"] ∧
    after.executor.history.filterMap Event.ended? = ["base", "link", "top"] ∧
    after.executor.generated = ["base", "link", "top"] ∧
    ∃ asset moment, Comes flaky (.target (.key "top")) before (.finish asset []) moment ∧
      asset.key = "top" ∧ moment.executor.parents.keys = ["base", "link"] ∧
      (∀ dependency ∈ asset.dependencies,
        ∃ node, moment.executor.parents.get? dependency = some node) ∧
      moment.Settles asset result after := by
  have main := call_begins_in_turn flaky untriedWorkshop [.key "top"] (.key "top")
  have firstBegun : (callAll flaky [.key "top"]
      (.fresh untriedWorkshop)).executor.history.filterMap Event.begun? = ["base", "link"] := by
    decide +kernel
  have begun : (((callAll flaky [.key "top"] (.fresh untriedWorkshop)).eventsUntil
      (call flaky (.key "top") (callAll flaky [.key "top"] (.fresh untriedWorkshop))).2).filterMap
        Event.begun?) = ["link", "top"] := by
    decide +kernel
  have generated : (call flaky (.key "top") (callAll flaky [.key "top"]
      (.fresh untriedWorkshop))).2.executor.generated = ["base", "link", "top"] := by
    decide +kernel
  -- the last three events are the report about the top, its beginning and its end
  have told : (call flaky (.key "top") (callAll flaky [.key "top"]
        (.fresh untriedWorkshop))).2.executor.history.dropLast.dropLast ++ [.started "top"] <+:
      (call flaky (.key "top") (callAll flaky [.key "top"]
        (.fresh untriedWorkshop))).2.executor.history := by
    decide +kernel
  have isNew : ¬ (call flaky (.key "top") (callAll flaky [.key "top"]
        (.fresh untriedWorkshop))).2.executor.history.dropLast.dropLast ++ [.started "top"] <+:
      (callAll flaky [.key "top"] (.fresh untriedWorkshop)).executor.history := by
    decide +kernel
  have recorded : (call flaky (.key "top") (callAll flaky [.key "top"]
      (.fresh untriedWorkshop))).2.executor.history.dropLast.dropLast.filterMap Event.ended? =
        ["base", "link"] := by
    decide +kernel
  obtain ⟨asset, moment, comes, same, -, -, keys, -, prepared, settles⟩ :=
    main.1 _ "top" told isNew
  exact ⟨firstBegun, begun, main.2.2.2.trans generated, generated, asset, moment, comes, same,
    keys.trans recorded, prepared, settles⟩

end Resolution

end CertGraph
