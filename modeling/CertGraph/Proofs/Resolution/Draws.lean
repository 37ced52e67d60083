import CertGraph.Proofs.Resolution.Attempts

/- Which key and which serial number each recorded pair holds: draws whose numbers grow in the order of
generation, and which no other attempt took. -/
set_option autoImplicit false
set_option relaxedAutoImplicit false

namespace CertGraph

variable {σ ε : Type}

/-- A recorded pair, the key of its asset, and the numbers of what it was made from, each counted from
zero: the call that asked for its key, the key that was given, and the random bits of its serial
number. -/
structure Draw where
  asset : String
  pair : Pair
  call : Nat
  key : Nat
  random : Nat

namespace Draw

/-- All numbers of one are below those of another. -/
structure Before (earlier later : Draw) : Prop where
  call : earlier.call < later.call
  key : earlier.key < later.key
  random : earlier.random < later.random

/-- The numbers are those of what the pair holds, and its key was asked for with a size. -/
structure Taken (source : Source) (requests : List KeySize) (size : KeySize) (draw : Draw) :
    Prop where
  asked : requests[draw.call]? = some size
  key : source.key draw.key = .ok draw.pair.key
  serial : draw.pair.certificate.body.serial = Serial.ofRandom (source.random draw.random)

/-- Nothing that an attempt took is what the pair was made from. -/
structure Outside (attempt : Attempt σ ε) (draw : Draw) : Prop where
  call : draw.call < attempt.before.supply.requests.length ∨
    attempt.after.supply.requests.length ≤ draw.call
  key : draw.key < attempt.before.supply.keysDrawn ∨ attempt.after.supply.keysDrawn ≤ draw.key
  random : draw.random < attempt.before.supply.serialsDrawn ∨
    attempt.after.supply.serialsDrawn ≤ draw.random

end Draw

namespace Attempt

/-- The draw of an attempt that succeeds with a pair. -/
def draw? (attempt : Attempt σ ε) : Option Draw :=
  attempt.entry?.bind fun entry => entry.2.product.pair?.map fun pair =>
    { asset := entry.1
      pair
      call := attempt.before.supply.requests.length
      key := attempt.before.supply.keysDrawn
      random := attempt.before.supply.serialsDrawn }

/-- What it takes for an attempt to have a draw: the next key and serial number, and nothing else. -/
private theorem draw?_eq_some {attempt : Attempt σ ε} {draw : Draw}
    (drawn : attempt.draw? = some draw) :
    draw = ⟨attempt.asset.key, draw.pair, attempt.before.supply.requests.length,
        attempt.before.supply.keysDrawn, attempt.before.supply.serialsDrawn⟩ ∧
      attempt.before.supply.Gives draw.pair ∧
      ∃ size, attempt.asset.keySize? = some size ∧
        attempt.after.supply = attempt.before.supply.issued size := by
  obtain ⟨asset, parents, before, result, after, generated⟩ := attempt
  cases result with
  | error failure => cases drawn
  | ok product =>
    obtain ⟨pair, holds, rfl⟩ := Option.map_eq_some_iff.mp drawn
    rw [Work.outcome_eq] at generated
    exact ⟨rfl, Asset.generate_drawn generated holds⟩

private theorem entry?_isSome_of_draw? {attempt : Attempt σ ε} {draw : Draw}
    (drawn : attempt.draw? = some draw) : attempt.entry? ≠ none := by
  intro failed
  rw [draw?, failed] at drawn
  cases drawn

private theorem draw_before {earlier later : Attempt σ ε} {first second : Draw}
    (turn : earlier.after.supply.Before later.before.supply)
    (drawnFirst : earlier.draw? = some first) (drawnSecond : later.draw? = some second) :
    first.Before second := by
  obtain ⟨isFirst, -, size, -, after⟩ := draw?_eq_some drawnFirst
  obtain ⟨isSecond, -⟩ := draw?_eq_some drawnSecond
  have calls := turn.requests.length_le
  have keys := turn.keysDrawn
  have serials := turn.serialsDrawn
  simp only [after, Supply.issued, List.length_append, List.length_singleton] at calls keys serials
  rw [isFirst, isSecond]
  exact ⟨calls, keys, serials⟩

private theorem draw_outside {attempt other : Attempt σ ε} {draw : Draw}
    (turns : attempt.after.supply.Before other.before.supply ∨
      other.after.supply.Before attempt.before.supply)
    (drawn : attempt.draw? = some draw) : draw.Outside other := by
  obtain ⟨isDraw, -, size, -, after⟩ := draw?_eq_some drawn
  rw [isDraw]
  rcases turns with turn | turn
  · have calls := turn.requests.length_le
    have keys := turn.keysDrawn
    have serials := turn.serialsDrawn
    simp only [after, Supply.issued, List.length_append, List.length_singleton] at calls keys serials
    exact ⟨.inl calls, .inl keys, .inl serials⟩
  · exact ⟨.inr turn.requests.length_le, .inr turn.keysDrawn, .inr turn.serialsDrawn⟩

/-- Of two attempts, one is over when the other begins. -/
private theorem turns_of_ne {attempts : List (Attempt σ ε)} {first second : Attempt σ ε}
    (turns : attempts.Pairwise fun earlier later => earlier.after.supply.Before later.before.supply)
    (inFirst : first ∈ attempts) (inSecond : second ∈ attempts) (unlike : first ≠ second) :
    first.after.supply.Before second.before.supply ∨
      second.after.supply.Before first.before.supply := by
  -- in the list one of the two comes first, but which of them is not known here
  have symmetric : Std.Symm fun one other : Attempt σ ε =>
      one.after.supply.Before other.before.supply ∨ other.after.supply.Before one.before.supply :=
    ⟨fun _ _ => Or.symm⟩
  have either : attempts.Pairwise fun one other =>
      one.after.supply.Before other.before.supply ∨ other.after.supply.Before one.before.supply :=
    turns.imp fun turn => .inl turn
  exact either.forall inFirst inSecond unlike

/-- The numbers of a draw, between the supply at first and the supply at last. -/
private theorem draw_taken {attempt : Attempt σ ε} {draw : Draw} {first last : Supply}
    (behind : first.Before attempt.before.supply) (ahead : attempt.after.supply.Before last)
    (drawn : attempt.draw? = some draw) :
    (∃ size, attempt.asset.keySize? = some size ∧ draw.Taken first.source last.requests size) ∧
      (first.keysDrawn ≤ draw.key ∧ draw.key < last.keysDrawn) ∧
      (first.serialsDrawn ≤ draw.random ∧ draw.random < last.serialsDrawn) := by
  obtain ⟨isDraw, gives, size, asks, after⟩ := draw?_eq_some drawn
  have keys := ahead.keysDrawn
  have serials := ahead.serialsDrawn
  rw [after] at keys serials
  have asked : last.requests[attempt.before.supply.requests.length]? = some size := by
    obtain ⟨more, requests⟩ := ahead.requests
    rw [← requests, after]
    simp [Supply.issued]
  rw [isDraw]
  refine ⟨⟨size, asks, asked, ?_, ?_⟩, ⟨behind.keysDrawn, keys⟩, behind.serialsDrawn, serials⟩
  · rw [← behind.source]
    exact gives.key
  · rw [← behind.source]
    exact gives.serial

end Attempt

/-- The pairs recorded, each with the key of its asset, in the order of generation. -/
def Session.pairs (session : Session σ ε) : List (String × Pair) :=
  session.executor.parents.entries.filterMap fun entry =>
    entry.2.product.pair?.map fun pair => (entry.1, pair)

private theorem Session.Attempted.pairs_eq {catalog : Catalog σ ε} {workshop : Workshop σ}
    {after : Session σ ε} {attempts : List (Attempt σ ε)}
    (attempted : (Session.fresh workshop).Attempted catalog after attempts) :
    after.pairs =
      (attempts.filterMap Attempt.draw?).map fun draw => (draw.asset, draw.pair) := by
  have entries : after.executor.parents.entries = attempts.filterMap Attempt.entry? :=
    attempted.entries
  rw [Session.pairs, entries, List.filterMap_filterMap, List.map_filterMap]
  congr 1
  funext attempt
  unfold Attempt.draw?
  cases attempt.entry? with
  | none => rfl
  | some entry => simp only [Option.bind_some, Option.map_map, Function.comp_def]

/-- The keys that a source gives in a range of draws have different moduli. -/
def Source.KeysDiffer (source : Source) (first last : Nat) : Prop :=
  ∀ earlier later key other, first ≤ earlier → earlier < later → later < last →
    source.key earlier = .ok key → source.key later = .ok other → key.modulus ≠ other.modulus

/-- The random numbers of a range of draws differ in bits that serial numbers keep. -/
def Source.RandomDiffers (source : Source) (first last : Nat) : Prop :=
  ∀ earlier later, first ≤ earlier → earlier < later → later < last →
    ∃ bit ∈ Serial.freeBits,
      (source.random earlier).getLsbD bit ≠ (source.random later).getLsbD bit

/-- Draws one after another, all between the supply at first and the supply at last. -/
structure Draw.InTurn (first last : Supply) (draws : List Draw) : Prop where
  ordered : draws.Pairwise Draw.Before
  taken : ∀ draw ∈ draws, ∃ size, draw.Taken first.source last.requests size
  keys : ∀ draw ∈ draws, first.keysDrawn ≤ draw.key ∧ draw.key < last.keysDrawn
  serials : ∀ draw ∈ draws, first.serialsDrawn ≤ draw.random ∧ draw.random < last.serialsDrawn

namespace Draw.InTurn

variable {first last : Supply} {draws : List Draw}

/-- What tells apart any two draws of which one is earlier tells all of them apart. -/
theorem nodup {α : Type} (inTurn : InTurn first last draws) (value : Draw → α)
    (apart : ∀ earlier ∈ draws, ∀ later ∈ draws, earlier.Before later → value earlier ≠ value later) :
    (draws.map value).Nodup :=
  List.pairwise_map.mpr (inTurn.ordered.imp_of_mem fun inEarlier inLater before =>
    apart _ inEarlier _ inLater before)

private theorem moduli_nodup (inTurn : InTurn first last draws)
    (differ : first.source.KeysDiffer first.keysDrawn last.keysDrawn) :
    (draws.map fun draw => draw.pair.key.modulus).Nodup := by
  refine inTurn.nodup _ fun earlier inEarlier later inLater before => ?_
  obtain ⟨_, own⟩ := inTurn.taken earlier inEarlier
  obtain ⟨_, other⟩ := inTurn.taken later inLater
  exact differ _ _ _ _ (inTurn.keys earlier inEarlier).1 before.key (inTurn.keys later inLater).2
    own.key other.key

private theorem serials_nodup (inTurn : InTurn first last draws)
    (differs : first.source.RandomDiffers first.serialsDrawn last.serialsDrawn) :
    (draws.map fun draw => draw.pair.certificate.body.serial).Nodup := by
  refine inTurn.nodup _ fun earlier inEarlier later inLater before => ?_
  obtain ⟨_, own⟩ := inTurn.taken earlier inEarlier
  obtain ⟨_, other⟩ := inTurn.taken later inLater
  obtain ⟨bit, free, unlike⟩ := differs _ _ (inTurn.serials earlier inEarlier).1 before.random
    (inTurn.serials later inLater).2
  simp only [own.serial, other.serial, Ne, Int.natCast_inj, Serial.ofRandom_eq_iff]
  exact fun same => unlike (same bit free)

private theorem serial_bounds (inTurn : InTurn first last draws) {draw : Draw} (member : draw ∈ draws) :
    0 < draw.pair.certificate.body.serial ∧ draw.pair.certificate.body.serial < 2 ^ 128 := by
  obtain ⟨_, own⟩ := inTurn.taken draw member
  rw [own.serial]
  exact ⟨Int.natCast_pos.mpr (Serial.ofRandom_pos _), by exact_mod_cast Serial.ofRandom_lt _⟩

end Draw.InTurn

/-- The draws of attempts that are made one after another are in turn. -/
private theorem Attempt.inTurn {attempts : List (Attempt σ ε)} {first last : Supply}
    (turns : attempts.Pairwise fun earlier later => earlier.after.supply.Before later.before.supply)
    (between : ∀ attempt ∈ attempts,
      first.Before attempt.before.supply ∧ attempt.after.supply.Before last) :
    Draw.InTurn first last (attempts.filterMap Attempt.draw?) := by
  have taken : ∀ draw ∈ attempts.filterMap Attempt.draw?,
      (∃ size, draw.Taken first.source last.requests size) ∧
        (first.keysDrawn ≤ draw.key ∧ draw.key < last.keysDrawn) ∧
        (first.serialsDrawn ≤ draw.random ∧ draw.random < last.serialsDrawn) := by
    intro draw member
    obtain ⟨attempt, inAttempts, drawn⟩ := List.mem_filterMap.mp member
    obtain ⟨behind, ahead⟩ := between attempt inAttempts
    obtain ⟨⟨size, -, own⟩, bounds⟩ := draw_taken behind ahead drawn
    exact ⟨⟨size, own⟩, bounds⟩
  have ordered : (attempts.filterMap Attempt.draw?).Pairwise Draw.Before := by
    refine List.pairwise_filterMap.mpr (turns.imp fun turn first drawnFirst second drawnSecond => ?_)
    exact draw_before turn drawnFirst drawnSecond
  exact ⟨ordered, fun draw member => (taken draw member).1, fun draw member => (taken draw member).2.1,
    fun draw member => (taken draw member).2.2⟩

/-- Every attempt at an asset that a catalog makes only takes from the supply, if assets of an
application's own do. -/
private theorem Session.Attempted.only_takes {catalog : Catalog σ ε} {session after : Session σ ε}
    {attempts : List (Attempt σ ε)} (attempted : session.Attempted catalog after attempts)
    (takes : catalog.OnlyTakes) :
    ∀ attempt ∈ attempts, attempt.before.supply.Before attempt.after.supply := by
  intro attempt member
  have makes := attempted.declared attempt member
  have onlyTakes : (attempt.asset.generate attempt.parents).OnlyTakes := by
    refine Asset.generate_takes attempt.parents fun declared same => ?_
    rw [same] at makes
    exact takes _ declared makes attempt.parents
  have taken := onlyTakes attempt.before
  rwa [← Work.outcome_eq, attempt.generated] at taken

namespace Resolution

/-- Let assets of an application's own only take from the supply. Whatever comes of calls for keys, only
attempts to generate assets take anything, one after the other. The calls for the keys of the recorded
pairs, these keys and the random bits of their serial numbers have numbers that grow in the order of
generation; no attempt that failed took any of them; and each key was asked for with the size that its
asset has. So keys and serial numbers all differ if the draws do, and serial numbers are positive and
have at most 128 bits. -/
theorem callAll_draws_in_turn (catalog : Catalog σ ε) (takes : catalog.OnlyTakes)
    (workshop : Workshop σ) (targets : List String) :
    let after := callAll catalog (targets.map .key) (.fresh workshop)
    let source := workshop.supply.source
    ∃ attempts : List (Attempt σ ε),
      (Session.fresh workshop).Attempted catalog after attempts ∧
      after.pairs = (attempts.filterMap Attempt.draw?).map (fun draw => (draw.asset, draw.pair)) ∧
      (attempts.filterMap Attempt.draw?).Pairwise Draw.Before ∧
      (∀ attempt ∈ attempts, ∀ draw, attempt.draw? = some draw →
        ∃ size, attempt.asset.keySize? = some size ∧
          draw.Taken source after.workshop.supply.requests size) ∧
      (∀ attempt ∈ attempts, attempt.entry? = none →
        ∀ draw ∈ attempts.filterMap Attempt.draw?, draw.Outside attempt) ∧
      (source.KeysDiffer workshop.supply.keysDrawn after.workshop.supply.keysDrawn →
        (after.pairs.map fun entry => entry.2.key.modulus).Nodup) ∧
      (source.RandomDiffers workshop.supply.serialsDrawn after.workshop.supply.serialsDrawn →
        (after.pairs.map fun entry => entry.2.certificate.body.serial).Nodup) ∧
      ∀ entry ∈ after.pairs, 0 < entry.2.certificate.body.serial ∧
        entry.2.certificate.body.serial < 2 ^ 128 := by
  intro after source
  obtain ⟨attempts, attempted⟩ := callAll_attempted catalog workshop targets
  obtain ⟨-, between, turns⟩ := attempted.leads.in_turn (attempted.only_takes takes)
  have inTurn := Attempt.inTurn turns between
  refine ⟨attempts, attempted, attempted.pairs_eq, inTurn.ordered, ?_, ?_, ?_, ?_, ?_⟩
  · intro attempt member draw drawn
    exact (Attempt.draw_taken (between attempt member).1 (between attempt member).2 drawn).1
  · intro other inAttempts failed draw member
    obtain ⟨attempt, alsoIn, drawn⟩ := List.mem_filterMap.mp member
    have unlike : attempt ≠ other := by
      rintro rfl
      exact Attempt.entry?_isSome_of_draw? drawn failed
    exact Attempt.draw_outside (Attempt.turns_of_ne turns alsoIn inAttempts unlike) drawn
  · intro differ
    rw [attempted.pairs_eq, List.map_map]
    exact inTurn.moduli_nodup differ
  · intro differs
    rw [attempted.pairs_eq, List.map_map]
    exact inTurn.serials_nodup differs
  · rw [attempted.pairs_eq]
    intro entry member
    obtain ⟨draw, inDraws, rfl⟩ := List.mem_map.mp member
    exact inTurn.serial_bounds inDraws

/-- The root and the server hold keys and serial numbers of their own, after a call that fails. -/
theorem chain_draws_in_turn :
    let after := callAll chain (["missing", "server", "trust"].map .key) (.fresh mersenneWorkshop)
    after.pairs.map Prod.fst = ["root", "server"] ∧
      (after.pairs.map fun entry => entry.2.key.modulus).Nodup ∧
      (after.pairs.map fun entry => entry.2.certificate.body.serial).Nodup := by
  have counted :
      let after := callAll chain (["missing", "server", "trust"].map .key) (.fresh mersenneWorkshop)
      (after.pairs.map Prod.fst, after.workshop.supply.keysDrawn,
        after.workshop.supply.serialsDrawn) = (["root", "server"], 2, 2) := by decide +kernel
  have drawn := callAll_draws_in_turn chain chain_builtIn.onlyTakes mersenneWorkshop
    ["missing", "server", "trust"]
  generalize callAll chain (["missing", "server", "trust"].map .key) (.fresh mersenneWorkshop) = after
    at counted drawn ⊢
  obtain ⟨recorded, keysDrawn, serialsDrawn⟩ := by simpa only [Prod.mk.injEq] using counted
  obtain ⟨attempts, -, -, -, -, -, keys, serials, -⟩ := drawn
  refine ⟨recorded, keys ?_, serials ?_⟩
  · intro earlier later key other low before high given givenToo
    obtain ⟨rfl, rfl⟩ : earlier = 0 ∧ later = 1 := by omega
    rw [← Except.ok.inj given, ← Except.ok.inj givenToo]
    decide +kernel
  · intro earlier later low before high
    obtain ⟨rfl, rfl⟩ : earlier = 0 ∧ later = 1 := by omega
    exact ⟨0, by decide +kernel, by decide +kernel⟩

end Resolution

end CertGraph
