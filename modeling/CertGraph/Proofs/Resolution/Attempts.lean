import CertGraph.Proofs.Issuance.Draws
import CertGraph.Proofs.Resolution.Products
import CertGraph.Proofs.Serial

/- What a run takes from the supply: only attempts to generate assets take anything, one after the
other, so that no asset holds a key or a serial number that another attempt took. -/
set_option autoImplicit false
set_option relaxedAutoImplicit false

namespace CertGraph

variable {σ ε : Type}

/-- The pair held, if there is one. -/
def Product.pair? : Product ε → Option Pair
  | .authority issued => issued.map Authority.pair
  | .pair issued => issued.map Issued.pair
  | _ => none

namespace Asset

/-- The size of the key that a certificate asset asks for. -/
def keySize? : Asset σ ε → Option KeySize
  | .selfSigned declared => some declared.keySize
  | .signed declared => some declared.keySize
  | _ => none

theorem generate_takes {asset : Asset σ ε} (parents : Parents ε)
    (takes : ∀ declared, asset = .custom declared → (declared.generate parents).OnlyTakes) :
    (asset.generate parents).OnlyTakes := by
  cases asset with
  | custom declared => exact .bind (takes declared rfl) fun ⟨files, artifact⟩ => .pure _
  | installConfig config => exact @generate_onlyTakes σ ε (.installConfig config) trivial parents
  | selfSigned declared => exact @generate_onlyTakes σ ε (.selfSigned declared) trivial parents
  | signed declared => exact @generate_onlyTakes σ ε (.signed declared) trivial parents
  | bundle declared => exact @generate_onlyTakes σ ε (.bundle declared) trivial parents

/-- A pair that was generated holds the next key, of the size that its asset asks for, and the next
serial number; nothing else was taken. -/
theorem generate_drawn {asset : Asset σ ε} {parents : Parents ε} {product : Product ε} {pair : Pair}
    {workshop after : Workshop σ}
    (ended : outcome (asset.generate parents) workshop = (.ok product, after))
    (holds : product.pair? = some pair) :
    workshop.supply.Gives pair ∧
      ∃ size, asset.keySize? = some size ∧ after.supply = workshop.supply.issued size := by
  cases asset with
  | installConfig config =>
    cases ended
    cases holds
  | selfSigned declared =>
    obtain ⟨spec, first, read, rest⟩ := outcome_bind_ok ended
    obtain rfl := Work.ofExcept_after read
    obtain ⟨holder, second, issued, last⟩ := outcome_bind_ok rest
    cases last
    cases holds
    obtain ⟨gives, supply⟩ := issueSelfSigned_drawn issued
    exact ⟨gives, _, rfl, supply⟩
  | signed declared =>
    obtain ⟨issuer, first, found, rest⟩ := outcome_bind_ok ended
    obtain rfl := Work.ofExcept_after found
    obtain ⟨spec, second, read, issuing⟩ := outcome_bind_ok rest
    obtain rfl := Work.ofExcept_after read
    obtain ⟨made, third, issued, last⟩ := outcome_bind_ok issuing
    cases last
    cases holds
    obtain ⟨gives, supply⟩ := issueWith_drawn issued
    exact ⟨gives, _, rfl, supply⟩
  | bundle declared =>
    obtain ⟨members, first, found, ended⟩ := outcome_bind_ok ended
    obtain ⟨bundle, second, made, ended⟩ := outcome_bind_ok ended
    cases ended
    cases holds
  | custom declared =>
    obtain ⟨⟨files, artifact⟩, first, made, ended⟩ := outcome_bind_ok ended
    cases ended
    cases holds

end Asset

/-- Assets of an application's own only take from the supply. -/
def Catalog.OnlyTakes (catalog : Catalog σ ε) : Prop :=
  ∀ key declared, catalog.Makes key (.custom declared) →
    ∀ parents, (declared.generate parents).OnlyTakes

theorem Catalog.BuiltIn.onlyTakes {catalog : Catalog σ ε} (builtIn : catalog.BuiltIn) :
    catalog.OnlyTakes :=
  fun _ _ makes => (builtIn.of_makes makes).elim

/-- An attempt to generate an asset: what was recorded then, the workshop before and after it, and what
came of it. -/
structure Attempt (σ ε : Type) where
  asset : Asset σ ε
  parents : Parents ε
  before : Workshop σ
  result : Except Failure (Product ε)
  after : Workshop σ
  generated : (asset.generate parents).outcome before = (result, after)

namespace Attempt

/-- What is recorded of an attempt, if it succeeds. -/
def entry? (attempt : Attempt σ ε) : Option (String × Node ε) :=
  match attempt.result with
  | .ok product => some (attempt.asset.key, attempt.asset.holding product)
  | .error _ => none

/-- Attempts in a row lead from one supply to another: each takes up what the one before it left. -/
def Leads : Supply → List (Attempt σ ε) → Supply → Prop
  | supply, [], last => last = supply
  | supply, attempt :: others, last =>
    attempt.before.supply = supply ∧ Leads attempt.after.supply others last

private theorem Leads.append {first middle last : Supply} {attempts more : List (Attempt σ ε)}
    (leads : Leads first attempts middle) (rest : Leads middle more last) :
    Leads first (attempts ++ more) last := by
  induction attempts generalizing first with
  | nil =>
    cases leads
    exact rest
  | cons attempt attempts ih => exact ⟨leads.1, ih leads.2⟩

/-- If each attempt only takes from the supply, it takes what none before it took. -/
theorem Leads.in_turn {first last : Supply} {attempts : List (Attempt σ ε)}
    (leads : Leads first attempts last)
    (takes : ∀ attempt ∈ attempts, attempt.before.supply.Before attempt.after.supply) :
    first.Before last ∧
      (∀ attempt ∈ attempts,
        first.Before attempt.before.supply ∧ attempt.after.supply.Before last) ∧
      attempts.Pairwise fun earlier later => earlier.after.supply.Before later.before.supply := by
  induction attempts generalizing first with
  | nil =>
    cases leads
    exact ⟨.refl _, List.forall_mem_nil _, .nil⟩
  | cons attempt attempts ih =>
    obtain ⟨rfl, leads⟩ := leads
    obtain ⟨own, others⟩ := List.forall_mem_cons.mp takes
    obtain ⟨reaches, between, turns⟩ := ih leads others
    refine ⟨own.trans reaches, ?_, List.pairwise_cons.mpr ⟨fun other member =>
      (between other member).1, turns⟩⟩
    refine List.forall_mem_cons.mpr ⟨⟨.refl _, reaches⟩, fun other member => ?_⟩
    exact ⟨own.trans (between other member).1, (between other member).2⟩

end Attempt

/-- What was done from one session to another: attempts to generate assets that the catalog makes, which
alone took from the supply, and those that succeeded were recorded, in order. -/
structure Session.Attempted (catalog : Catalog σ ε) (before after : Session σ ε)
    (attempts : List (Attempt σ ε)) : Prop where
  declared : ∀ attempt ∈ attempts, catalog.Makes attempt.asset.key attempt.asset
  leads : Attempt.Leads before.workshop.supply attempts after.workshop.supply
  entries : after.executor.parents.entries =
    before.executor.parents.entries ++ attempts.filterMap Attempt.entry?

namespace Session.Attempted

variable {catalog : Catalog σ ε} {first second third : Session σ ε}
  {attempts more : List (Attempt σ ε)}

private theorem none (supply : second.workshop.supply = first.workshop.supply)
    (parents : second.executor.parents = first.executor.parents) :
    first.Attempted catalog second [] :=
  ⟨List.forall_mem_nil _, supply, by rw [parents, List.filterMap_nil, List.append_nil]⟩

theorem trans (earlier : first.Attempted catalog second attempts)
    (later : second.Attempted catalog third more) :
    first.Attempted catalog third (attempts ++ more) := by
  refine ⟨List.forall_mem_append.mpr ⟨earlier.declared, later.declared⟩,
    earlier.leads.append later.leads, ?_⟩
  rw [later.entries, earlier.entries, List.filterMap_append, List.append_assoc]

end Session.Attempted

namespace Runs

variable {catalog : Catalog σ ε} {task : Task σ ε} {session after : Session σ ε}
  {result : Except Failure (Node ε)}

/-- All attempts of a run, whatever it comes to. -/
theorem attempted (run : Runs catalog task session result after) (declared : task.Declared catalog) :
    ∃ attempts, session.Attempted catalog after attempts := by
  induction run with
  | reuseKey known => exact ⟨[], .none rfl rfl⟩
  | reuseAsset known => exact ⟨[], .none rfl rfl⟩
  | uncreated absent created =>
    obtain ⟨app, rfl⟩ := Catalog.create_workshop created
    exact ⟨[], .none rfl rfl⟩
  | created absent created rest ih =>
    obtain ⟨factory, -, -, -, rfl⟩ := Catalog.create_ok created
    obtain ⟨attempts, attempted⟩ := ih (Task.declared_of_create created)
    exact ⟨attempts, attempted.declared, attempted.leads, attempted.entries⟩
  | cycle absent stacked => exact ⟨[], .none rfl rfl⟩
  | visited absent unstacked rest ih =>
    obtain ⟨attempts, attempted⟩ := ih declared
    exact ⟨attempts, attempted.declared, attempted.leads, attempted.entries⟩
  | fetched first rest ihFirst ihRest =>
    obtain ⟨attempts, earlier⟩ := ihFirst trivial
    obtain ⟨more, later⟩ := ihRest declared
    exact ⟨attempts ++ more, earlier.trans later⟩
  | unfetched first ih =>
    obtain ⟨attempts, attempted⟩ := ih trivial
    exact ⟨attempts, attempted.declared, attempted.leads, attempted.entries⟩
  -- only these two steps generate, and only the second records
  | @broken asset failure session workshop failed =>
    refine ⟨[⟨asset, session.executor.parents, _, _, workshop, failed⟩], ?_, ⟨rfl, rfl⟩, ?_⟩
    · exact List.forall_mem_singleton.mpr declared
    · exact (List.append_nil _).symm
  | @made asset product session workshop generated =>
    refine ⟨[⟨asset, session.executor.parents, _, _, workshop, generated⟩], ?_, ⟨rfl, rfl⟩, rfl⟩
    exact List.forall_mem_singleton.mpr declared

end Runs

namespace Resolution

/-- All attempts of calls for keys, whatever came of each. -/
theorem callAll_attempted (catalog : Catalog σ ε) (workshop : Workshop σ) (targets : List String) :
    ∃ attempts, (Session.fresh workshop).Attempted catalog
      (callAll catalog (targets.map .key) (.fresh workshop)) attempts := by
  refine (callAll_induction (motive := fun session => ∃ attempts,
    (Session.fresh workshop).Attempted catalog session attempts) _ (Session.Idle.fresh workshop)
    ⟨[], .none rfl rfl⟩ ?_).2
  rintro target member session idle ⟨attempts, attempted⟩
  obtain ⟨key, -, rfl⟩ := List.mem_map.mp member
  have run : Runs catalog _ session _ _ := call_runs (.key key) idle
  obtain ⟨more, later⟩ := run.attempted trivial
  exact ⟨attempts ++ more, attempted.trans later⟩

end Resolution

end CertGraph
