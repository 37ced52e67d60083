import CertGraph.Issuance
import CertGraph.Proofs.Outcome

/- Steps of the workshop only take from the supply: the source of keys and random numbers stays, and
what was taken once is never taken again. -/
set_option autoImplicit false
set_option relaxedAutoImplicit false

namespace CertGraph

variable {σ α β : Type}

/-- Between two moments things were only taken from a supply. -/
structure Supply.Before (earlier later : Supply) : Prop where
  source : later.source = earlier.source
  requests : earlier.requests <+: later.requests
  keysDrawn : earlier.keysDrawn ≤ later.keysDrawn
  serialsDrawn : earlier.serialsDrawn ≤ later.serialsDrawn

namespace Supply.Before

theorem refl (supply : Supply) : supply.Before supply :=
  ⟨rfl, List.prefix_rfl, Nat.le_refl _, Nat.le_refl _⟩

theorem trans {first second third : Supply} (earlier : first.Before second)
    (later : second.Before third) : first.Before third :=
  ⟨later.source.trans earlier.source, earlier.requests.trans later.requests,
    Nat.le_trans earlier.keysDrawn later.keysDrawn,
    Nat.le_trans earlier.serialsDrawn later.serialsDrawn⟩

end Supply.Before

/-- Asking for a key takes at most that from a supply. -/
theorem Supply.before_drawKey (supply : Supply) (size : KeySize) :
    supply.Before (supply.drawKey size).2 := by
  unfold drawKey
  dsimp only
  split
  · exact ⟨rfl, List.prefix_append _ _, Nat.le_refl _, Nat.le_refl _⟩
  · split
    · exact ⟨rfl, List.prefix_append _ _, Nat.le_refl _, Nat.le_refl _⟩
    · exact ⟨rfl, List.prefix_append _ _, Nat.le_succ _, Nat.le_refl _⟩

namespace Work

theorem outcome_eq (work : Work σ α) (workshop : Workshop σ) :
    work.outcome workshop = CertGraph.outcome work workshop := by
  simp only [Work.outcome, EStateM.run, CertGraph.outcome]
  cases work workshop <;> rfl

/-- Whatever comes of a step, it only takes from the supply. -/
def OnlyTakes (work : Work σ α) : Prop :=
  ∀ workshop : Workshop σ, workshop.supply.Before (CertGraph.outcome work workshop).2.supply

namespace OnlyTakes

theorem pure (value : α) : OnlyTakes (Pure.pure value : Work σ α) :=
  fun _ => .refl _

theorem bind {step : Work σ α} {next : α → Work σ β} (first : OnlyTakes step)
    (rest : ∀ value, OnlyTakes (next value)) : OnlyTakes (step >>= next) := by
  intro workshop
  have taken := first workshop
  rw [outcome_bind]
  rcases ended : CertGraph.outcome step workshop with ⟨failure | value, middle⟩
  · rw [ended] at taken
    exact taken
  · rw [ended] at taken
    exact taken.trans (rest value middle)

theorem fail (failure : Failure) : OnlyTakes (Work.fail failure : Work σ α) :=
  fun _ => .refl _

theorem ofExcept {ε : Type} (wrap : ε → Failure) (result : Except ε α) :
    OnlyTakes (Work.ofExcept wrap result : Work σ α) := by
  cases result with
  | ok value => exact pure value
  | error fault => exact fail (wrap fault)

theorem report (level : Level) (message : String) (asset : Option String) :
    OnlyTakes (Work.report level message asset : Work σ Unit) :=
  fun _ => .refl _

private theorem now : OnlyTakes (Work.now : Work σ Time.Instant) :=
  fun _ => .refl _

private theorem drawSerial : OnlyTakes (Work.drawSerial : Work σ Nat) :=
  fun _ => ⟨rfl, List.prefix_rfl, Nat.le_refl _, Nat.le_succ _⟩

private theorem onFailure {work : Work σ α} {handle : Failure → Work σ α} (takes : OnlyTakes work)
    (handled : ∀ failure, OnlyTakes (handle failure)) : OnlyTakes (work.onFailure handle) := by
  intro workshop
  have first := takes workshop
  simp only [CertGraph.outcome, Work.onFailure] at first ⊢
  cases ended : work workshop with
  | ok value after =>
    rw [ended] at first
    exact first
  | error failure after =>
    rw [ended] at first
    exact first.trans (handled failure after)

theorem asCryptography {work : Work σ α} (fault : ValueFault → CryptographyFault)
    (takes : OnlyTakes work) : OnlyTakes (work.asCryptography fault) := by
  refine onFailure takes fun failure => ?_
  split
  · exact fail _
  · exact fail _

private theorem drawKey (size : KeySize) : OnlyTakes (Work.drawKey size : Work σ Rsa.PrivateKey) := by
  intro workshop
  have taken := workshop.supply.before_drawKey size
  simp only [CertGraph.outcome, Work.drawKey]
  rcases drawn : workshop.supply.drawKey size with ⟨fault | key, supply⟩
  · rw [drawn] at taken
    exact taken
  · rw [drawn] at taken
    exact taken

private theorem newKey (size : KeySize) (baseName : String) :
    OnlyTakes (CertGraph.newKey size baseName : Work σ Rsa.PrivateKey) :=
  asCryptography _ (drawKey size)

private theorem draftBody (spec : Spec) (issuer : Name) (key : Rsa.PublicKey) :
    OnlyTakes (Certificate.draftBody spec issuer key : Work σ Body) := by
  refine bind now fun instant => ?_
  dsimp only
  split
  · refine bind (pure _) fun notAfter => bind (ofExcept _ _) fun subject => ?_
    refine bind drawSerial fun serial => ?_
    split
    · exact fail _
    · exact bind (ofExcept _ _) fun extensions => pure _
  · exact fun _ => .refl _

private theorem signBody (body : Body) (key : Rsa.PrivateKey) :
    OnlyTakes (Certificate.signBody body key : Work σ Certificate) := by
  unfold Certificate.signBody
  split
  · exact pure _
  · exact fail _

theorem buildSelfSigned (spec : Spec) (key : Rsa.PrivateKey) :
    OnlyTakes (Certificate.buildSelfSigned spec key : Work σ Certificate) :=
  bind (ofExcept _ _) fun issuer => bind (draftBody spec issuer _) fun body => signBody body key

theorem buildSigned (spec : Spec) (key : Rsa.PublicKey) (issuer : Certificate)
    (issuerKey : Rsa.PrivateKey) :
    OnlyTakes (Certificate.buildSigned spec key issuer issuerKey : Work σ Certificate) := by
  unfold Certificate.buildSigned
  split
  · exact bind (draftBody spec _ key) fun body => signBody _ issuerKey
  · exact fail _

theorem issueSelfSigned (spec : Spec) (baseName : String) (keySize : KeySize) :
    OnlyTakes (CertGraph.issueSelfSigned spec baseName keySize : Work σ Authority) := by
  unfold CertGraph.issueSelfSigned
  split
  · refine bind (newKey keySize baseName) fun key => ?_
    refine bind (asCryptography _ (buildSelfSigned spec key)) fun certificate => ?_
    exact bind (report _ _ _) fun _ => ofExcept _ _
  · exact fail _

theorem issueWith (spec : Spec) (issuer : Authority) (baseName : String) (policy : ChainPolicy)
    (keySize : KeySize) :
    OnlyTakes (CertGraph.issueWith spec issuer baseName policy keySize : Work σ Issued) := by
  unfold CertGraph.issueWith
  dsimp only
  refine bind (ofExcept _ _) fun holds => ?_
  split
  · exact fail _
  · refine bind (newKey keySize baseName) fun key => ?_
    refine bind (asCryptography _ (buildSigned spec _ _ _)) fun certificate => ?_
    split
    · exact fail _
    · refine bind (report _ _ _) fun _ => ?_
      split
      · exact bind (ofExcept _ _) fun _ => pure _
      · exact pure _

theorem aggregateBundle (name : String) (members : List (Option Issued)) :
    OnlyTakes (CertGraph.aggregateBundle name members : Work σ Bundle) := by
  unfold CertGraph.aggregateBundle
  split
  · exact fail _
  · exact bind (ofExcept _ _) fun certificates => bind (report _ _ _) fun _ => pure _

end OnlyTakes

end Work

end CertGraph
