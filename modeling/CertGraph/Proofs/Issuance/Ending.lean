import CertGraph.Proofs.Issuance.Issued

/- When steps of the workshop succeed: exactly under a condition that is known beforehand, as long as
the supply gives good keys and its clock stands still. -/
set_option autoImplicit false
set_option relaxedAutoImplicit false

namespace CertGraph

open CertGraph.Time (Instant)

variable {σ α β : Type}

/-- What a key signs verifies, and its modulus is long enough to sign at all. -/
structure Rsa.PrivateKey.Usable (key : Rsa.PrivateKey) : Prop where
  wellFormed : key.WellFormed
  long : 62 ≤ key.publicKey.size

/-- Every call for a key gives one that can be used. -/
def Source.Reliable (source : Source) : Prop :=
  ∀ count, ∃ key, source.key count = .ok key ∧ key.Usable

/-- Keys are taken from a source, and the clock stands at an instant. -/
structure Supply.At (source : Source) (now : Instant) (supply : Supply) : Prop where
  source : supply.source = source
  now : supply.now = now

/-- A failure that does not go back to an asset that is missing. -/
def Failure.NotMissing (failure : Failure) : Prop :=
  ∀ key, failure.root ≠ .notGenerated key

namespace Failure

theorem notMissing_configuration (fault : ConfigurationFault) :
    (Failure.configuration fault).NotMissing := by
  intro key
  cases fault <;> exact nofun

private theorem notMissing_cryptography (fault : CryptographyFault) :
    (Failure.cryptography fault).NotMissing := by
  intro key
  cases fault <;> exact nofun

theorem notMissing_value (fault : ValueFault) : (Failure.value fault).NotMissing :=
  fun _ => nofun

end Failure

namespace Work

/-- A step succeeds exactly under a condition, and then with a good value. -/
def Ends (source : Source) (now : Instant) (condition : Prop) (good : α → Prop) (work : Work σ α) :
    Prop :=
  ∀ workshop, workshop.supply.At source now →
    (CertGraph.outcome work workshop).2.supply.At source now ∧
      match (CertGraph.outcome work workshop).1 with
      | .ok value => condition ∧ good value
      | .error failure => ¬ condition ∧ failure.NotMissing

namespace Ends

variable {source : Source} {now : Instant} {condition further : Prop} {good better : α → Prop}
  {best : β → Prop} {work : Work σ α}

theorem pure {value : α} (holds : condition) (isGood : good value) :
    Ends source now condition good (Pure.pure value : Work σ α) :=
  fun _ supplied => ⟨supplied, holds, isGood⟩

theorem fail {failure : Failure} (unmet : ¬ condition) (notMissing : failure.NotMissing) :
    Ends source now condition good (Work.fail failure : Work σ α) :=
  fun _ supplied => ⟨supplied, unmet, notMissing⟩

theorem of_iff (ends : Ends source now condition good work) (same : condition ↔ further) :
    Ends source now further good work := by
  rwa [propext same] at ends

/-- What holds whenever a step succeeds can be added to what is good. -/
theorem also (ends : Ends source now condition good work)
    (known : ∀ workshop value after, workshop.supply.At source now →
      CertGraph.outcome work workshop = (.ok value, after) → good value → better value) :
    Ends source now condition better work := by
  intro workshop supplied
  obtain ⟨kept, ended⟩ := ends workshop supplied
  refine ⟨kept, ?_⟩
  rcases outcome : CertGraph.outcome work workshop with ⟨failure | value, after⟩
  · rw [outcome] at ended
    exact ended
  · rw [outcome] at ended
    exact ⟨ended.1, known workshop value after supplied outcome ended.2⟩

/-- A step whose own condition is a part of that of the whole. -/
theorem bind {next : α → Work σ β} (first : Ends source now condition good work)
    (needed : further → condition)
    (rest : ∀ value, condition → good value → Ends source now further best (next value)) :
    Ends source now further best (work >>= next) := by
  intro workshop supplied
  obtain ⟨kept, ended⟩ := first workshop supplied
  rw [outcome_bind]
  rcases outcome : CertGraph.outcome work workshop with ⟨failure | value, middle⟩
  · rw [outcome] at kept ended
    exact ⟨kept, fun holds => ended.1 (needed holds), ended.2⟩
  · rw [outcome] at kept ended
    exact rest value ended.1 ended.2 middle kept

/-- A step that always succeeds. -/
theorem bind_always {next : α → Work σ β} (first : Ends source now True good work)
    (rest : ∀ value, good value → Ends source now further best (next value)) :
    Ends source now further best (work >>= next) :=
  bind first (fun _ => trivial) fun value _ => rest value

theorem ofExcept {ε : Type} {wrap : ε → Failure} {result : Except ε α}
    (notMissing : ∀ fault, result = .error fault → (wrap fault).NotMissing) :
    Ends source now (∃ value, result = .ok value) (fun value => result = .ok value)
      (Work.ofExcept wrap result : Work σ α) := by
  cases result with
  | ok value => exact pure ⟨value, rfl⟩ rfl
  | error fault => exact fail (fun ⟨_, absurd⟩ => by cases absurd) (notMissing fault rfl)

/-- A value that is known to be there. -/
theorem bind_known {ε : Type} {wrap : ε → Failure} {result : Except ε α} {value : α}
    {next : α → Work σ β} (known : result = .ok value)
    (rest : Ends source now further best (next value)) :
    Ends source now further best ((Work.ofExcept wrap result : Work σ α) >>= next) := by
  rw [known]
  exact rest

theorem report (level : Level) (message : String) (asset : Option String) :
    Ends source now True (fun _ => True) (Work.report level message asset : Work σ Unit) :=
  fun _ supplied => ⟨supplied, trivial, trivial⟩

theorem now_eq : Ends source now True (· = now) (Work.now : Work σ Instant) :=
  fun _ supplied => ⟨supplied, trivial, supplied.now⟩

theorem drawSerial : Ends source now True (fun _ => True) (Work.drawSerial : Work σ Nat) :=
  fun _ supplied => ⟨⟨supplied.source, supplied.now⟩, trivial, trivial⟩

theorem asCryptography (fault : ValueFault → CryptographyFault)
    (ends : Ends source now condition good work) :
    Ends source now condition good (work.asCryptography fault) := by
  intro workshop supplied
  have ended := ends workshop supplied
  simp only [CertGraph.outcome, Work.asCryptography, onFailure] at ended ⊢
  cases ran : work workshop with
  | ok value after =>
    rw [ran] at ended
    exact ended
  | error failure after =>
    rw [ran] at ended
    cases failure with
    | value cause => exact ⟨ended.1, ended.2.1, Failure.notMissing_cryptography (fault cause)⟩
    | _ => exact ended

/-- A reliable source gives a key of every size that is large enough. -/
theorem drawKey (reliable : source.Reliable) (size : KeySize) :
    Ends source now (∃ bits, size = some bits ∧ 1024 ≤ bits) Rsa.PrivateKey.Usable
      (Work.drawKey size : Work σ Rsa.PrivateKey) := by
  intro workshop supplied
  obtain ⟨key, given, usable⟩ := reliable workshop.supply.keysDrawn
  rw [← supplied.source] at given
  cases size with
  | none =>
    refine ⟨⟨supplied.source, supplied.now⟩, ?_, Failure.notMissing_value _⟩
    rintro ⟨bits, absent, -⟩
    cases absent
  | some bits =>
    by_cases small : bits < Supply.minKeySize
    · have drawn : CertGraph.outcome (Work.drawKey (some bits)) workshop =
          (.error (.value .keySizeTooSmall), { workshop with supply :=
            { workshop.supply with requests := workshop.supply.requests ++ [some bits] } }) := by
        simp only [CertGraph.outcome, Work.drawKey, Supply.drawKey, small, if_true]
        rfl
      rw [drawn]
      refine ⟨⟨supplied.source, supplied.now⟩, ?_, Failure.notMissing_value _⟩
      rintro ⟨_, ⟨rfl⟩, large⟩
      exact absurd small (not_lt.mpr large)
    · have drawn : (CertGraph.outcome (Work.drawKey (some bits)) workshop) =
          (.ok key, { workshop with supply := { workshop.supply with
            requests := workshop.supply.requests ++ [some bits]
            keysDrawn := workshop.supply.keysDrawn + 1 } }) := by
        simp only [CertGraph.outcome, Work.drawKey, Supply.drawKey, small, if_false, given]
        rfl
      rw [drawn]
      exact ⟨⟨supplied.source, supplied.now⟩, ⟨bits, rfl, not_lt.mp small⟩, usable⟩

theorem newKey (reliable : source.Reliable) (size : KeySize) (baseName : String) :
    Ends source now (∃ bits, size = some bits ∧ 1024 ≤ bits) Rsa.PrivateKey.Usable
      (CertGraph.newKey size baseName : Work σ Rsa.PrivateKey) :=
  asCryptography _ (drawKey reliable size)

end Ends

end Work

end CertGraph
