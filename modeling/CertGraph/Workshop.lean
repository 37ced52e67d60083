import CertGraph.Journal
import CertGraph.Supply

/- The state in which certificates are made, and the steps that change it. -/
set_option autoImplicit false
set_option relaxedAutoImplicit false

namespace CertGraph

variable {σ α : Type}

/-- The supply, the journal, and whatever else the assets of an application keep. -/
structure Workshop (σ : Type) where
  supply : Supply
  journal : Journal
  app : σ

/-- A step that may fail; what it did before it failed stays done. -/
abbrev Work (σ α : Type) := EStateM Failure (Workshop σ) α

namespace Work

/-- The outcome of a step, and the state after it. -/
def outcome (work : Work σ α) (workshop : Workshop σ) : Except Failure α × Workshop σ :=
  match work.run workshop with
  | .ok value after => (.ok value, after)
  | .error failure after => (.error failure, after)

/-- Fail with a failure. -/
def fail (failure : Failure) : Work σ α :=
  fun workshop => .error failure workshop

/-- The value, or the failure that a fault amounts to. -/
def ofExcept {ε : Type} (wrap : ε → Failure) : Except ε α → Work σ α
  | .ok value => pure value
  | .error fault => fail (wrap fault)

/-- Invalid input fails the step. -/
def configured : Except ConfigurationFault α → Work σ α :=
  ofExcept .configuration

/-- Run a step; on a failure go on with what is made of it. -/
def onFailure (work : Work σ α) (handle : Failure → Work σ α) : Work σ α :=
  fun workshop => match work workshop with
    | .ok value after => .ok value after
    | .error failure after => handle failure after

/-- Write a report. -/
def report (level : Level) (message : String) (asset : Option String) : Work σ Unit :=
  fun workshop =>
    .ok () { workshop with journal := workshop.journal ++ [⟨level, message, asset⟩] }

/-- Take a key from the supply. -/
def drawKey (size : KeySize) : Work σ Rsa.PrivateKey :=
  fun workshop =>
    let (outcome, supply) := workshop.supply.drawKey size
    ofExcept id outcome { workshop with supply }

/-- Take a serial number from the supply. -/
def drawSerial : Work σ Nat :=
  fun workshop =>
    let (serial, supply) := workshop.supply.drawSerial
    .ok serial { workshop with supply }

/-- The time at which the step runs. -/
def now : Work σ Time.Instant :=
  fun workshop => .ok workshop.supply.now workshop

end Work

end CertGraph
