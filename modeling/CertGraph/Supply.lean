import CertGraph.Fault
import CertGraph.Rsa.Key
import CertGraph.Serial
import CertGraph.Time.Instant

/- Where a run takes its keys, its serial numbers and the time from. -/
set_option autoImplicit false
set_option relaxedAutoImplicit false

namespace CertGraph

open CertGraph.Time (Instant)

/-- How a call for a key fails: a value is refused, or anything else goes wrong, such as an overflow,
of a kind that the callers know nothing of. -/
inductive SourceFault where
  | refused (message : String)
  | other (kind message : String)

/-- The failure that a call for a key ends with. -/
def SourceFault.failure : SourceFault → Failure
  | .refused message => .value (.keySource message)
  | .other kind message => .application kind message

/-- The outcomes of all calls for a key and all draws of random bits, counted from zero. -/
structure Source where
  key : Nat → Except SourceFault Rsa.PrivateKey
  random : Nat → BitVec 128

/-- The size of a key in bits, if one is given. -/
abbrev KeySize := Option Int

/-- A source, the time, and what has been taken: the sizes asked for and the counts of draws. -/
structure Supply where
  source : Source
  now : Instant
  requests : List KeySize
  keysDrawn : Nat
  serialsDrawn : Nat

namespace Supply

/-- Nothing taken yet. -/
def fresh (source : Source) (now : Instant) : Supply :=
  ⟨source, now, [], 0, 0⟩

/-- The smallest size of a key. -/
def minKeySize : Int := 1024

/-- Take a key. The size is noted first; one that is missing or too small takes no key. -/
def drawKey (supply : Supply) (size : KeySize) : Except Failure Rsa.PrivateKey × Supply :=
  let asked := { supply with requests := supply.requests ++ [size] }
  match size with
  | none => (.error (.value .keySizeMissing), asked)
  | some bits =>
    if bits < minKeySize then (.error (.value .keySizeTooSmall), asked)
    else
      let outcome := (supply.source.key supply.keysDrawn).mapError SourceFault.failure
      (outcome, { asked with keysDrawn := supply.keysDrawn + 1 })

/-- Take a serial number. -/
def drawSerial (supply : Supply) : Nat × Supply :=
  (Serial.ofRandom (supply.source.random supply.serialsDrawn),
    { supply with serialsDrawn := supply.serialsDrawn + 1 })

end Supply

end CertGraph
