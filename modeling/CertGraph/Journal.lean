/- What a run reports while it works. -/
set_option autoImplicit false
set_option relaxedAutoImplicit false

namespace CertGraph

/-- How urgent a report is. -/
inductive Level where
  | debug
  | info
  | error
deriving DecidableEq

/-- One report; some name the asset they are about. -/
structure Report where
  level : Level
  message : String
  asset : Option String
deriving DecidableEq

/-- The reports of a run, earliest first. -/
abbrev Journal := List Report

namespace Level

/-- The number by which levels are compared. -/
def number : Level → Nat
  | .debug => 10
  | .info => 20
  | .error => 40

/-- The name of a level. -/
def name : Level → String
  | .debug => "DEBUG"
  | .info => "INFO"
  | .error => "ERROR"

end Level

/-- The reports that are at least as urgent as a level. -/
def Journal.atLeast (journal : Journal) (threshold : Level) : Journal :=
  journal.filter fun report => threshold.number ≤ report.level.number

end CertGraph
