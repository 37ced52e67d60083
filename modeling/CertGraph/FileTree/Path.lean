/- Paths as texts name them: steps from the root or from the working directory. -/
set_option autoImplicit false
set_option relaxedAutoImplicit false

namespace CertGraph

/-- A path: the slashes it starts with, none, one or two, and its steps. Steps that are empty or a
single dot are left out; two dots stay. -/
structure Path where
  slashes : Nat
  steps : List String
deriving DecidableEq

namespace Path

/-- Whether a step leads anywhere. -/
def isStep (step : String) : Bool :=
  step ≠ "" && step ≠ "."

/-- The path that a text names. -/
def ofText (text : String) : Path :=
  let chars := text.toList
  let leading := (chars.takeWhile (· = '/')).length
  { slashes := if leading = 0 then 0 else if leading = 2 then 2 else 1
    steps := ((chars.splitOn '/').map String.ofList).filter isStep }

/-- The path as text; a path without steps is a dot. -/
def text (path : Path) : String :=
  let slashes := String.ofList (List.replicate path.slashes '/')
  if path.slashes = 0 ∧ path.steps = [] then "."
  else slashes ++ "/".intercalate path.steps

/-- One path from the end of another; a path from the root stays alone. -/
def join (path other : Path) : Path :=
  if other.slashes = 0 then ⟨path.slashes, path.steps ++ other.steps⟩ else other

/-- The path without its last step. -/
def parent (path : Path) : Path :=
  ⟨path.slashes, path.steps.dropLast⟩

/-- The last step. -/
def name (path : Path) : String :=
  path.steps.getLast?.getD ""

end Path

end CertGraph
