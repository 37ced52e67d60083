import CertGraph.Asset.Catalog

/- Executors: assets generated in the order of their dependencies, each key at most once. -/
set_option autoImplicit false
set_option relaxedAutoImplicit false

namespace CertGraph

variable {σ ε : Type}

/-- A step of an executor, as it happens. -/
inductive Event where
  /-- An asset was put on the stack, which now holds these keys. -/
  | entered (stack : List String)
  /-- A report was written. -/
  | reported (report : Report)
  /-- The generation of an asset was started. -/
  | started (key : String)
  /-- The generation of an asset ended without a failure. -/
  | finished (key : String)
deriving DecidableEq

/-- Generated assets, their keys in order, the keys of the assets being worked on from the target
inwards, and everything that has happened. -/
structure Executor (ε : Type) where
  parents : Parents ε
  generated : List String
  stack : List String
  history : List Event

/-- Nothing generated, nothing going on. -/
def Executor.fresh : Executor ε := ⟨Parents.empty, [], [], []⟩

/-- An executor and the workshop it works in. -/
structure Session (σ ε : Type) where
  workshop : Workshop σ
  executor : Executor ε

/-- A step of an executor that may fail. -/
abbrev Resolution (σ ε α : Type) := EStateM Failure (Session σ ε) α

/-- What to generate: the asset under a key, or an asset at hand. -/
inductive Target (σ ε : Type) where
  | key (key : String)
  | asset (asset : Asset σ ε)

namespace Resolution

variable {α : Type}

/-- A step of the workshop alone. -/
def ofWork (work : Work σ α) : Resolution σ ε α :=
  fun session => match work session.workshop with
    | .ok value workshop => .ok value { session with workshop }
    | .error failure workshop => .error failure { session with workshop }

/-- A change of the executor alone. -/
def update (change : Executor ε → Executor ε) : Resolution σ ε Unit :=
  fun session => .ok () { session with executor := change session.executor }

/-- Note that something happened. -/
def note (event : Event) : Resolution σ ε Unit :=
  update fun executor => { executor with history := executor.history ++ [event] }

/-- The executor as it is. -/
def executor : Resolution σ ε (Executor ε) :=
  fun session => .ok session.executor session

/-- Write a report about an asset. -/
def report (level : Level) (message key : String) : Resolution σ ε Unit := do
  ofWork (Work.report level message (some key))
  note (.reported ⟨level, message, some key⟩)

/-- Run a step; a failure that the handler accepts becomes another. -/
def wrapping (wrap : Failure → Failure) (step : Resolution σ ε α) : Resolution σ ε α :=
  fun session => match step session with
    | .ok value after => .ok value after
    | .error failure after => .error (wrap failure) after

/-- Put a key on the stack while a step runs, and take it off whatever happens. -/
def onStack (key : String) (step : Resolution σ ε α) : Resolution σ ε α := do
  update fun executor => { executor with stack := executor.stack ++ [key] }
  note (.entered (← executor).stack)
  fun session =>
    let popped := fun after : Session σ ε => { after with executor :=
      { after.executor with stack := after.executor.stack.dropLast } }
    match step session with
    | .ok value after => .ok value (popped after)
    | .error failure after => .error failure (popped after)

/-- A failure of the graph becomes the failure to fetch a dependency; others stay what they are. -/
def fetchFailure (name : String) (failure : Failure) : Failure :=
  if failure.isOfGraph then .generation .fetching name failure else failure

/-- Resolve keys in order, for an asset of a name. -/
def fetchAll (resolveKey : String → Resolution σ ε (Node ε)) (name : String) :
    List String → Resolution σ ε Unit
  | [] => pure ()
  | key :: others => do
    let _ ← wrapping (fetchFailure name) (resolveKey key)
    fetchAll resolveKey name others

/-- Generate an asset whose dependencies are generated. -/
def produce (asset : Asset σ ε) : Resolution σ ε (Product ε) := do
  report .info ("Generating " ++ asset.name) asset.key
  note (.started asset.key)
  let parents := (← executor).parents
  let product ← wrapping (.generation .generating asset.name) (ofWork (asset.generate parents))
  note (.finished asset.key)
  return product

/-- Keep a generated asset for the rest of the executor's life. -/
def keep (node : Node ε) : Resolution σ ε (Node ε) := do
  match (← executor).parents.record node with
  | .error fault => ofWork (Work.fail (.configuration fault))
  | .ok parents =>
    update fun executor =>
      { executor with parents, generated := executor.generated ++ [node.key] }
    return node

/-- Generate an asset that is not generated yet: its dependencies first, then the asset itself. An
asset that is being worked on already closes a cycle. -/
def visit (resolveKey : String → Resolution σ ε (Node ε)) (asset : Asset σ ε) :
    Resolution σ ε (Node ε) := do
  let stack := (← executor).stack
  if asset.key ∈ stack then
    ofWork (Work.fail (.cycle (stack.dropWhile (· ≠ asset.key) ++ [asset.key])))
  else
    let product ← onStack asset.key do
      fetchAll resolveKey asset.name asset.dependencies
      produce asset
    keep (asset.holding product)

/-- Use an asset that is generated already. -/
def reuse (name : String) (node : Node ε) : Resolution σ ε (Node ε) := do
  report .debug ("Reusing " ++ name) node.key
  return node

/-- Resolve a target with calls nested at most so deep. -/
def resolveWithin (catalog : Catalog σ ε) : Nat → Target σ ε → Resolution σ ε (Node ε)
  | 0, _ => ofWork (Work.fail (.cycle []))
  | depth + 1, target => do
    let visiting := visit fun key => resolveWithin catalog depth (.key key)
    let parents := (← executor).parents
    match target with
    | .key key =>
      match parents.get? key with
      | some node => reuse node.name node
      | none => visiting (← ofWork (catalog.create key))
    | .asset asset =>
      match parents.get? asset.key with
      | some node => reuse asset.name node
      | none => visiting asset

/-- How deep calls can be nested: the stack holds registered keys and perhaps that of the target,
each once, and one more call stands on top of it. -/
def depthFor (catalog : Catalog σ ε) : Nat :=
  catalog.keys.length + 2

/-- Generate a target and everything that it depends on, and return the generated asset. -/
def resolve (catalog : Catalog σ ε) (target : Target σ ε) : Resolution σ ε (Node ε) :=
  resolveWithin catalog (depthFor catalog) target

end Resolution

end CertGraph
