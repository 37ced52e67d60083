import CertGraph.Asset.Executor
import CertGraph.FileTree.Operations

/- Publishing: the files of all generated assets, written aside and then moved into place. -/
set_option autoImplicit false
set_option relaxedAutoImplicit false

namespace CertGraph

variable {σ ε α : Type}

/-- The workshop and the tree that a run works on. -/
structure Site (σ : Type) where
  workshop : Workshop σ
  tree : FileTree

/-- What ends a run: a failure on the way to the certificates or to store them, or a target or a
directory that is not given. -/
inductive RunFault where
  | failure (failure : Failure)
  | storage (fault : StorageFault)
  | targetMissing
  | directoryMissing

/-- The wording of what ended a run. -/
def RunFault.message : RunFault → String
  | .failure cause => cause.message
  | .storage fault => fault.message
  | .targetMissing => "unhashable type: 'list'"
  | .directoryMissing => "'list' object has no attribute 'mkdir'"

/-- A step of a run that may fail. -/
abbrev Run (σ α : Type) := EStateM RunFault (Site σ) α

namespace Run

/-- A step of the tree alone. -/
def ofStoring (step : Storing α) : Run σ α :=
  fun site => match step site.tree with
    | .ok value tree => .ok value { site with tree }
    | .error fault tree => .error (.storage fault) { site with tree }

/-- A step of the workshop alone. -/
def ofWork (work : Work σ α) : Run σ α :=
  fun site => match work site.workshop with
    | .ok value workshop => .ok value { site with workshop }
    | .error failure workshop => .error (.failure failure) { site with workshop }

/-- Write a report about no asset in particular. -/
def report (level : Level) (message : String) : Run σ Unit :=
  ofWork (Work.report level message none)

/-- Run a step, and another one after it whatever happens. -/
def andFinally (step : Run σ α) (last : Storing Unit) : Run σ α :=
  fun site => match step site with
    | .ok value after => ((do ofStoring last; pure value) : Run σ α) after
    | .error fault after => ((do ofStoring last; throw fault) : Run σ α) after

end Run

/-- What a run has published: where, which files, and the serial number of every certificate under
the key of its asset. -/
structure Publication where
  outputDir : Path
  written : List Path
  serials : List (String × String)

namespace Publication

/-- Write new files into a directory, in order. -/
def stageFiles (staging : Path) : List AssetFile → Storing (List Path)
  | [] => pure []
  | file :: others => do
    let path := staging.join (Path.ofText file.filename)
    Storing.createFile path file.data file.mode
    return path :: (← stageFiles staging others)

/-- Write the files of generated assets into a directory, and collect their serial numbers. Assets
of a kind without files are passed over. -/
def stageAll (parents : Parents ε) (staging : Path) :
    List String → Storing (List Path × List (String × String))
  | [] => pure ([], [])
  | key :: others => do
    let product? := (parents.get? key).map Node.product
    match product?.bind Product.files? with
    | none => stageAll parents staging others
    | some files =>
      let paths ← stageFiles staging files
      let (more, serials) ← stageAll parents staging others
      let serial := (product?.bind Product.certificate?).map fun certificate =>
        (key, certificate.serialText)
      return (paths ++ more, serial.toList ++ serials)

/-- Where a staged file goes: its last step in the directory meant. -/
def finalPath (directory path : Path) : Path :=
  ⟨directory.slashes, directory.steps ++ [path.name]⟩

/-- Move files into a directory until one cannot be moved. -/
def moveAll (directory : Path) : List Path → Storing (List Path × Option StorageFault)
  | [] => pure ([], none)
  | path :: others => do
    let target := finalPath directory path
    match ← Storing.attempt (Storing.moveFile path target) with
    | .error fault => return ([], some fault)
    | .ok () =>
      let (moved, fault?) ← moveAll directory others
      return (target :: moved, fault?)

/-- Remove what was moved into a directory, and the directory too if it was made for that. -/
def undo (directory : Path) (existed : Bool) (moved : List Path) : Storing Unit := do
  moved.forM Storing.removeFile
  if existed then pure () else Storing.removeTree directory

/-- Move staged files into a directory; if one cannot be moved, take back the others. -/
def commit (directory : Path) (staged : List Path) : Run σ (List Path) := do
  let existed := (← Run.ofStoring (Storing.present? directory)).isSome
  Run.ofStoring (Storing.ensureDirectory directory)
  let (moved, fault?) ← Run.ofStoring (moveAll directory staged)
  match fault? with
  | none => return moved
  | some fault =>
    if fault ≠ .zeroCharacter then
      Run.report .error
        ("Failed to move PKI files into " ++ directory.text ++ ", removing partial output")
      Run.ofStoring (undo directory existed moved)
    throw (.storage fault)

/-- The names to try for the directory in which files are staged. -/
def stagingNames (tlsDir : String) (suffixes : List String) : List String :=
  suffixes.map fun suffix => "." ++ tlsDir ++ "-" ++ suffix

/-- Publish the files of everything that was generated. They are staged in a private directory
beside the final one. -/
def write (parents : Parents ε) (generated : List String) (outputDir : Path) (tlsDir : String)
    (suffixes : List String) : Run σ Publication := do
  Run.ofStoring (Storing.ensureDirectories outputDir)
  let directory := outputDir.join (Path.ofText tlsDir)
  let staging ← Run.ofStoring
    (Storing.makePrivateDirectory outputDir (stagingNames tlsDir suffixes))
  let (written, serials) ← Run.andFinally
    (do
      let (staged, serials) ← Run.ofStoring (stageAll parents staging generated)
      return (← commit directory staged, serials))
    (Storing.removeTree staging)
  Run.report .info
    ("Wrote " ++ toString written.length ++ " files to " ++ directory.text)
  return ⟨directory, written, serials⟩

/-- Resolve targets in order with one executor. -/
def resolveAll (catalog : Catalog σ ε) : List String → Resolution σ ε Unit
  | [] => pure ()
  | target :: others => do
    let _ ← Resolution.resolve catalog (.key target)
    resolveAll catalog others

/-- The executor after all targets are resolved. -/
def resolveTargets (catalog : Catalog σ ε) (targets : List String) : Run σ (Executor ε) :=
  fun site =>
    match resolveAll catalog targets ⟨site.workshop, Executor.fresh⟩ with
    | .ok () session => .ok session.executor { site with workshop := session.workshop }
    | .error failure session =>
      .error (.failure failure) { site with workshop := session.workshop }

/-- Resolve targets and publish everything that was generated; nothing is written unless all
targets resolve. -/
def generate (catalog : Catalog σ ε) (targets : List String) (outputDir : Path) (tlsDir : String)
    (suffixes : List String) : Run σ Publication := do
  let executor ← resolveTargets catalog targets
  write executor.parents executor.generated outputDir tlsDir suffixes

end Publication

end CertGraph
