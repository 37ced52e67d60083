import CertGraph.FileTree.Basic

/- Operations on trees by path, each a few single changes or a refusal. Whoever stores may do everything:
permissions are kept, but no operation is refused for them. -/
set_option autoImplicit false
set_option relaxedAutoImplicit false

namespace CertGraph

open CertGraph.FileTree (Refusal)
open CertGraph.Text (quoted)

/-- Why storing failed: an operation was refused on a path, perhaps with a second path, or a path
holds a zero character. -/
inductive StorageFault where
  | refused (refusal : Refusal) (path : String) (target : Option String)
  | zeroCharacter
deriving DecidableEq

/-- The wording of a failure to store. -/
def StorageFault.message : StorageFault → String
  | .refused refusal path target =>
    "[Errno " ++ toString refusal.number ++ "] " ++ refusal.wording ++ ": " ++ quoted path ++
      (match target with
        | some target => " -> " ++ quoted target
        | none => "")
  | .zeroCharacter => "embedded null byte"

/-- A step of storing that may fail; the changes before the failure stay. -/
abbrev Storing (α : Type) := EStateM StorageFault FileTree α

namespace Storing

variable {α : Type}

/-- The outcome of a step, which does not fail any more. -/
def attempt (step : Storing α) : Storing (Except StorageFault α) :=
  fun tree => match step tree with
    | .ok value after => .ok (.ok value) after
    | .error fault after => .ok (.error fault) after

/-- Fail with a refusal on a path. -/
def refuse (refusal : Refusal) (path : String) : Storing α :=
  throw (.refused refusal path none)

/-- Make a change. -/
def perform (change : Change) : Storing Unit :=
  modify fun tree => tree.after change

/-- The path, unless it holds a zero character. -/
def checked (path : Path) : Storing Unit :=
  if '\x00' ∈ path.text.toList then throw .zeroCharacter else pure ()

/-- The outcome of looking something up, refusals being about a path. -/
def looking (shown : String) (outcome : FileTree → Except Refusal α) : Storing α := do
  match outcome (← get) with
  | .ok value => pure value
  | .error refusal => refuse refusal shown

/-- The place that a path names, where nothing may be yet. -/
def newPlace (shown : String) (path : Path) : Storing Place := do
  checked path
  match ← looking shown fun tree => tree.locate path with
  | .directory _ => refuse .exists shown
  | .place place =>
    if ((← get).at? place).isSome then refuse .exists shown else pure place

/-- Make a directory; the refusal names the path as it is shown. -/
def makeDirectoryAs (shown : String) (path : Path) (mode : Nat) : Storing Unit := do
  let place ← newPlace shown path
  perform (.makeDirectory place ((← get).granted mode))

/-- Make a directory with the usual permissions. -/
def makeDirectory (path : Path) : Storing Unit :=
  makeDirectoryAs path.text path 0o777

/-- Whether a path names something; a missing or blocked path names nothing. -/
def present? (path : Path) : Storing (Option Entry) := do
  checked path
  match (← get).status path with
  | .ok entry => pure (some entry)
  | .error .missing => pure none
  | .error .notADirectory => pure none
  | .error refusal => refuse refusal path.text

/-- Refuse unless a path names a directory. -/
def unlessDirectory (refusal : Refusal) (path : Path) : Storing Unit := do
  match ← present? path with
  | some (.directory _) => pure ()
  | _ => refuse refusal path.text

/-- Make a directory unless it is there. -/
def ensureDirectory (path : Path) : Storing Unit :=
  tryCatch (makeDirectory path) fun
    | .refused .missing _ _ => refuse .missing path.text
    | .refused refusal _ _ => unlessDirectory refusal path
    | fault => throw fault

/-- Make a directory unless it is there, and the directories above it; the steps come last first. -/
def ensureAbove (slashes : Nat) : List String → Storing Unit
  | [] => ensureDirectory ⟨slashes, []⟩
  | step :: above =>
    let path : Path := ⟨slashes, (step :: above).reverse⟩
    tryCatch (makeDirectory path) fun
      | .refused .missing _ _ => do
        ensureAbove slashes above
        ensureDirectory path
      | .refused refusal _ _ => unlessDirectory refusal path
      | fault => throw fault

/-- Make a directory unless it is there, and all directories above it. -/
def ensureDirectories (path : Path) : Storing Unit :=
  ensureAbove path.slashes path.steps.reverse

/-- Make a directory for its owner only, under the first of some names that is not taken. -/
def makePrivateDirectory (directory : Path) (names : List String) : Storing Path :=
  let shownAs := fun name : String =>
    if directory.text.endsWith "/" then directory.text ++ name else directory.text ++ "/" ++ name
  match names with
  | [] => refuse .exists "No usable temporary directory name found"
  | name :: others =>
    let path := directory.join (Path.ofText name)
    tryCatch (do makeDirectoryAs (shownAs name) path 0o700; pure path) fun
      | .refused .exists _ _ => makePrivateDirectory directory others
      | fault => throw fault

/-- Write a new file. Its permissions are final before its contents are written; of the mode asked for,
the file has the permission bits. -/
def createFile (path : Path) (data : Octets) (mode : Nat) : Storing Unit := do
  let place ← newPlace path.text path
  let permissions := mode &&& FileTree.permissionBits
  perform (.createFile place ((← get).granted permissions))
  perform (.setMode place permissions)
  perform (.write place data)

/-- Move a file, over another file if there is one. -/
def moveFile (source target : Path) : Storing Unit := do
  checked source
  checked target
  let refuseBoth := fun refusal : Refusal =>
    (throw (.refused refusal source.text (some target.text)) : Storing Unit)
  let tree ← get
  match tree.locate source, tree.locate target with
  | .error refusal, _ => refuseBoth refusal
  | _, .error refusal => refuseBoth refusal
  | .ok (.place from'), .ok (.place to') =>
    match tree.at? from', tree.at? to' with
    | none, _ => refuseBoth .missing
    | some (.directory _), _ => refuseBoth .isADirectory
    | _, some (.directory _) => refuseBoth .isADirectory
    | _, _ => if from' = to' then pure () else perform (.move from' to')
  | _, _ => refuseBoth .isADirectory

/-- Remove a file if it is there. -/
def removeFile (path : Path) : Storing Unit := do
  match (← get).locate path with
  | .ok (.place place) =>
    match (← get).at? place with
    | some (.file _ _) => perform (.remove place)
    | some (.directory _) => refuse .isADirectory path.text
    | none => pure ()
  | .ok (.directory _) => refuse .isADirectory path.text
  | .error .missing => pure ()
  | .error refusal => refuse refusal path.text

/-- The places strictly below a directory, deepest first. -/
def below (tree : FileTree) (directory : Place) : List Place :=
  let places := (tree.entries.map Prod.fst).filter fun place =>
    directory.isPrefixOf place && place ≠ directory
  places.mergeSort fun a b => b.length ≤ a.length

/-- Remove a directory with everything in it; what is not there is left alone. -/
def removeTree (path : Path) : Storing Unit := do
  let tree ← get
  match tree.locate path with
  | .ok (.place place) =>
    match tree.at? place with
    | some (.directory _) => (below tree place ++ [place]).forM fun place => perform (.remove place)
    | _ => pure ()
  | _ => pure ()

end Storing

end CertGraph
