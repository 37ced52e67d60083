import CertGraph.FileTree.Path
import CertGraph.Octets
import CertGraph.Text.Quoted

/- Trees of directories and files, the single changes made to them, and where paths lead. -/
set_option autoImplicit false
set_option relaxedAutoImplicit false

namespace CertGraph

/-- Where a file or directory is: the names from the root down. -/
abbrev Place := List String

/-- A directory or a file, with its permission bits. -/
inductive Entry where
  | directory (mode : Nat)
  | file (mode : Nat) (data : Octets)
deriving DecidableEq

namespace Entry

/-- Whether an entry is a directory. -/
def isDirectory : Entry → Bool
  | .directory _ => true
  | .file _ _ => false

/-- The permission bits. -/
def mode : Entry → Nat
  | .directory mode => mode
  | .file mode _ => mode

/-- The entry with other permission bits. -/
def withMode (mode : Nat) : Entry → Entry
  | .directory _ => .directory mode
  | .file _ data => .file mode data

/-- The entry with other contents, if it has any. -/
def withData (data : Octets) : Entry → Entry
  | .directory mode => .directory mode
  | .file mode _ => .file mode data

end Entry

/-- A single change of a tree. -/
inductive Change where
  | makeDirectory (place : Place) (mode : Nat)
  | createFile (place : Place) (mode : Nat)
  | setMode (place : Place) (mode : Nat)
  | write (place : Place) (data : Octets)
  | move (source target : Place)
  | remove (place : Place)
deriving DecidableEq

/-- The entries below the root, the working directory, the permission bits that are withheld from
new entries, and all changes so far. -/
structure FileTree where
  entries : List (Place × Entry)
  workingDirectory : Place
  umask : Nat
  history : List Change

namespace FileTree

/-- The entry at a place; the root is a directory. -/
def at? (tree : FileTree) (place : Place) : Option Entry :=
  if place = [] then some (.directory 0o755) else tree.entries.lookup place

/-- The entries without the one at a place. -/
def without (entries : List (Place × Entry)) (place : Place) : List (Place × Entry) :=
  entries.filter fun entry => entry.1 ≠ place

/-- The entries with another one at a place. -/
def put (entries : List (Place × Entry)) (place : Place) (entry : Entry) :
    List (Place × Entry) :=
  without entries place ++ [(place, entry)]

/-- The entries with the one at a place changed. -/
def change (entries : List (Place × Entry)) (place : Place) (f : Entry → Entry) :
    List (Place × Entry) :=
  entries.map fun entry => if entry.1 = place then (place, f entry.2) else entry

/-- What a change makes of the entries. -/
def applied (entries : List (Place × Entry)) : Change → List (Place × Entry)
  | .makeDirectory place mode => put entries place (.directory mode)
  | .createFile place mode => put entries place (.file mode [])
  | .setMode place mode => change entries place (Entry.withMode mode)
  | .write place data => change entries place (Entry.withData data)
  | .move source target =>
    match entries.lookup source with
    | none => entries
    | some entry => put (without entries source) target entry
  | .remove place => without entries place

/-- The tree after a change. -/
def after (tree : FileTree) (change : Change) : FileTree :=
  { tree with entries := applied tree.entries change, history := tree.history ++ [change] }

/-- The permission bits that an entry has. -/
def permissionBits : Nat := 0o7777

/-- The permission bits that a new entry gets of those asked for. -/
def granted (tree : FileTree) (mode : Nat) : Nat :=
  mode &&& (permissionBits ^^^ (tree.umask &&& permissionBits))

/-! ### Where paths lead -/

/-- Why an operation on a path is refused. -/
inductive Refusal where
  | missing
  | exists
  | notADirectory
  | isADirectory
  | nameTooLong
deriving DecidableEq

namespace Refusal

/-- The number by which systems report a refusal. -/
def number : Refusal → Nat
  | .missing => 2
  | .exists => 17
  | .notADirectory => 20
  | .isADirectory => 21
  | .nameTooLong => 36

/-- The wording of a refusal. -/
def wording : Refusal → String
  | .missing => "No such file or directory"
  | .exists => "File exists"
  | .notADirectory => "Not a directory"
  | .isADirectory => "Is a directory"
  | .nameTooLong => "File name too long"

end Refusal

/-- The longest name of an entry, in octets. -/
def maxName : Nat := 255

/-- The longest path, in octets. -/
def maxPath : Nat := 4095

/-- The length of a text in octets. -/
def size (text : String) : Nat :=
  (Octets.ofText text).length

/-- Follow steps from a directory; all of them have to lead to directories. -/
def walk (tree : FileTree) (here : Place) : List String → Except Refusal Place
  | [] => .ok here
  | step :: rest =>
    if step = ".." then tree.walk here.dropLast rest
    else if maxName < size step then .error .nameTooLong
    else match tree.at? (here ++ [step]) with
      | none => .error .missing
      | some (.file _ _) => .error .notADirectory
      | some (.directory _) => tree.walk (here ++ [step]) rest

/-- What a path names: a directory known to exist, or a place in one. -/
inductive Named where
  | directory (place : Place)
  | place (place : Place)
deriving DecidableEq

/-- What a path names. The root, the working directory and two dots name directories. -/
def locate (tree : FileTree) (path : Path) : Except Refusal Named :=
  let start := if path.slashes = 0 then tree.workingDirectory else []
  if maxPath < size path.text then .error .nameTooLong
  else match path.steps.getLast? with
    | none => .ok (.directory start)
    | some last => do
      let directory ← tree.walk start path.steps.dropLast
      if last = ".." then .ok (.directory directory.dropLast)
      else if maxName < size last then .error .nameTooLong
      else .ok (.place (directory ++ [last]))

/-- The entry that a path names. -/
def status (tree : FileTree) (path : Path) : Except Refusal Entry := do
  match ← tree.locate path with
  | .directory place => .ok ((tree.at? place).getD (.directory 0o755))
  | .place place =>
    match tree.at? place with
    | some entry => .ok entry
    | none => .error .missing

end FileTree

end CertGraph
