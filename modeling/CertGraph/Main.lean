import CertGraph.CommandLine
import CertGraph.LogLine
import CertGraph.Supply.Seeded
import Std.Time.DateTime.Timestamp

/- The program: it reads what the run may depend on, runs, and makes the changes of the run on the
disk in order. -/
set_option autoImplicit false
set_option relaxedAutoImplicit false

namespace CertGraph.Program

/-- A place as text. -/
def textOf (place : Place) : String :=
  "/" ++ "/".intercalate place

/-- The places that steps lead through. -/
def placesAlong (here : Place) : List String → List Place
  | [] => [here]
  | step :: rest =>
    here :: placesAlong (if step = ".." then here.dropLast else here ++ [step]) rest

/-- Permission bits as rights of the owner, the group and all others. -/
def rightsOf (mode : Nat) : IO.FileRight :=
  let triple := fun bits : Nat =>
    (⟨bits.testBit 2, bits.testBit 1, bits.testBit 0⟩ : IO.AccessRight)
  ⟨triple (mode / 64), triple (mode / 8), triple mode⟩

/-- The entry at a place of the disk. A file is shown empty, for no run reads one. -/
def readEntry (place : Place) : IO (Option (Place × Entry)) := do
  try
    let found ← ((← IO.currentDir) / textOf place).metadata
    return some (place, if found.type == .dir then .directory 0o755 else .file 0o644 [])
  catch _ => return none

/-- The names in a directory of the disk. -/
def readNames (place : Place) : IO (List String) := do
  try
    return ((← ((← IO.currentDir) / textOf place).readDir).map fun entry => entry.fileName).toList
  catch _ => return []

/-- What a run with arguments may depend on: the way to the directory for its files, and what is
there. -/
def readTree (arguments : List String) : IO FileTree := do
  let here := (Path.ofText (← IO.currentDir).toString).steps
  let along := match CommandLine.read arguments with
    | .request request =>
      let outputDir := request.outputDir.getD (Path.ofText "")
      let directory := outputDir.join (Path.ofText Cluster.defaultTlsDir)
      placesAlong (if directory.slashes = 0 then here else []) directory.steps
    | _ => []
  let last := along.getLast?.getD []
  let below := (← readNames last).map fun name => last ++ [name]
  let places := (placesAlong [] here ++ along ++ below).eraseDups
  let entries ← places.filterMapM readEntry
  return ⟨entries, here, 0o022, []⟩

/-- Make one change on the disk. -/
def make : Change → IO Unit
  | .makeDirectory place mode => do
    IO.FS.createDir (textOf place)
    IO.setAccessRights (textOf place) (rightsOf mode)
  | .createFile place mode => do
    let _ ← IO.FS.Handle.mk (textOf place) .writeNew
    IO.setAccessRights (textOf place) (rightsOf mode)
  | .setMode place mode => IO.setAccessRights (textOf place) (rightsOf mode)
  | .write place data => IO.FS.writeBinFile (textOf place) ⟨data.toArray⟩
  | .move source target => IO.FS.rename (textOf source) (textOf target)
  | .remove place =>
    tryCatch (IO.FS.removeFile (textOf place)) fun _ => IO.FS.removeDir (textOf place)

/-- Take back one change as far as possible. -/
def unmake (change : Change) : IO Unit :=
  let removal := match change with
    | .makeDirectory place _ => IO.FS.removeDir (textOf place)
    | .createFile place _ => IO.FS.removeFile (textOf place)
    | .move _ target => IO.FS.removeFile (textOf target)
    | _ => pure ()
  tryCatch removal fun _ => pure ()

/-- Make changes in order; if the disk refuses one, those before it are taken back. -/
def makeAll : List Change → IO Unit
  | [] => pure ()
  | change :: others => do
    make change
    tryCatch (makeAll others) fun error => do
      unmake change
      throw error

/-- The source of a run with arguments. -/
def sourceOf (arguments : List String) (seed : Seed) : Source :=
  match CommandLine.read arguments with
  | .request request => Source.ofSeed seed (request.keySize.getD 0).toNat
  | _ => Source.ofSeed seed 0

/-- Microseconds since the start of 1970. -/
def readClock : IO Int := do
  return (← Std.Time.Timestamp.now).toNanosecondsSinceUnixEpoch.val / 1000

/-- Run the command: its reports go to the error output, a line each, and the result is its exit
code. -/
def run (arguments : List String) : IO UInt32 := do
  let seed : Seed := ⟨(← IO.getRandomBytes 32).toList⟩
  let created ← readClock
  let supply := Supply.fresh (sourceOf arguments seed) (Time.Instant.ofEpochMicros created)
  let suffix := String.ofList (Text.paddedDigits 16 8 ((seed.child 2).number 32))
  let site : Site Unit := ⟨⟨supply, [], ()⟩, ← readTree arguments⟩
  match CommandLine.run arguments [suffix] site with
  | .error fault _ =>
    IO.eprintln fault.message
    return 1
  | .ok outcome after =>
    let report := fun report : Report =>
      match LogLine.ofReport report created with
      | .ok line => IO.eprintln line
      | .error fault => IO.eprintln fault.message
    try
      makeAll after.tree.history
    catch error =>
      report ⟨.error, "Failed to write PKI artifacts: " ++ toString error, none⟩
      return 1
    (after.workshop.journal.atLeast .info).forM report
    match CommandLine.read arguments, outcome.complaint with
    | .help, _ => IO.println CommandLine.usage
    | _, some complaint => do
      IO.eprintln CommandLine.usage
      IO.eprintln complaint
    | _, none => pure ()
    return outcome.exitCode.toUInt32

end CertGraph.Program

/-- The program. -/
def main (arguments : List String) : IO UInt32 :=
  CertGraph.Program.run arguments
