import CertGraph.Cluster.Generation
import CertGraph.Text.Number

/- The command line: its options, what is wrong with arguments, and what a command does. -/
set_option autoImplicit false
set_option relaxedAutoImplicit false

namespace CertGraph.CommandLine

open CertGraph.Text (intOfText? isDecimal quoted)

/-- The name of the command. -/
def command : String := "generate-pki"

/-- How the command is used. -/
def usage : String :=
  "usage: " ++ command ++ " [-h] --service-cidr CIDR --api-address NAME " ++
    "[--output-dir DIRECTORY] [--target KEY] [--key-size BITS]"

/-- An option of the command. -/
inductive Flag where
  | help
  | serviceCidr
  | apiAddress
  | outputDir
  | target
  | keySize
deriving DecidableEq

namespace Flag

/-- Every option, in order. -/
def all : List Flag := [.help, .serviceCidr, .apiAddress, .outputDir, .target, .keySize]

/-- The long spelling of an option. -/
def long : Flag → String
  | .help => "--help"
  | .serviceCidr => "--service-cidr"
  | .apiAddress => "--api-address"
  | .outputDir => "--output-dir"
  | .target => "--target"
  | .keySize => "--key-size"

/-- The short spelling of the one option that has one. -/
def short : String := "-h"

/-- An option with all its spellings. -/
def label : Flag → String
  | .help => short ++ "/" ++ Flag.help.long
  | flag => flag.long

/-- The option of a spelling. -/
def ofSpelling? (spelling : String) : Option Flag :=
  if spelling = short then some .help else all.find? fun flag => flag.long = spelling

end Flag

/-- What is wrong with the arguments. -/
inductive UsageFault where
  | ambiguous (argument : String) (flags : List Flag)
  | ignoredArgument (argument : String)
  | argumentMissing (flag : Flag)
  | notAnInt (argument : String)
  | notAChoice (argument : String)
  | required (flags : List Flag)
  | unrecognized (arguments : List String)

/-- The wording of what is wrong. -/
def UsageFault.message : UsageFault → String
  | .ambiguous argument flags =>
    "ambiguous option: " ++ argument ++ " could match " ++ ", ".intercalate (flags.map Flag.long)
  | .ignoredArgument argument =>
    "argument " ++ Flag.help.label ++ ": ignored explicit argument " ++ quoted argument
  | .argumentMissing flag => "argument " ++ flag.label ++ ": expected one argument"
  | .notAnInt argument =>
    "argument " ++ Flag.keySize.label ++ ": invalid int value: " ++ quoted argument
  | .notAChoice argument =>
    "argument " ++ Flag.target.label ++ ": invalid choice: " ++ quoted argument ++
      " (choose from " ++ ", ".intercalate (Cluster.defaultTargets.map quoted) ++ ")"
  | .required flags =>
    "the following arguments are required: " ++ ", ".intercalate (flags.map Flag.label)
  | .unrecognized arguments => "unrecognized arguments: " ++ " ".intercalate arguments

/-! ### Arguments one by one -/

/-- An argument: an option, perhaps with a value of its own, the short option with something after
it, or something else. -/
inductive Token where
  | option (flag : Flag) (value : Option String)
  | cluster (more : String)
  | unknown (argument : String)
  | plain (argument : String)
  | divider

/-- A text up to the first equals sign, and the text after it. -/
private def splitValue (argument : String) : String × Option String :=
  match argument.toList.span (· ≠ '=') with
  | (name, _ :: value) => (String.ofList name, some (String.ofList value))
  | (_, []) => (argument, none)

/-- Whether a text is a negative number; it may end in a line end. -/
private def isNegativeNumber (argument : String) : Bool :=
  let chars := argument.toList
  let chars := if chars.getLast? = some '\n' then chars.dropLast else chars
  match chars with
  | '-' :: digits =>
    match digits.dropWhile isDecimal with
    | [] => !digits.isEmpty
    | '.' :: fraction => !fraction.isEmpty && fraction.all isDecimal
    | _ => false
  | _ => false

/-- An argument that is no exact spelling of an option and no value after the divider. An
abbreviation of one long spelling stands for it. -/
private def classifyOther (argument : String) : Except UsageFault Token :=
  let (name, value) := splitValue argument
  let chars := argument.toList
  let found := if chars.take 2 = ['-', '-'] then
      Flag.all.filter fun flag => name.toList.isPrefixOf flag.long.toList
    else []
  match found with
  | [flag] => .ok (.option flag value)
  | _ :: _ :: _ => .error (.ambiguous argument found)
  | [] =>
    if chars.take 2 = Flag.short.toList then
      .ok (.cluster (String.ofList (chars.drop 2)))
    else if isNegativeNumber argument ∨ ' ' ∈ chars then .ok (.plain argument)
    else .ok (.unknown argument)

/-- What an argument before the divider is. -/
def classify (argument : String) : Except UsageFault Token :=
  if argument.toList.head? ≠ some '-' ∨ argument = "-" then .ok (.plain argument)
  else match Flag.ofSpelling? argument with
    | some flag => .ok (.option flag none)
    | none =>
      let (name, value) := splitValue argument
      match Flag.ofSpelling? name, value with
      | some flag, some value =>
        .ok (if name = Flag.short then .cluster value else .option flag (some value))
      | _, _ => classifyOther argument

/-- What the arguments are; after the divider all of them are plain. -/
def tokens : List String → Except UsageFault (List Token)
  | [] => .ok []
  | argument :: others =>
    if argument = "--" then .ok (.divider :: others.map .plain)
    else do .ok ((← classify argument) :: (← tokens others))

/-! ### Options -/

/-- The value of an option, if one is given: the divider in its place stands for none. -/
abbrev Value (α : Type) := Option α

/-- The value that a text after an equals sign stands for. -/
def attachedValue (text : String) : Value String :=
  if text = "--" then none else some text

/-- What the options say so far. -/
structure Settings where
  serviceCidr : Option (Value String)
  apiAddress : Option (Value String)
  outputDir : Value String
  targets : List (Value String)
  keySize : KeySize
  leftover : List String

/-- No option yet. -/
def Settings.initial : Settings := ⟨none, none, some "output", [], defaultKeySize, []⟩

/-- What the command is asked to do. -/
structure Request where
  serviceCidr : Value String
  apiAddress : Value String
  outputDir : Value Path
  targets : List (Value String)
  keySize : KeySize

/-- What the arguments amount to. -/
inductive Reading where
  | help
  | request (request : Request)
  | misuse (fault : UsageFault)

namespace Settings

/-- The settings with the value of an option; only a value that is given can be a wrong one. -/
def set (settings : Settings) (flag : Flag) (value : Value String) : Except UsageFault Settings :=
  match flag, value with
  | .help, _ => .ok settings
  | .serviceCidr, _ => .ok { settings with serviceCidr := some value }
  | .apiAddress, _ => .ok { settings with apiAddress := some value }
  | .outputDir, _ => .ok { settings with outputDir := value }
  | .target, some key =>
    if Cluster.defaultTargets.contains key then
      .ok { settings with targets := settings.targets ++ [some key] }
    else .error (.notAChoice key)
  | .target, none => .ok { settings with targets := settings.targets ++ [none] }
  | .keySize, some size =>
    match intOfText? size with
    | some bits => .ok { settings with keySize := some bits }
    | none => .error (.notAnInt size)
  | .keySize, none => .ok { settings with keySize := none }

/-- The settings with an argument that no option takes. -/
def leave (settings : Settings) (argument : String) : Settings :=
  { settings with leftover := settings.leftover ++ [argument] }

/-- The request, if the required options are there and no argument is left over. -/
def finish (settings : Settings) : Reading :=
  match settings.serviceCidr, settings.apiAddress with
  | some serviceCidr, some apiAddress =>
    if settings.leftover = [] then
      .request ⟨serviceCidr, apiAddress, settings.outputDir.map Path.ofText, settings.targets,
        settings.keySize⟩
    else .misuse (.unrecognized settings.leftover)
  | cidr, address =>
    .misuse (.required ((if cidr.isNone then [.serviceCidr] else []) ++
      (if address.isNone then [.apiAddress] else [])))

end Settings

/-- What follows the short option has to repeat it, at least once. -/
private def readCluster (more : String) : Reading :=
  let rest := more.toList.dropWhile (· = 'h')
  if more ≠ "" ∧ rest = [] then .help else .misuse (.ignoredArgument (String.ofList rest))

/-- Read arguments from left to right; help and the first fault end the reading. -/
def readTokens (settings : Settings) : List Token → Reading
  | [] => settings.finish
  | .plain argument :: rest => readTokens (settings.leave argument) rest
  | .unknown argument :: rest => readTokens (settings.leave argument) rest
  | .divider :: rest => readTokens (settings.leave "--") rest
  | .option .help none :: _ => .help
  | .option .help (some value) :: _ => .misuse (.ignoredArgument value)
  | .cluster more :: _ => readCluster more
  | .option flag (some text) :: rest =>
    match settings.set flag (attachedValue text) with
    | .ok settings => readTokens settings rest
    | .error fault => .misuse fault
  | .option flag none :: .plain value :: rest =>
    match settings.set flag (some value) with
    | .ok settings => readTokens settings rest
    | .error fault => .misuse fault
  | .option flag none :: _ => .misuse (.argumentMissing flag)

/-- What the arguments of the command amount to. -/
def read (arguments : List String) : Reading :=
  match tokens arguments with
  | .ok tokens => readTokens Settings.initial tokens
  | .error fault => .misuse fault

/-! ### The command -/

variable {σ α : Type}

/-- How a command ended: its exit code, and the last line about wrong arguments. -/
structure Outcome where
  exitCode : Nat
  complaint : Option String
deriving DecidableEq

/-- The settings of the installation that a request is about. -/
def Request.installConfig (request : Request) : Except ConfigurationFault InstallConfig :=
  let source := match request.serviceCidr with
    | some cidr => .text cidr
    | none => .missing
  InstallConfig.make source (request.apiAddress.getD "")

/-- Generate and publish what is asked for. The targets before one without a value are resolved
first, and all of them before a directory is needed. -/
def publish (config : InstallConfig) (request : Request) (suffixes : List String) :
    Run σ Publication :=
  match request.targets.mapM id, request.outputDir with
  | some targets, some outputDir =>
    Cluster.generate config request.keySize Cluster.defaultTlsDir outputDir targets suffixes
  | some targets, none => do
    let _ ← Cluster.resolve config request.keySize targets
    throw .directoryMissing
  | none, _ => do
    let named := (request.targets.takeWhile Option.isSome).filterMap id
    if named ≠ [] then
      let _ ← Cluster.resolve config request.keySize named
    throw .targetMissing

/-- Do what is asked for. -/
def perform (request : Request) (suffixes : List String) : Run σ Unit := do
  let config ← Run.ofWork (Work.configured request.installConfig)
  Run.report .info "Generating cluster PKI..."
  let done ← publish config request suffixes
  done.serials.forM fun (key, serial) =>
    Run.report .info ("  " ++ key ++ ": serial " ++ serial)
  Run.report .info ("PKI generation complete: " ++ done.outputDir.text)

/-- Do what is asked for. Failures and refusals of the storage are reported and make the exit code
one; a path with a zero character, a target or a directory without a value ends the run. -/
def execute (request : Request) (suffixes : List String) : Run σ Outcome :=
  tryCatch (do perform request suffixes; pure ⟨0, none⟩) fun
    | .failure failure => do
      Run.report .error ("PKI generation failed: " ++ failure.message)
      pure ⟨1, none⟩
    | .storage (.refused refusal path target) => do
      let fault := StorageFault.refused refusal path target
      Run.report .error ("Failed to write PKI artifacts: " ++ fault.message)
      pure ⟨1, none⟩
    | fault => throw fault

/-- Run the command with arguments. -/
def run (arguments : List String) (suffixes : List String) : Run σ Outcome :=
  match read arguments with
  | .help => pure ⟨0, none⟩
  | .misuse fault => pure ⟨2, some (command ++ ": error: " ++ fault.message)⟩
  | .request request => execute request suffixes

end CertGraph.CommandLine
