import DispatchGen.CommandLine.Arguments
import DispatchGen.Delivery
import DispatchGen.Verbosity

/-! # The generator command

The command delivers adapters and prints their paths. A failure of the generator is printed behind
them; any other failure leaves the command as an error.
-/
namespace DispatchGen.CommandLine

def usage : String :=
  "usage: grpcer-generate [-h] [--proto PROTOS] --out OUTPUT [--package PACKAGE]\n" ++
  "                       [--path PATH] [-v]\n" ++
  "                       descriptor_set\n"

def help : String :=
  usage ++
  "\n" ++
  "Generate *_grpcer.py client adapters from a descriptor set produced by protoc.\n" ++
  "\n" ++
  "positional arguments:\n" ++
  "  descriptor_set     Path to a serialized FileDescriptorSet (protoc\n" ++
  "                     --include_imports --descriptor_set_out)\n" ++
  "\n" ++
  "options:\n" ++
  "  -h, --help         show this help message and exit\n" ++
  "  --proto PROTOS     Proto file to generate (relative to the descriptor).\n" ++
  "                     Repeat for multiple files. Defaults to all entries in the\n" ++
  "                     descriptor set.\n" ++
  "  --out OUTPUT       Directory to write the generated client adapters to\n" ++
  "  --package PACKAGE  Destination package recorded in generated modules\n" ++
  "  --path PATH        Sub-directory of --out for generated modules\n" ++
  "  -v, --verbose      Enable debug logging\n"

def usageError (error : UsageError) : String :=
  usage ++ "grpcer-generate: error: " ++ error.message ++ "\n"

/-- What the command gives back. An error that leaves the command is kept beside what it has written. -/
structure Ending where
  code : Nat
  output : String
  errors : String
  raised : Option DeliveryError := none

structure Exit extends Ending where
  store : FileStore

def Command.order (command : Command) (output : String) : DeliveryOrder where
  source := FilePath.ofString command.source
  targets := command.targets.filterMap id
  output := FilePath.ofString output
  package := command.package
  path := command.path

/-- What is to be done for a command with the files of its set. A wanted file without a value is an error. -/
def Command.plan (command : Command) (output : String) (timestamp : Timestamp) (files : List SourceFile) :
    Except DeliveryError DeliveryPlan :=
  if command.targets.contains none then .error .noTarget
  else
    let order := command.order output
    .ok (order.plan ((order.request files).run (adapterRenderer timestamp)))

/-- Delivers what a command asks for. A directory without a value fails before the set is read. -/
def Command.deliver (command : Command) (store : FileStore) (timestamp : Timestamp) : Option Delivery :=
  match command.output with
  | none => some (Delivery.fail store .noDirectory)
  | some output =>
    match Delivery.readSet store (FilePath.ofString command.source) with
    | .error error => some (Delivery.fail store error)
    | .ok none => none
    | .ok (some files) =>
      match command.plan output timestamp files with
      | .error error => some (Delivery.fail store error)
      | .ok plan => some (plan.carryOut store)

def pathLines (paths : List FilePath) : String :=
  String.join (paths.map fun path => path.text ++ "\n")

/-- How the command ends with the result of a delivery; `log` is what the log has written. -/
def conclude (result : Except DeliveryError (List FilePath)) (log : String) : Ending :=
  match result with
  | .ok written => { code := 0, output := pathLines written, errors := log }
  | .error (.generation message written) =>
    { code := 1, output := pathLines written, errors := log ++ "error: " ++ message ++ "\n" }
  | .error error => { code := 1, output := "", errors := log, raised := some error }

def run (store : FileStore) (environment : Option String) (timestamp : Timestamp)
    (words : List String) : Option Exit :=
  match read words with
  | .error error => some ⟨{ code := 2, output := "", errors := usageError error }, store⟩
  | .ok none => some ⟨{ code := 0, output := help, errors := "" }, store⟩
  | .ok (some command) =>
    (command.deliver store timestamp).map fun delivery =>
      let log := Verbosity.lines (Verbosity.chosenLevel command.verbose environment) delivery.diagnostics
      ⟨conclude delivery.result log, delivery.store⟩

end DispatchGen.CommandLine
