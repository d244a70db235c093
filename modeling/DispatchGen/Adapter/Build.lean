import DispatchGen.Adapter.Basic
import DispatchGen.SignatureTypes
import DispatchGen.Text.Identifier
import DispatchGen.Text.Quoted

/-! # Building adapters

A service has an adapter when its name and its methods' names are usable in code and every input
type is known. Otherwise the first violation in this order is reported.
-/
namespace DispatchGen
open Text

inductive Refusal where
  | unresolvedTypes (file service : String) (typeNames : List String)
  | serviceName (file service : String)
  | methodName (file service method : String)
  | inputType (file service method typeName : String)
  deriving Repr, DecidableEq

def Refusal.message : Refusal → String
  | unresolvedTypes file service typeNames =>
    file ++ ": " ++ service ++ ": unresolved type reference(s): " ++ ", ".intercalate typeNames
  | serviceName file service => file ++ ": invalid service name " ++ quoted service
  | methodName file service method =>
    file ++ ": " ++ service ++ " has invalid method name " ++ quoted method
  | inputType file service method typeName =>
    file ++ ": " ++ service ++ "." ++ method ++ ": unknown input type " ++ quoted typeName

structure RenderJob where
  package : String
  file : String
  service : Service
  directories : List String
  types : SignatureTypes
  deriving Inhabited

namespace RenderJob

/-- Refuses names that are not usable in code, the service's own name first. -/
def checkNames (job : RenderJob) : Except Refusal Unit :=
  if !isUsableName job.service.name then .error (.serviceName job.file job.service.name)
  else match job.service.methods.find? fun method => !isUsableName method.name with
    | some method => .error (.methodName job.file job.service.name method.name)
    | none => .ok ()

def inputEntry (job : RenderJob) (method : Method) : Except Refusal TypeEntry :=
  match job.types.resolve method.input with
  | some entry => .ok entry
  | none => .error (.inputType job.file job.service.name method.name method.input)

/-- The entries of all input types, or the first method whose input type is unknown. -/
def inputEntries (job : RenderJob) : Except Refusal (List (Method × TypeEntry)) :=
  job.service.methods.mapM fun method => (job.inputEntry method).map fun entry => (method, entry)

/-- The files of the input types apart from the root file, each once, in code-point order. -/
def foreignFiles (job : RenderJob) (inputs : List (Method × TypeEntry)) : List String :=
  sortedDistinct ((inputs.map (·.2.fileName)).filter (· ≠ job.file))

/-- The directories whose files are imported first: the root file's own, then the given ones. -/
def directoryOrder (job : RenderJob) : List String :=
  (InterfaceFile.directory job.file :: job.directories).eraseDups

/-- The files grouped by directory; those in no listed directory come last. -/
def arrange (directories files : List String) : List String :=
  let listed := directories.flatMap fun directory =>
    files.filter fun file => InterfaceFile.directory file = directory
  listed ++ files.filter fun file => !listed.contains file

def adapter (job : RenderJob) (timestamp : Timestamp) : Except Refusal Adapter := do
  job.checkNames
  let inputs ← job.inputEntries
  return {
    package := if job.package = "" then "main" else job.package
    file := job.file
    service := job.service.name
    timestamp
    importedFiles := arrange job.directoryOrder (job.foreignFiles inputs)
    branches := inputs.map fun (method, entry) => ⟨method, Reference.ofEntry job.file entry⟩ }

end RenderJob
end DispatchGen
