import DispatchGen.Adapter.Build
import DispatchGen.Adapter.Printer
import DispatchGen.SignatureTypes
import DispatchGen.Outcome
import DispatchGen.InputDirectories
import DispatchGen.Roots
import DispatchGen.Settings

/-! # Generation runs

A run has one task for every service of every root file. A task ends with a file or with a failure,
whatever the other tasks do. Tasks may finish in any order; the run given here is the one in which they
finish in task order, and the orders decide about the order of the files and the failure that is kept.
-/
namespace DispatchGen
open Text

/-- What a renderer does with a job: it gives a text, refuses the service, or breaks down. -/
inductive Rendering where
  | content (text : String)
  | refused (message : String)
  | broken (kind text : String)
  deriving Repr, DecidableEq, Inhabited

abbrev Renderer := RenderJob → Rendering

def adapterRenderer (timestamp : Timestamp) : Renderer := fun job =>
  match job.adapter timestamp with
  | .ok adapter => .content adapter.text
  | .error refusal => .refused refusal.message

structure ServiceTask where
  root : SourceFile
  service : Service
  deriving Inhabited

inductive TaskResult where
  | produced (file : OutputFile)
  | failed (message : String)
  | broken (kind text : String)
  deriving Repr, DecidableEq, Inhabited

namespace ServiceTask

/-- The service is named in the path when its file declares several. -/
def destination (task : ServiceTask) (settings : Settings) : String :=
  Adapter.destination settings.path task.root.name
    (if task.root.services.length > 1 then some task.service.name else none)

/-- Type names in the methods' signatures that lead nowhere, each once, in code-point order. -/
def unresolved (task : ServiceTask) (needed : SignatureTypes) : List String :=
  sortedDistinct ((task.service.methods.flatMap fun method => [method.input, method.output]).filter
    fun typeName => typeName ≠ "" ∧ (needed.resolve typeName).isNone)

def job (task : ServiceTask) (settings : Settings) (needed : SignatureTypes) : RenderJob where
  package := settings.package
  file := task.root.name
  service := task.service
  directories := InputDirectories.ofMethods task.service.methods task.root.dependencies
  types := needed

/-- The renderer is only asked when every type of the service is known. -/
def run (renderer : Renderer) (settings : Settings) (needed : SignatureTypes) (task : ServiceTask) : TaskResult :=
  match task.unresolved needed with
  | [] =>
    match renderer (task.job settings needed) with
    | .content text => .produced ⟨task.destination settings, text⟩
    | .refused message => .failed message
    | .broken kind text => .broken kind text
  | names => .failed (Refusal.unresolvedTypes task.root.name task.service.name names).message

def brokenMessage (task : ServiceTask) (kind text : String) : String :=
  task.root.name ++ ": " ++ task.service.name ++ ": " ++ kind ++ ": " ++ text

def record (outcome : Outcome) : ServiceTask × TaskResult → Outcome
  | (_, .produced file) => outcome.withFile file
  | (_, .failed message) => outcome.withError message
  | (task, .broken kind text) => outcome.withError (task.brokenMessage kind text)

def diagnostics (task : ServiceTask) : TaskResult → List Diagnostic
  | .produced file =>
    [⟨.debug, .generation, "generated " ++ file.name ++ " from " ++ task.root.name ++ " (" ++
      task.service.name ++ ")"⟩]
  | .failed message => [⟨.error, .generation, message⟩]
  | .broken kind text =>
    [⟨.error, .generation, "rendering " ++ task.service.name ++ " for " ++ task.root.name ++ " failed"⟩,
     ⟨.error, .generation, task.brokenMessage kind text⟩]

end ServiceTask

namespace Request

def settings (request : Request) : Settings :=
  Settings.ofParameter request.parameter

def catalog (request : Request) : Catalog :=
  Catalog.ofFiles request.files

def roots (request : Request) : List Root :=
  Root.find request.targets request.files

def rootFiles (request : Request) : List SourceFile :=
  request.roots.map (·.file)

def signatureTypes (request : Request) : SignatureTypes :=
  SignatureTypes.collect request.rootFiles request.catalog

/-- The services of the root files, in the order of the roots and then as declared. -/
def tasks (request : Request) : List ServiceTask :=
  request.rootFiles.flatMap fun root => root.services.map fun service => ⟨root, service⟩

def results (request : Request) (renderer : Renderer) : List (ServiceTask × TaskResult) :=
  let settings := request.settings
  let needed := request.signatureTypes
  request.tasks.map fun task => (task, task.run renderer settings needed)

end Request

namespace Outcome

/-- The outcome after results that arrive in this order. -/
def ofResults (results : List (ServiceTask × TaskResult)) : Outcome :=
  results.foldl ServiceTask.record {}

def summary (outcome : Outcome) (taskCount : Nat) : Diagnostic :=
  ⟨.info, .generation, "generated " ++ toString outcome.files.length ++ " file(s) for " ++
    toString taskCount ++ " service(s)" ++
    match outcome.firstError with
    | none => ""
    | some message => if message = "" then "" else "; error: " ++ message⟩

end Outcome

/-- The largest number of tasks that run side by side. -/
def workerLimit : Nat := 32

/-- What a run gives back, what it reports, and how many workers it asks for. -/
structure Run where
  response : Response
  diagnostics : List Diagnostic
  workers : Option Nat
  deriving Inhabited

/-- The run whose tasks finish in task order. -/
def Request.run (request : Request) (renderer : Renderer) : Run :=
  let results := request.results renderer
  let outcome := Outcome.ofResults results
  { response := outcome.response
    diagnostics := Settings.diagnostics request.parameter ++
      Root.diagnostics request.targets request.roots ++
      SignatureTypes.diagnostics request.rootFiles request.catalog ++
      results.flatMap (fun (task, result) => task.diagnostics result) ++
      [outcome.summary results.length]
    workers := if results.isEmpty then none else some (min results.length workerLimit) }

end DispatchGen
