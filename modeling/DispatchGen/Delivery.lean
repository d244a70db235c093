import DispatchGen.FileStore
import DispatchGen.Generation
import DispatchGen.Wire.Reading
import DispatchGen.Wire.Writing

/-! # Delivery of adapters

Adapters are generated from a set of interface files and written below an output directory, in the
order of their names. Every generated file is written, also when some service has failed. What becomes
of a set with a text that is no UTF-8 is left open.
-/
namespace DispatchGen

/-- Where the set of files is, which of them are wanted, and how and where adapters are written. No
targets means all files of the set. -/
structure DeliveryOrder where
  source : FilePath
  targets : List String := []
  output : FilePath
  package : Option String := none
  path : Option String := none
  deriving Repr, Inhabited

namespace DeliveryOrder

/-- The settings text for a package and a path; empty values are left out. -/
def parameter (order : DeliveryOrder) : String :=
  let entry (key : String) (value : Option String) : List String :=
    match value with
    | none => []
    | some text => if text = "" then [] else [key ++ "=" ++ text]
  ",".intercalate (entry "package" order.package ++ entry "path" order.path)

def request (order : DeliveryOrder) (files : List SourceFile) : Request where
  targets := if order.targets = [] then files.map (·.name) else order.targets
  parameter := order.parameter
  files := files

/-- The files of a response in the order they are written, each with its path. -/
def writes (order : DeliveryOrder) (response : Response) : List (FilePath × String) :=
  (response.files.mergeSort fun a b => decide (a.name ≤ b.name)).map fun file =>
    (order.output.append (FilePath.ofString file.name), file.content)

end DeliveryOrder

/-- Why a delivery fails. A directory or a wanted file may have been named without a value. -/
inductive DeliveryError where
  | noDirectory
  | noTarget
  | file (error : FileError)
  | unreadable (damage : Wire.Damage)
  | generation (message : String) (written : List FilePath)
  deriving Repr, DecidableEq

def DeliveryError.message : DeliveryError → String
  | noDirectory => "expected str, bytes or os.PathLike object, not list"
  | noTarget => "bad argument type for built-in operation"
  | file error => error.message
  | unreadable damage => damage.message Wire.fileSetType
  | generation message _ => message

structure Delivery where
  store : FileStore
  diagnostics : List Diagnostic
  result : Except DeliveryError (List FilePath)

/-- What is to be written for an order, and what there is to tell about it. -/
structure DeliveryPlan where
  writes : List (FilePath × String)
  diagnostics : List Diagnostic
  error : Option String

def DeliveryOrder.plan (order : DeliveryOrder) (run : Run) : DeliveryPlan :=
  ⟨order.writes run.response, run.diagnostics, run.response.error⟩

namespace Delivery

def writeAll (store : FileStore) : List (FilePath × String) → FileStore × Option FileError
  | [] => (store, none)
  | (path, content) :: rest =>
    match store.deliver path (Wire.utf8 content) with
    | .ok store => writeAll store rest
    | .error error => (store, some error)

def fail (store : FileStore) (error : DeliveryError) : Delivery := ⟨store, [], .error error⟩

def filesOfBytes (bytes : Wire.Bytes) : Except DeliveryError (Option (List SourceFile)) :=
  (Wire.readFileSet bytes).mapError .unreadable

def readSet (store : FileStore) (source : FilePath) : Except DeliveryError (Option (List SourceFile)) :=
  match store.read source with
  | .error error => .error (.file error)
  | .ok bytes => filesOfBytes bytes

end Delivery

namespace DeliveryPlan

/-- A failure of the generator is raised only after all writing. -/
def conclusion (plan : DeliveryPlan) : Except DeliveryError (List FilePath) :=
  match plan.error with
  | some message => .error (.generation message (plan.writes.map (·.1)))
  | none => .ok (plan.writes.map (·.1))

def carryOut (plan : DeliveryPlan) (store : FileStore) : Delivery :=
  let (store, error) := Delivery.writeAll store plan.writes
  { store
    diagnostics := plan.diagnostics
    result := match error with
      | some error => .error (.file error)
      | none => plan.conclusion }

end DeliveryPlan

def Delivery.run (store : FileStore) (order : DeliveryOrder) (timestamp : Timestamp) : Option Delivery :=
  match readSet store order.source with
  | .error error => some (fail store error)
  | .ok none => none
  | .ok (some files) =>
    some ((order.plan ((order.request files).run (adapterRenderer timestamp))).carryOut store)

end DispatchGen
