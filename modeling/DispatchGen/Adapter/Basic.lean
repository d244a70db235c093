import DispatchGen.Adapter.Names
import DispatchGen.Schema
import DispatchGen.Timestamp
import DispatchGen.Catalog

/-! # Adapter modules

An adapter offers the methods of one service by name. It consists of a header, the import lines, the
table of method names, and a class that dispatches on a name in two places: one makes an empty
request, the other calls the stub. This module holds the parts that differ from service to service.
-/
namespace DispatchGen

/-- How adapter code names a message class: a bound module, and a path inside it. -/
structure Reference where
  boundModule : String
  typePath : String
  deriving Repr, DecidableEq, Inhabited

namespace Reference

def rootModule : String := "pb"

def rootStubModule : String := "pb_grpc"

/-- A type of the root file is found in its own module, any other in the module of its file. -/
def ofEntry (rootFile : String) (entry : TypeEntry) : Reference where
  boundModule := if entry.fileName = rootFile then rootModule else InterfaceFile.boundName entry.fileName
  typePath := entry.relativeName

def code (reference : Reference) : String :=
  reference.boundModule ++ "." ++ reference.typePath

end Reference

structure ImportLine where
  source : ModuleName
  boundTo : String
  deriving Repr, DecidableEq

namespace ImportLine

def messages (file boundTo : String) : ImportLine :=
  ⟨InterfaceFile.moduleName file InterfaceFile.messagesEnding, boundTo⟩

def stubs (file boundTo : String) : ImportLine :=
  ⟨InterfaceFile.moduleName file InterfaceFile.stubsEnding, boundTo⟩

def dependency (file : String) : ImportLine :=
  messages file (InterfaceFile.boundName file)

end ImportLine

structure Branch where
  method : Method
  reference : Reference
  deriving Repr, DecidableEq, Inhabited

structure Adapter where
  package : String
  file : String
  service : String
  timestamp : Timestamp
  importedFiles : List String
  branches : List Branch

namespace Adapter

/-- The two imports for the root file, then one for each other file. -/
def imports (adapter : Adapter) : List ImportLine :=
  ImportLine.messages adapter.file Reference.rootModule ::
    ImportLine.stubs adapter.file Reference.rootStubModule ::
    adapter.importedFiles.map ImportLine.dependency

end Adapter
end DispatchGen
