import DispatchGen.InterfaceFile
import DispatchGen.Text.SnakeCase

/-! # Names of adapters

The class of an adapter, and the path its module is put at.
-/
namespace DispatchGen.Adapter
open Text

def className (service : String) : String :=
  service ++ "Client"

def fileEnding : List Char := "_grpcer.py".toList

/-- The file name of an adapter; the service is named when its file declares more than one. -/
def fileName (file : String) (service : Option String) : List Char :=
  let suffix := match service with
    | none => []
    | some name => if name = "" then [] else '_' :: (snakeCase name).toList
  (InterfaceFile.stem file).toList ++ suffix ++ fileEnding

/-- The path of an adapter below `root`, in normal form. -/
def destination (root file : String) (service : Option String) : String :=
  let root := if root = "" then ['.'] else root.toList
  String.ofList (Path.normal (Path.append root (fileName file service)))

end DispatchGen.Adapter
