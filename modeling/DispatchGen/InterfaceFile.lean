import DispatchGen.Path

/-! # Interface files by name

The name of an interface file gives its directory, and the package, the module and the bound name
under which generated code imports what is generated beside it.
-/
namespace DispatchGen

/-- A module of generated message classes or stubs, and the package that holds it. -/
structure ModuleName where
  package : String
  name : String
  deriving Repr, DecidableEq

namespace InterfaceFile
open Text

def ending : List Char := ".proto".toList

/-- The last component of a file name without the ending of interface files. -/
def stem (file : String) : String :=
  String.ofList (dropEnding ending (Path.base file.toList))

/-- The directory that a file is imported from; a dot stands for the top. -/
def directory (file : String) : String :=
  match Path.directory file.toList with
  | [] => "."
  | directory => String.ofList directory

/-- The components of a directory that count in a dotted package name. -/
def packageParts (directory : String) : List (List Char) :=
  (split '/' directory.toList).filter fun part => part ≠ [] ∧ part ≠ ['.']

def dottedPackage (directory : String) : String :=
  String.ofList (join ['.'] (packageParts directory))

def messagesEnding : String := "_pb2"

def stubsEnding : String := "_pb2_grpc"

/-- The module generated beside an interface file; hyphens become underscores in its own name. -/
def moduleName (file : String) (ending : String) : ModuleName :=
  ⟨dottedPackage (directory file),
    String.ofList (replaceChar '-' ['_'] (stem file).toList) ++ ending⟩

/-- The name a file's message module is bound to: underscores are doubled first, then a slash
becomes `_dot_` and a hyphen an underscore. -/
def boundName (file : String) : String :=
  String.ofList (replaceChar '-' ['_'] (replaceChar '/' "_dot_".toList
    (replaceChar '_' ['_', '_'] (dropEnding ending file.toList)))) ++ "__pb2"

end InterfaceFile
end DispatchGen
