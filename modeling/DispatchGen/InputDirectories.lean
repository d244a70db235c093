import DispatchGen.InterfaceFile
import DispatchGen.Schema
import DispatchGen.Text.Sorted

/-! # Directories a service draws on

A declared dependency counts for a service when the last component of its directory is the leading
package of some input type. Output types do not count, since adapters name input types only.
-/
namespace DispatchGen.InputDirectories
open Text

def leadingPackage? (typeName : String) : Option String :=
  match typeName.toList with
  | '.' :: rest => some (String.ofList (rest.takeWhile (· ≠ '.')))
  | _ => none

def leadingPackages (methods : List Method) : List String :=
  sortedDistinct (methods.filterMap fun method => leadingPackage? method.input)

/-- The directories of the dependencies that count, in the order of declaration. -/
def ofMethods (methods : List Method) (dependencies : List String) : List String :=
  (dependencies.map InterfaceFile.directory).filter fun directory =>
    (leadingPackages methods).contains (String.ofList (Path.base directory.toList))

end DispatchGen.InputDirectories
