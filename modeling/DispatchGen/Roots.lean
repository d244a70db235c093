import DispatchGen.Diagnostics
import DispatchGen.Schema
import DispatchGen.Text.Sorted

/-! # Root files

The files a request asks for. The known files are searched from the last to the first, so of several
files with one name the last is taken, and the search ends when no requested name is left.
-/
namespace DispatchGen
open Text

structure Root where
  file : SourceFile
  position : Nat
  deriving Inhabited

namespace Root

/-- Takes the first file of each wanted name, and stops when every name has its file. -/
def pick (wanted : List String) : List Root → List Root
  | [] => []
  | root :: rest =>
    if wanted = [] then []
    else if root.file.name ∈ wanted then root :: pick (wanted.erase root.file.name) rest
    else pick wanted rest

def fromLast (files : List SourceFile) : List Root :=
  (files.zipIdx.map fun (file, position) => ⟨file, position⟩).reverse

/-- The requested files, those that stand later among the known files first. -/
def find (requested : List String) (files : List SourceFile) : List Root :=
  pick requested.eraseDups (fromLast files)

def absent (requested : List String) (roots : List Root) : List String :=
  sortedDistinct (requested.filter fun name => !roots.any (·.file.name = name))

def diagnostics (requested : List String) (roots : List Root) : List Diagnostic :=
  match absent requested roots with
  | [] => []
  | names => [⟨.warning, .catalog, "requested file(s) not present in request: " ++ ", ".intercalate names⟩]

end Root
end DispatchGen
