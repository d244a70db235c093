import DispatchGen.Text.Split

/-! # File paths

A path is a root and a row of names. Empty names and dots are dropped when a path is read; steps up
stay, since they depend on what they are taken from.
-/
namespace DispatchGen
open Text

/-- `root` is empty, or one or two slashes. -/
structure FilePath where
  root : String := ""
  names : List String := []
  deriving Repr, DecidableEq, Inhabited

namespace FilePath

/-- Exactly two slashes at the front are a root of their own. -/
def rootOf (text : List Char) : String :=
  match (text.takeWhile (· = '/')).length with
  | 0 => ""
  | 2 => "//"
  | _ => "/"

def ofString (text : String) : FilePath where
  root := rootOf text.toList
  names := ((split '/' text.toList).filter fun name => name ≠ [] ∧ name ≠ ['.']).map String.ofList

def text (path : FilePath) : String :=
  if path.root = "" ∧ path.names = [] then "." else path.root ++ "/".intercalate path.names

/-- The second path seen from the first; one with a root stands alone. -/
def append (path other : FilePath) : FilePath :=
  if other.root = "" then { path with names := path.names ++ other.names } else other

def parent (path : FilePath) : FilePath :=
  { path with names := path.names.dropLast }

end FilePath
end DispatchGen
