import DispatchGen.Diagnostics
import DispatchGen.Text.Quoted
import DispatchGen.Text.Sorted
import DispatchGen.Text.Split

/-! # Settings text

A settings text is a list of `key=value` entries with commas between them. Entries without an equals
sign set nothing, and of two entries with one key the later one holds.
-/
namespace DispatchGen
open Text

/-- The destination package written into adapters, and the directory they are put in. -/
structure Settings where
  package : String := "main"
  path : String := "."
  deriving Repr, DecidableEq, Inhabited

namespace Settings

def entries (parameter : String) : List (String × String) :=
  (split ',' parameter.toList).filterMap fun entry =>
    (splitFirst? '=' entry).map fun (key, value) => (String.ofList key, String.ofList value)

def valueOf? (key : String) (entries : List (String × String)) : Option String :=
  (entries.reverse.find? (·.1 = key)).map (·.2)

def ofEntries (entries : List (String × String)) : Settings where
  package := (valueOf? "package" entries).getD "main"
  path := (valueOf? "path" entries).getD "."

def ofParameter (parameter : String) : Settings :=
  ofEntries (entries parameter)

def unknownKeys (parameter : String) : List String :=
  sortedDistinct (((entries parameter).map (·.1)).filter fun key => key ≠ "package" ∧ key ≠ "path")

def diagnostics (parameter : String) : List Diagnostic :=
  let settings := ofParameter parameter
  let unknown := unknownKeys parameter
  (if unknown = [] then []
    else [⟨.debug, .settings, "ignoring unknown parameter(s): " ++ ", ".intercalate unknown⟩]) ++
  [⟨.debug, .settings, "parameter=" ++ quoted parameter ++ " => package=" ++
    quoted settings.package ++ " path=" ++ quoted settings.path⟩]

end Settings
end DispatchGen
