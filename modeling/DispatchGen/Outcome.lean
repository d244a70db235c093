/-! # Outcome of a run

Tasks add files and failures to one outcome. Files are kept in the order they arrive; of the failures
only the first is kept, and an empty message counts as a failure like any other.
-/
namespace DispatchGen

structure OutputFile where
  name : String
  content : String
  deriving Repr, DecidableEq, Inhabited

structure Outcome where
  files : List OutputFile := []
  firstError : Option String := none
  deriving Repr, DecidableEq, Inhabited

structure Response where
  files : List OutputFile
  error : Option String
  supportedFeatures : Nat
  deriving Repr, DecidableEq, Inhabited

namespace Outcome

def withFile (outcome : Outcome) (file : OutputFile) : Outcome :=
  { outcome with files := outcome.files ++ [file] }

/-- An error is recorded while there is none. -/
def acceptsError (outcome : Outcome) : Bool :=
  outcome.firstError.isNone

def withError (outcome : Outcome) (message : String) : Outcome :=
  { outcome with firstError := outcome.firstError.or (some message) }

/-- The feature bit for fields with explicit presence. -/
def optionalFields : Nat := 1

def response (outcome : Outcome) : Response :=
  ⟨outcome.files, outcome.firstError, optionalFields⟩

end Outcome
end DispatchGen
