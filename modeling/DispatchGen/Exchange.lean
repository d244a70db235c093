import DispatchGen.Generation
import DispatchGen.Verbosity
import DispatchGen.Wire.Reading
import DispatchGen.Wire.Writing

/-! # The compiler plugin

The plugin reads a request from its input and writes the response to its output. Failures of single
services travel inside the response; only bytes that are no request end the process with an error. What
becomes of a request with a text that is no UTF-8 is left open.
-/
namespace DispatchGen.Exchange

structure Exit where
  code : Nat
  output : Wire.Bytes
  errors : String
  deriving Repr, DecidableEq, Inhabited

/-- What the plugin writes once a run has ended. -/
def answer (level : Level) (run : Run) : Exit :=
  ⟨0, Wire.writeResponse run.response, Verbosity.lines level run.diagnostics⟩

def run (environment : Option String) (timestamp : Timestamp) (input : Wire.Bytes) : Option Exit :=
  let level := Verbosity.chosenLevel false environment
  match Wire.readRequest input with
  | .ok (some request) => some (answer level (request.run (adapterRenderer timestamp)))
  | .ok none => none
  | .error damage =>
    some ⟨1, [], Verbosity.output level .critical
      ("cannot parse CodeGeneratorRequest: " ++ damage.message Wire.requestType)⟩

end DispatchGen.Exchange
