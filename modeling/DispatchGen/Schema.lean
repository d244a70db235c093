/-! # Descriptions of interface files

What a generation request says about the files of an interface: their messages, at any nesting
depth, and their services with the methods' signatures.
-/
namespace DispatchGen

structure Message where
  name : String := ""
  fields : List String := []
  nested : List Message := []
  deriving Repr, Inhabited

/-- One method of a service; `input` and `output` are type names as references write them. -/
structure Method where
  name : String := ""
  input : String := ""
  output : String := ""
  clientStreaming : Bool := false
  serverStreaming : Bool := false
  deriving Repr, DecidableEq, Inhabited

structure Service where
  name : String := ""
  methods : List Method := []
  deriving Repr, DecidableEq, Inhabited

/-- One interface file; `dependencies` are the names of the files it declares to use. -/
structure SourceFile where
  name : String := ""
  package : String := ""
  dependencies : List String := []
  messages : List Message := []
  services : List Service := []
  deriving Repr, Inhabited

/-- What a run is asked for: the files to generate, the settings text, and the known files. -/
structure Request where
  targets : List String := []
  parameter : String := ""
  files : List SourceFile := []
  deriving Repr, Inhabited

end DispatchGen
