/-! # Diagnostic rows

What a run reports beside its result: a severity, the part of the generator that speaks, and a text.
-/
namespace DispatchGen

/-- Severities, from the value that stands for no choice up. -/
inductive Level where
  | notset | debug | info | warning | error | critical
  deriving Repr, DecidableEq, Inhabited

namespace Level

def name : Level → String
  | notset => "NOTSET"
  | debug => "DEBUG"
  | info => "INFO"
  | warning => "WARNING"
  | error => "ERROR"
  | critical => "CRITICAL"

def weight : Level → Nat
  | notset => 0
  | debug => 10
  | info => 20
  | warning => 30
  | error => 40
  | critical => 50

end Level

inductive Component where
  | settings | catalog | generation
  deriving Repr, DecidableEq, Inhabited

def Component.channel : Component → String
  | settings => "grpcer.config"
  | catalog => "grpcer.descriptor_index"
  | generation => "grpcer.plugin"

structure Diagnostic where
  level : Level
  component : Component
  message : String
  deriving Repr, DecidableEq, Inhabited

end DispatchGen
