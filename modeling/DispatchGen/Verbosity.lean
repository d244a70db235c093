import DispatchGen.Diagnostics
import DispatchGen.Text.Blank

/-! # Log output

Which severities are shown is chosen by a flag or by an environment variable, and defaults to
warnings. Diagnostics that are shown become lines of the error output.
-/
namespace DispatchGen.Verbosity
open Text

def levelVariable : String := "GRPCER_LOGGING"

def levelNames : List (String × Level) :=
  [("CRITICAL", .critical), ("FATAL", .critical), ("ERROR", .error), ("WARNING", .warning),
   ("WARN", .warning), ("INFO", .info), ("DEBUG", .debug), ("NOTSET", .notset)]

/-- The capital of a letter, as far as level names can tell: the dotless i and the long s are the
only letters outside ASCII with a capital inside. -/
def capital (c : Char) : Char :=
  if c = 'ı' then 'I' else if c = 'ſ' then 'S' else c.toUpper

/-- The level a text names, blanks around it and case left aside. -/
def namedLevel? (text : String) : Option Level :=
  levelNames.lookup (String.ofList ((trimBlanks text.toList).map capital))

/-- The chosen level: the flag asks for everything, then the environment counts. -/
def chosenLevel (verbose : Bool) (environment : Option String) : Level :=
  if verbose then .debug else ((environment.bind namedLevel?).getD .warning)

/-- The smallest weight that is shown; without a choice the level of warnings holds. -/
def threshold (level : Level) : Nat :=
  if level = .notset then Level.warning.weight else level.weight

def isShown (chosen level : Level) : Bool :=
  threshold chosen ≤ level.weight

def line (level : Level) (message : String) : String :=
  "[protoc-gen-grpcer] " ++ level.name ++ " " ++ message ++ "\n"

def output (chosen level : Level) (message : String) : String :=
  if isShown chosen level then line level message else ""

def lines (chosen : Level) (rows : List Diagnostic) : String :=
  String.join (rows.map fun row => output chosen row.level row.message)

def rootChannel : String := "grpcer"

/-- The full name of a channel: names from outside are put below the root channel. -/
def channelName : Option String → String
  | none => rootChannel
  | some name =>
    if name = rootChannel ∨ (rootChannel ++ ".").toList.isPrefixOf name.toList then name
    else rootChannel ++ "." ++ name

end DispatchGen.Verbosity
