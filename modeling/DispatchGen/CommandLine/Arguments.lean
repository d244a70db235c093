import DispatchGen.CommandLine.Option

/-! # Reading a command line

Words are taken from left to right. Each option takes its value from its own word or from the next
plain one; the first plain word that no option takes is the set of files to read. What cannot be used
is collected and refused at the end, after arguments that are required and missing.
-/
namespace DispatchGen.CommandLine

/-- What an option was given. Two hyphens behind an equals sign stand for no value. -/
abbrev Given := Option String

structure Arguments where
  source : Option String := none
  targets : List Given := []
  output : Option Given := none
  package : Given := none
  path : Given := none
  verbose : Bool := false
  unused : List String := []
  deriving Repr, DecidableEq, Inhabited

inductive Action where
  | switch (switch : Switch)
  | set (setting : Setting) (given : Given)
  deriving Repr, DecidableEq

/-- What a command line comes to: a call for help, or values. -/
inductive Reading where
  | help
  | arguments (values : Arguments)
  deriving Repr, DecidableEq

namespace Arguments

def perform (values : Arguments) : Action → Reading
  | .switch .help => .help
  | .switch .verbose => .arguments { values with verbose := true }
  | .set .proto given => .arguments { values with targets := values.targets ++ [given] }
  | .set .out given => .arguments { values with output := some given }
  | .set .package given => .arguments { values with package := given }
  | .set .path given => .arguments { values with path := given }

/-- Carries actions out in order; a call for help ends everything. -/
def performAll (values : Arguments) : List Action → Reading
  | [] => .arguments values
  | action :: rest =>
    match values.perform action with
    | .help => .help
    | .arguments values => performAll values rest

def setUnused (values : Arguments) (words : List String) : Arguments :=
  { values with unused := values.unused ++ words }

end Arguments

/-- Switches in one word: the first, then those that the text behind it spells letter by letter. -/
def readCluster (switch : Switch) : List Char → Except UsageError (List Action)
  | [] => .ok [.switch switch]
  | letter :: rest =>
    match spellings.lookup (String.ofList ['-', letter]) with
    | some (.switch next) => (readCluster next rest).map (.switch switch :: ·)
    | _ => .error (.unusedValue (.switch switch) (String.ofList (letter :: rest)))

def readAttached (flag : Flag) (short : Bool) (text : List Char) : Except UsageError (List Action) :=
  match flag with
  | .setting setting => .ok [.set setting (if text = ['-', '-'] then none else some (String.ofList text))]
  | .switch switch =>
    if short ∧ text ≠ [] then readCluster switch text
    else .error (.unusedValue flag (String.ofList text))

/-- The words behind a divider, when no option can follow. -/
def readBehind (values : Arguments) (words : List String) : Arguments :=
  match values.source, words with
  | none, source :: rest => { values with source := some source }.setUnused rest
  | _, _ => values.setUnused ("--" :: words)

def readWords (values : Arguments) : List Word → Except UsageError Reading
  | [] => .ok (.arguments values)
  | .divider behind :: _ => .ok (.arguments (readBehind values behind))
  | .plain text :: rest =>
    if values.source.isSome then readWords (values.setUnused [text]) rest
    else match rest with
      | .divider behind :: _ =>
        .ok (.arguments ({ values with source := some text }.setUnused behind))
      | _ => readWords { values with source := some text } rest
  | .unknown text :: rest => readWords (values.setUnused [text]) rest
  | .option flag short (some attached) :: rest => do
    let actions ← readAttached flag short attached
    match values.performAll actions with
    | .help => .ok .help
    | .arguments values => readWords values rest
  | .option (.switch switch) _ none :: rest =>
    match values.perform (.switch switch) with
    | .help => .ok .help
    | .arguments values => readWords values rest
  | .option (.setting setting) _ none :: rest =>
    match rest with
    | .plain text :: rest =>
      match values.perform (.set setting (some text)) with
      | .help => .ok .help
      | .arguments values => readWords values rest
    | _ => .error (.expectedValue (.setting setting))

def Arguments.missing (values : Arguments) : List String :=
  (if values.source.isNone then ["descriptor_set"] else []) ++
    (if values.output.isNone then ["--out"] else [])

structure Command where
  source : String
  output : Given
  targets : List Given := []
  package : Given := none
  path : Given := none
  verbose : Bool := false
  deriving Repr, DecidableEq, Inhabited

/-- What a command line asks for, `none` being help. -/
def read (words : List String) : Except UsageError (Option Command) := do
  let classified ← Word.classifyAll words
  match ← readWords {} classified with
  | .help => .ok none
  | .arguments values =>
    match values.source, values.output with
    | some source, some output =>
      if values.unused = [] then
        .ok (some ⟨source, output, values.targets, values.package, values.path, values.verbose⟩)
      else .error (.unrecognized values.unused)
    | _, _ => .error (.missing values.missing)

end DispatchGen.CommandLine
