import DispatchGen.CommandLine.Run
import DispatchGen.Exchange
import Std.Time.Zoned

/-! # The two programs

One executable serves as the compiler plugin and as the generator command; the name it is started
under decides. Everything but input, output and the clock happens in the library.
-/
namespace DispatchGen

/-- The name under which the executable is the plugin. -/
def pluginName : String := Adapter.generatorName

def currentTime : IO Timestamp := do
  let now ← Std.Time.Timestamp.now
  let wall := Std.Time.WallTime.ofTimestamp now Std.Time.TimeZone.UTC.offset
  let t := Std.Time.PlainDateTime.ofWallTime wall
  return { year := t.date.year.toInt.toNat, month := t.date.month.val.toNat,
           day := t.date.day.val.toNat, hour := t.time.hour.val.toNat,
           minute := t.time.minute.val.toNat, second := t.time.second.val.toNat }

def environmentLevel : IO (Option String) :=
  IO.getEnv Verbosity.levelVariable

def fail (message : String) : IO UInt32 := do
  IO.eprintln message
  return 1

/-- What is said of input with a text that cannot be decoded. -/
def undecodable : String := "a text of the input is no UTF-8"

def runPlugin : IO UInt32 := do
  let input ← (← IO.getStdin).readBinToEnd
  match Exchange.run (← environmentLevel) (← currentTime) input.data.toList with
  | none => fail undecodable
  | some exit =>
    let output ← IO.getStdout
    output.write ⟨exit.output.toArray⟩
    output.flush
    IO.eprint exit.errors
    return exit.code.toUInt32

/-- Writes files in order, with the directories that lead to them. -/
def writeFiles (writes : List (FilePath × String)) : IO Unit :=
  for (path, content) in writes do
    IO.FS.createDirAll path.parent.text
    IO.FS.writeFile path.text content

/-- Writes what is planned, and then tells what has come of it. -/
def carryOut (level : Level) (plan : DeliveryPlan) : IO UInt32 := do
  IO.eprint (Verbosity.lines level plan.diagnostics)
  writeFiles plan.writes
  let ending := CommandLine.conclude plan.conclusion ""
  IO.print ending.output
  IO.eprint ending.errors
  return ending.code.toUInt32

def runOrder (command : CommandLine.Command) : IO UInt32 := do
  let level := Verbosity.chosenLevel command.verbose (← environmentLevel)
  match command.output with
  | none => fail DeliveryError.noDirectory.message
  | some output =>
    let bytes ← IO.FS.readBinFile (FilePath.ofString command.source).text
    match Delivery.filesOfBytes bytes.data.toList with
    | .error error => fail error.message
    | .ok none => fail undecodable
    | .ok (some files) =>
      match command.plan output (← currentTime) files with
      | .error error => fail error.message
      | .ok plan => carryOut level plan

def runCommand (words : List String) : IO UInt32 := do
  match CommandLine.read words with
  | .error error =>
    IO.eprint (CommandLine.usageError error)
    return 2
  | .ok none =>
    IO.print CommandLine.help
    return 0
  | .ok (some command) => runOrder command

end DispatchGen

def main (words : List String) : IO UInt32 := do
  if (← IO.appPath).fileName = some DispatchGen.pluginName then DispatchGen.runPlugin
  else DispatchGen.runCommand words
