import DispatchGen.Text.Identifier
import DispatchGen.Text.Split

/-! # Reading dispatch out of a module

A reader of what a module does with a method name: the table of names and two chains of tests, one
that makes a request and one that calls the stub. It has the lines of the text to go by and nothing
else. Of several definitions of one thing the last is read, as it is the one that holds when the
module is run.
-/
namespace DispatchGen
open Text

/-- Tests of a name, each with what is done under it, and the line that is reached when none holds. -/
structure Chain (α : Type) where
  branches : List (String × α)
  ending : String
  deriving Repr, DecidableEq

def Chain.first? {α : Type} (chain : Chain α) (name : String) : Option α :=
  chain.branches.lookup name

/-- A stub call: the class that the request is checked against, the receiver around the responses, and
the method of the stub. -/
structure StubCall where
  checked : Option String
  receiver : String
  stubMethod : String
  deriving Repr, DecidableEq

structure Dispatch where
  table : List String
  input : Chain String
  call : Chain StubCall
  deriving Repr, DecidableEq

namespace Dispatch

def linesOf (text : String) : List String :=
  (split '\n' text.toList).map String.ofList

/-- The lines behind the last line that reads `heading`. -/
def behindLast? (heading : String) (lines : List String) : Option (List String) :=
  if heading ∈ lines then some (lines.reverse.takeWhile (· ≠ heading)).reverse else none

/-- What a line has between an opening and an ending. -/
def between? (opening ending line : String) : Option String :=
  let rest := line.toList.drop opening.toList.length
  if opening.toList <+: line.toList ∧ ending.toList <:+ rest then
    some (String.ofList (rest.take (rest.length - ending.toList.length)))
  else none

/-- Literals with quotes or escapes inside are not read. -/
def isPlain (literal : String) : Bool :=
  literal.toList.all fun c => c ≠ '"' ∧ c ≠ '\\'

def testedName? (line : String) : Option String :=
  (between? "        if name == \"" "\":" line).filter isPlain

def listedName? (line : String) : Option String :=
  (between? "    \"" "\"," line).filter isPlain

def readTable : List String → Option (List String)
  | [] => none
  | line :: rest =>
    if line = ")" then some []
    else match listedName? line, readTable rest with
      | some name, some names => some (name :: names)
      | _, _ => none

/-- Indented further than a test. -/
def isInner (line : String) : Bool :=
  "            ".toList.isPrefixOf line.toList

/-- The lines under a test are its branch, and a line that tests nothing ends the chain. -/
def readChain {α : Type} (readBranch : List String → Option α) : List String → Option (Chain α)
  | [] => none
  | line :: rest =>
    match testedName? line with
    | none => some ⟨[], line⟩
    | some name =>
      match readBranch (rest.takeWhile isInner), readChain readBranch (rest.dropWhile isInner) with
      | some branch, some chain => some ⟨(name, branch) :: chain.branches, chain.ending⟩
      | _, _ => none
  termination_by lines => lines.length
  decreasing_by
    have hshort := (List.dropWhile_sublist isInner (l := rest)).length_le
    simp only [List.length_cons]
    omega

/-- A branch that makes a request, read as the class it names. -/
def readConstruction : List String → Option String
  | [line] => between? "            return " "()" line
  | _ => none

def receivers : List String := ["_OnceReceiver", "_StreamReceiver"]

/-- The receiver and the stub method of a call. -/
def readReturn (line : String) : Option (String × String) :=
  receivers.findSome? fun receiver =>
    ((between? ("            return " ++ receiver ++ "(self._stub.") "(request, **options))" line).filter
      fun name => isIdentifier name.toList).map fun name => (receiver, name)

/-- A branch that calls the stub, with a check of the request or without one. -/
def readCall : List String → Option StubCall
  | [line] => (readReturn line).map fun (receiver, name) => ⟨none, receiver, name⟩
  | [check, failure, line] =>
    if "                raise TypeError(".toList <+: failure.toList then
      match between? "            if not isinstance(request, " "):" check, readReturn line with
      | some checked, some (receiver, name) => some ⟨some checked, receiver, name⟩
      | _, _ => none
    else none
  | _ => none

def tableHeading : String := "_METHODS = ("
def inputHeading : String := "    def input(self, name: str) -> Optional[Any]:"
def callHeading : String := "    def call(self, name: str, request: Any, **options: Any) -> Receiver:"

def read? (text : String) : Option Dispatch := do
  let lines := linesOf text
  let table ← readTable (← behindLast? tableHeading lines)
  let input ← readChain readConstruction (← behindLast? inputHeading lines)
  let call ← readChain readCall (← behindLast? callHeading lines)
  return ⟨table, input, call⟩

end Dispatch
end DispatchGen
