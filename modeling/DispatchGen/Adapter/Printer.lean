import DispatchGen.Adapter.Basic

/-! # Text of adapter modules

The lines of an adapter in order. Nothing is escaped. Building an adapter refuses only the names of a
service and its methods; the names of files and messages stand in the text as they are given.
-/
namespace DispatchGen

def ImportLine.text (line : ImportLine) : String :=
  let what := "import " ++ line.source.name ++ " as " ++ line.boundTo
  if line.source.package = "" then what else "from " ++ line.source.package ++ " " ++ what

namespace Branch

def testLine (branch : Branch) : String :=
  "        if name == \"" ++ branch.method.name ++ "\":"

def inputLines (branch : Branch) : List String :=
  [branch.testLine, "            return " ++ branch.reference.code ++ "()"]

/-- A single request must be of the method's input type. -/
def checkLines (branch : Branch) : List String :=
  if branch.method.clientStreaming then []
  else
    ["            if not isinstance(request, " ++ branch.reference.code ++ "):",
     "                raise TypeError(f\"" ++ branch.method.name ++ " expects " ++
        branch.reference.typePath ++ ", got \x7btype(request).__name__\x7d\")"]

def receiver (branch : Branch) : String :=
  if branch.method.serverStreaming then "_StreamReceiver" else "_OnceReceiver"

def callLines (branch : Branch) : List String :=
  branch.testLine :: branch.checkLines ++
    ["            return " ++ branch.receiver ++ "(self._stub." ++ branch.method.name ++
        "(request, **options))"]

end Branch

namespace Adapter

def generatorName : String := "protoc-gen-grpcer"

/-- The header: origin and time as comments, then the description of the module. -/
def headerLines (adapter : Adapter) : List String :=
  ["# Generated with " ++ generatorName,
   "#\tfrom \"" ++ adapter.file ++ "\"",
   "#\tat   " ++ adapter.timestamp.text,
   "#",
   "# DO NOT EDIT!",
   "\"\"\"Name-dispatched client for the " ++ adapter.service ++ " service.",
   "",
   "Destination package: " ++ adapter.package,
   "\"\"\""]

def importLines (adapter : Adapter) : List String :=
  ["from __future__ import annotations",
   "",
   "from typing import Any, Optional, Sequence",
   "",
   "import grpc",
   "",
   "from grpcer.client import Client, Receiver, UnknownMethodError",
   ""] ++ adapter.imports.map ImportLine.text

def tableLines (adapter : Adapter) : List String :=
  "_METHODS = (" :: adapter.branches.map (fun branch => "    \"" ++ branch.method.name ++ "\",") ++ [")"]

def receiverLines : List String :=
  ["class _OnceReceiver(Receiver):",
   "    def __init__(self, out: Any) -> None:",
   "        self._out = out",
   "        self._done = False",
   "",
   "    def recv(self) -> Any:",
   "        if self._done:",
   "            raise EOFError",
   "        out = self._out",
   "        self._done, self._out = True, None",
   "        return out",
   "",
   "",
   "class _StreamReceiver(Receiver):",
   "    def __init__(self, responses: Any) -> None:",
   "        self._responses = iter(responses)",
   "",
   "    def recv(self) -> Any:",
   "        try:",
   "            return next(self._responses)",
   "        except StopIteration:",
   "            raise EOFError from None"]

def openingLines (adapter : Adapter) : List String :=
  ["class " ++ className adapter.service ++ "(Client):",
   "    def __init__(self, channel: grpc.Channel) -> None:",
   "        self._stub = " ++ Reference.rootStubModule ++ "." ++ adapter.service ++ "Stub(channel)",
   "",
   "    def methods(self) -> Sequence[str]:",
   "        return _METHODS",
   ""]

def inputLines (adapter : Adapter) : List String :=
  "    def input(self, name: str) -> Optional[Any]:" :: adapter.branches.flatMap Branch.inputLines ++
    ["        return None"]

def callLines (adapter : Adapter) : List String :=
  "    def call(self, name: str, request: Any, **options: Any) -> Receiver:" ::
    adapter.branches.flatMap Branch.callLines ++ ["        raise UnknownMethodError(name)"]

def classLines (adapter : Adapter) : List String :=
  adapter.openingLines ++ adapter.inputLines ++ [""] ++ adapter.callLines

def closingLines (adapter : Adapter) : List String :=
  ["def new_client(channel: grpc.Channel) -> Client:",
   "    return " ++ className adapter.service ++ "(channel)",
   ""]

def lines (adapter : Adapter) : List String :=
  adapter.headerLines ++ [""] ++ adapter.importLines ++ [""] ++ adapter.tableLines ++ ["", ""] ++
    receiverLines ++ ["", ""] ++ adapter.classLines ++ ["", ""] ++ adapter.closingLines

/-- The module text; the last line ends with a line feed. -/
def text (adapter : Adapter) : String :=
  "\n".intercalate adapter.lines

end Adapter
end DispatchGen
