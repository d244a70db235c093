import DispatchGen.Schema
import DispatchGen.Wire.Item

/-! # Reading requests

The interface files in a request or in a set of files. Bytes can be sound and still hold no request,
when a text in them is no UTF-8.
-/
namespace DispatchGen.Wire

mutual

/-- The message declaration an item holds, if it stands in the given field. -/
def Item.declaration? (field : Nat) : Item String → Option Message
  | .message n items =>
    if n = field then
      some ⟨textAt 1 items, (messagesAt 2 items).map (textAt 1), declarationsAt 3 items⟩
    else none
  | _ => none

def declarationsAt (field : Nat) : List (Item String) → List Message
  | [] => []
  | item :: rest => (item.declaration? field).toList ++ declarationsAt field rest

end

def methodOfItems (items : List (Item String)) : Method where
  name := textAt 1 items
  input := textAt 2 items
  output := textAt 3 items
  clientStreaming := flagAt 5 items
  serverStreaming := flagAt 6 items

def serviceOfItems (items : List (Item String)) : Service where
  name := textAt 1 items
  methods := (messagesAt 2 items).map methodOfItems

def fileOfItems (items : List (Item String)) : SourceFile where
  name := textAt 1 items
  package := textAt 2 items
  dependencies := textsAt 3 items
  messages := declarationsAt 4 items
  services := (messagesAt 6 items).map serviceOfItems

def requestOfItems (items : List (Item String)) : Request where
  targets := textsAt 1 items
  parameter := textAt 2 items
  files := (messagesAt 15 items).map fileOfItems

def setOfItems (items : List (Item String)) : List SourceFile :=
  (messagesAt 1 items).map fileOfItems

def readRequest : Bytes → Except Damage (Option Request) :=
  readAs .request requestOfItems

def readFileSet : Bytes → Except Damage (Option (List SourceFile)) :=
  readAs .fileSet setOfItems

def requestType : String := "google.protobuf.compiler.CodeGeneratorRequest"

def fileSetType : String := "google.protobuf.FileDescriptorSet"

def Damage.message (damage : Damage) (typeName : String) : String :=
  "Error parsing message with type '" ++ typeName ++ "': " ++
    match damage with
    | corrupt => "Wire format was corrupt"
    | tooDeep => "Exceeded upb_DecodeOptions_MaxDepth"

end DispatchGen.Wire
