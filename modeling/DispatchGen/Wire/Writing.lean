import DispatchGen.Outcome
import DispatchGen.Wire.Varint

/-! # Writing responses

A response is written in the order of its field numbers: the error where there is one, the supported
features, then the files.
-/
namespace DispatchGen.Wire

def utf8 (text : String) : Bytes :=
  text.toUTF8.data.toList

def writeDelimited (field : Nat) (content : Bytes) : Bytes :=
  writeVarint (field * 8 + 2) ++ writeVarint content.length ++ content

def writeText (field : Nat) (text : String) : Bytes :=
  writeDelimited field (utf8 text)

def writeNumber (field value : Nat) : Bytes :=
  writeVarint (field * 8) ++ writeVarint value

def writeOutputFile (file : OutputFile) : Bytes :=
  writeText 1 file.name ++ writeText 15 file.content

def writeResponse (response : Response) : Bytes :=
  (response.error.map (writeText 1)).getD [] ++ writeNumber 2 response.supportedFeatures ++
    response.files.flatMap fun file => writeDelimited 15 (writeOutputFile file)

end DispatchGen.Wire
