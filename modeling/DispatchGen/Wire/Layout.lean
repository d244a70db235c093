/-! # Layouts of the messages in a request and a response

For every kind of message that a request or a response can hold, the fields that are read and those
that have to be sound. All other fields are passed over like unknown ones.
-/
namespace DispatchGen.Wire

inductive Kind where
  | request | fileSet | version | file | message | extensionRange | extensionRangeOptions
  | declaration | reservedRange | messageOptions | field | fieldOptions | editionDefault
  | featureSupport | oneof | oneofOptions | enumeration | enumValue | enumValueOptions | enumOptions
  | enumReservedRange | service | serviceOptions | method | methodOptions | fileOptions
  | sourceCodeInfo | location | features | uninterpretedOption | namePart
  | response | outputFile | generatedCodeInfo | annotation
  deriving Repr, DecidableEq

/-- What a field holds. The numbers of a repeated field may come in one packed payload. -/
inductive FieldType where
  | text
  | number
  | packedNumbers
  | message (kind : Kind)
  deriving Repr, DecidableEq

namespace Kind

def fields : Kind → List (Nat × FieldType)
  | request => [(1, .text), (2, .text), (3, .message version), (15, .message file), (17, .message file)]
  | fileSet => [(1, .message file)]
  | version => []
  | file => [(1, .text), (2, .text), (3, .text), (4, .message message), (5, .message enumeration),
      (6, .message service), (7, .message field), (8, .message fileOptions),
      (9, .message sourceCodeInfo), (10, .packedNumbers), (11, .packedNumbers)]
  | message => [(1, .text), (2, .message field), (3, .message message), (4, .message enumeration),
      (5, .message extensionRange), (6, .message field), (7, .message messageOptions),
      (8, .message oneof), (9, .message reservedRange)]
  | extensionRange => [(3, .message extensionRangeOptions)]
  | extensionRangeOptions => [(2, .message declaration), (50, .message features),
      (999, .message uninterpretedOption)]
  | declaration => []
  | reservedRange => []
  | messageOptions => [(12, .message features), (999, .message uninterpretedOption)]
  | field => [(1, .text), (8, .message fieldOptions)]
  | fieldOptions => [(19, .packedNumbers), (20, .message editionDefault), (21, .message features),
      (22, .message featureSupport), (999, .message uninterpretedOption)]
  | editionDefault => []
  | featureSupport => []
  | oneof => [(2, .message oneofOptions)]
  | oneofOptions => [(1, .message features), (999, .message uninterpretedOption)]
  | enumeration => [(2, .message enumValue), (3, .message enumOptions), (4, .message enumReservedRange)]
  | enumValue => [(3, .message enumValueOptions)]
  | enumValueOptions => [(2, .message features), (4, .message featureSupport),
      (999, .message uninterpretedOption)]
  | enumOptions => [(7, .message features), (999, .message uninterpretedOption)]
  | enumReservedRange => []
  | service => [(1, .text), (2, .message method), (3, .message serviceOptions)]
  | serviceOptions => [(34, .message features), (999, .message uninterpretedOption)]
  | method => [(1, .text), (2, .text), (3, .text), (4, .message methodOptions), (5, .number),
      (6, .number)]
  | methodOptions => [(35, .message features), (999, .message uninterpretedOption)]
  | fileOptions => [(50, .message features), (999, .message uninterpretedOption)]
  | sourceCodeInfo => [(1, .message location)]
  | location => [(1, .packedNumbers), (2, .packedNumbers)]
  | features => []
  | uninterpretedOption => [(2, .message namePart)]
  | namePart => []
  | response => [(1, .text), (2, .number), (15, .message outputFile)]
  | outputFile => [(1, .text), (2, .text), (15, .text), (16, .message generatedCodeInfo)]
  | generatedCodeInfo => [(1, .message annotation)]
  | annotation => [(1, .packedNumbers)]

def fieldType? (kind : Kind) (number : Nat) : Option FieldType :=
  kind.fields.lookup number

end Kind
end DispatchGen.Wire
