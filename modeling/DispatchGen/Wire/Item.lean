import DispatchGen.Wire.Layout
import DispatchGen.Wire.Record

/-! # Items of a message

What a message holds according to its layout. Every inner message with a layout is read along with
the outer one, so damage anywhere is found, and found in the order of the bytes. A field whose payload
does not suit its type is passed over like an unknown one. Reading leaves texts as the bytes they are
written in; only then are they decoded, all of them or none.
-/
namespace DispatchGen.Wire

inductive Damage where
  | corrupt
  | tooDeep
  deriving Repr, DecidableEq

/-- The known content of a field, with texts of the given type. -/
inductive Item (τ : Type) where
  | number (field : Nat) (value : Nat)
  | text (field : Nat) (value : τ)
  | message (field : Nat) (items : List (Item τ))
  deriving Repr, Inhabited

abbrev Reader := Kind → Bytes → Except Damage (List (Item Bytes))

/-- Numbers that follow each other to the end of the bytes. -/
def isPacked (bytes : Bytes) : Bool :=
  match bytes with
  | [] => true
  | b :: tail =>
    match _h : readVarint 10 (b :: tail) with
    | some (_, rest) => isPacked rest
    | none => false
  termination_by bytes.length
  decreasing_by exact readVarint_length _h

/-- The item of a record, if its field is known; `inner` reads the messages inside. -/
def Record.item (inner : Reader) (kind : Kind) (record : Record) : Except Damage (Option (Item Bytes)) :=
  match kind.fieldType? record.number, record.payload with
  | some .number, .varint value => .ok (some (.number record.number value))
  | some .packedNumbers, .bytes content => if isPacked content then .ok none else .error .corrupt
  | some .text, .bytes content => .ok (some (.text record.number content))
  | some (.message innerKind), .bytes content =>
    (inner innerKind content).map fun items => some (.message record.number items)
  | _, _ => .ok none

def itemsOf (inner : Reader) (kind : Kind) : List Record → Except Damage (List (Item Bytes))
  | [] => .ok []
  | record :: rest => do
    let item ← record.item inner kind
    let items ← itemsOf inner kind rest
    return item.toList ++ items

/-- The items of a message that may hold `depth` levels inside. Damage inside a record counts before
damage behind it. -/
def readMessage (depth : Nat) (inner : Reader) : Reader := fun kind bytes => do
  let (records, damaged) := readRecords depth bytes
  let items ← itemsOf inner kind records
  if damaged then .error .corrupt else .ok items

/-- The items of a message by the levels that may stand inside; every inner message takes one up. -/
def readItems : Nat → Reader
  | 0 => readMessage 0 fun _ _ => .error .tooDeep
  | depth + 1 => readMessage (depth + 1) (readItems depth)

/-- How many levels of messages and groups may stand inside the outermost message. -/
def messageDepth : Nat := 100

/-! ## Texts -/

def textOfBytes? (bytes : Bytes) : Option String :=
  String.fromUTF8? ⟨bytes.toArray⟩

mutual

def Item.decode? : Item Bytes → Option (Item String)
  | .number field value => some (.number field value)
  | .text field bytes => (textOfBytes? bytes).map (.text field)
  | .message field items => (decodeAll? items).map (.message field)

def decodeAll? : List (Item Bytes) → Option (List (Item String))
  | [] => some []
  | item :: rest =>
    match item.decode?, decodeAll? rest with
    | some item, some rest => some (item :: rest)
    | _, _ => none

end

/-- What bytes hold as a message of the kind; none where a text is no UTF-8. -/
def readAs {α : Type} (kind : Kind) (ofItems : List (Item String) → α) (bytes : Bytes) :
    Except Damage (Option α) :=
  (readItems messageDepth kind bytes).map fun items => (decodeAll? items).map ofItems

/-! ## Items by field number -/

def textsAt (field : Nat) (items : List (Item String)) : List String :=
  items.filterMap fun
    | .text n value => if n = field then some value else none
    | _ => none

/-- The last text of a field, empty where there is none. -/
def textAt (field : Nat) (items : List (Item String)) : String :=
  ((textsAt field items).getLast?).getD ""

def numbersAt (field : Nat) (items : List (Item String)) : List Nat :=
  items.filterMap fun
    | .number n value => if n = field then some value else none
    | _ => none

def flagAt (field : Nat) (items : List (Item String)) : Bool :=
  ((numbersAt field items).getLast?).any (· ≠ 0)

def messagesAt (field : Nat) (items : List (Item String)) : List (List (Item String)) :=
  items.filterMap fun
    | .message n inner => if n = field then some inner else none
    | _ => none

end DispatchGen.Wire
