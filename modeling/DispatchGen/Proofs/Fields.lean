import DispatchGen.Wire.Item
import DispatchGen.Wire.Writing
import Mathlib.Algebra.Group.Nat.Defs

/-! # Fields as they are written

A message is written as a row of fields, and a field may hold a message of its own. What reading makes of
the bytes is what the layout knows of the fields, and the only thing that reading can stumble over is
their nesting.
-/
namespace DispatchGen.Wire

/-- A field by its number and what it holds. Bytes without a reading and numbers of a fixed width are
only passed over. -/
inductive Field where
  | number (key value : Nat)
  | fixed (key : Nat) (content : Bytes)
  | bytes (key : Nat) (content : Bytes)
  | text (key : Nat) (value : String)
  | message (key : Nat) (fields : List Field)

namespace Field

mutual

def write : Field → Bytes
  | .number key value => writeNumber key value
  | .fixed key content => writeVarint (key * 8 + if content.length = 8 then 1 else 5) ++ content
  | .bytes key content => writeDelimited key content
  | .text key value => writeText key value
  | .message key fields => writeDelimited key (writeAll fields)

def writeAll : List Field → Bytes
  | [] => []
  | field :: rest => field.write ++ writeAll rest

end

mutual

def item? (kind : Kind) : Field → Option (Item String)
  | .number key value => if kind.fieldType? key = some .number then some (.number key value) else none
  | .fixed _ _ => none
  | .bytes _ _ => none
  | .text key value => some (.text key value)
  | .message key fields =>
    match kind.fieldType? key with
    | some (.message inner) => some (.message key (items inner fields))
    | _ => none

def items (kind : Kind) : List Field → List (Item String)
  | [] => []
  | field :: rest => (field.item? kind).toList ++ items kind rest

end

mutual

/-- How many messages stand around each other in the field. -/
def nesting : Field → Nat
  | .number _ _ => 0
  | .fixed _ _ => 0
  | .bytes _ _ => 0
  | .text _ _ => 0
  | .message _ fields => nestingOf fields + 1

def nestingOf : List Field → Nat
  | [] => 0
  | field :: rest => max field.nesting (nestingOf rest)

end

/-- Field numbers have 29 bits and are not zero. -/
def IsKey (key : Nat) : Prop := 0 < key ∧ key < 0x20000000

instance : DecidablePred IsKey := fun key => inferInstanceAs (Decidable (0 < key ∧ key < 0x20000000))

/-- The field may stand in a message of the kind: what has a length in front is what the layout says. -/
inductive Suits : Kind → Field → Prop
  | number {kind : Kind} {key value : Nat} (hk : IsKey key) (hv : value < 0x10000000000000000) :
      Suits kind (.number key value)
  | fixed {kind : Kind} {key : Nat} {content : Bytes} (hk : IsKey key)
      (hc : content.length = 4 ∨ content.length = 8) : Suits kind (.fixed key content)
  | bytes {kind : Kind} {key : Nat} {content : Bytes} (hk : IsKey key)
      (ht : kind.fieldType? key = none ∨ kind.fieldType? key = some .packedNumbers ∧ isPacked content) :
      Suits kind (.bytes key content)
  | text {kind : Kind} {key : Nat} {value : String} (hk : IsKey key)
      (ht : kind.fieldType? key = some .text) : Suits kind (.text key value)
  | message {kind inner : Kind} {key : Nat} {fields : List Field} (hk : IsKey key)
      (ht : kind.fieldType? key = some (.message inner)) (hi : ∀ field ∈ fields, Suits inner field) :
      Suits kind (.message key fields)

def record : Field → Record
  | .number key value => ⟨key, .varint value⟩
  | .fixed key _ => ⟨key, .fixed⟩
  | .bytes key content => ⟨key, .bytes content⟩
  | .text key value => ⟨key, .bytes (utf8 value)⟩
  | .message key fields => ⟨key, .bytes (writeAll fields)⟩

end Field

/-! ## Texts in bytes -/

theorem textOfBytes?_utf8 (text : String) : textOfBytes? (utf8 text) = some text := by
  have hbytes : (⟨(utf8 text).toArray⟩ : ByteArray) = text.toByteArray := by
    rw [utf8, Array.toArray_toList, String.toUTF8]
  rw [textOfBytes?, hbytes, String.fromUTF8?, dif_pos text.isValidUTF8]
  rfl

mutual

def Item.encode : Item String → Item Bytes
  | .number key value => .number key value
  | .text key value => .text key (utf8 value)
  | .message key items => .message key (encodeAll items)

def encodeAll : List (Item String) → List (Item Bytes)
  | [] => []
  | item :: rest => item.encode :: encodeAll rest

end

theorem encodeAll_append (items others : List (Item String)) :
    encodeAll (items ++ others) = encodeAll items ++ encodeAll others := by
  induction items with
  | nil => rfl
  | cons item rest ih => rw [List.cons_append, encodeAll, encodeAll, ih, List.cons_append]

mutual

theorem Item.decode?_encode (item : Item String) : item.encode.decode? = some item := by
  match item with
  | .number key value => rfl
  | .text key value => rw [Item.encode, Item.decode?, textOfBytes?_utf8, Option.map_some]
  | .message key items => rw [Item.encode, Item.decode?, decodeAll?_encodeAll items, Option.map_some]

theorem decodeAll?_encodeAll (items : List (Item String)) : decodeAll? (encodeAll items) = some items := by
  match items with
  | [] => rfl
  | item :: rest => rw [encodeAll, decodeAll?, Item.decode?_encode item, decodeAll?_encodeAll rest]

end

/-! ## Reading single records -/

section Records
variable {limit n depth key wireType : Nat} {bytes content rest : Bytes}

theorem readVarint_byte (h : n < 128) : readVarint (limit + 1) (UInt8.ofNat n :: rest) = some (n, rest) := by
  have hbyte : (UInt8.ofNat n).toNat = n := by
    rw [UInt8.toNat_ofNat']
    omega
  rw [readVarint, hbyte, if_pos h]

theorem readVarint_writeVarint (h : n < 128 ^ (limit + 1)) :
    readVarint (limit + 1) (writeVarint n ++ rest) = some (n, rest) := by
  induction limit generalizing n with
  | zero =>
    have hsmall : n < 128 := by simpa using h
    rw [writeVarint, if_pos hsmall, List.singleton_append, readVarint_byte hsmall]
  | succ limit ih =>
    rw [writeVarint]
    by_cases hsmall : n < 128
    · rw [if_pos hsmall, List.singleton_append, readVarint_byte hsmall]
    · have hbyte : (UInt8.ofNat (n % 128 + 128)).toNat = n % 128 + 128 := by
        rw [UInt8.toNat_ofNat']
        omega
      have hrest : n / 128 < 128 ^ (limit + 1) := by
        rw [Nat.pow_succ] at h
        exact Nat.div_lt_of_lt_mul (by omega)
      rw [if_neg hsmall, List.cons_append, readVarint, hbyte, if_neg (by omega), ih hrest]
      simp only [Option.some.injEq, Prod.mk.injEq, and_true]
      omega

theorem takeBytes_append (h : content.length = n) : takeBytes n (content ++ rest) = some (content, rest) := by
  subst h
  simp [takeBytes]

theorem readTag_write (hk : Field.IsKey key) (hw : wireType < 8) :
    readTag (writeVarint (key * 8 + wireType) ++ rest) = some (key, wireType, rest) := by
  obtain ⟨_, hkey⟩ := hk
  have htag : key * 8 + wireType < 0x100000000 := by omega
  have hnumber : (key * 8 + wireType) / 8 = key := by omega
  have htype : (key * 8 + wireType) % 8 = wireType := by omega
  rw [readTag, readVarint_writeVarint (by omega)]
  simp only [if_pos htag, hnumber, htype]

theorem readDelimited_write (h : content.length < 0x80000000) :
    readDelimited (writeVarint content.length ++ (content ++ rest)) = some (content, rest) := by
  rw [readDelimited, readVarint_writeVarint (by omega)]
  simp only [if_pos h, takeBytes_append rfl]

theorem readRecord_of_tag (htag : readTag bytes = some (key, wireType, rest)) (hk : 0 < key)
    (hw : wireType ≠ 3) : readRecord depth bytes =
      (readScalar wireType rest).map fun (payload, rest) => (⟨key, payload⟩, rest) := by
  unfold readRecord
  split
  next h => rw [htag] at h; cases h
  next h => rw [htag] at h; cases h; cases hk
  next h => rw [htag] at h; cases h; exact absurd rfl hw
  next h => rw [htag] at h; cases h; rfl

theorem readRecord_writeDelimited (hk : Field.IsKey key) (h : content.length < 0x80000000) :
    readRecord depth (writeDelimited key content ++ rest) = some (⟨key, .bytes content⟩, rest) := by
  have htag : readTag (writeDelimited key content ++ rest) =
      some (key, 2, writeVarint content.length ++ (content ++ rest)) := by
    rw [writeDelimited, List.append_assoc, List.append_assoc, readTag_write hk (by omega)]
  rw [readRecord_of_tag htag hk.1 (by omega), readScalar, readDelimited_write h]
  rfl

/-- A row of records is read one record after the other. -/
theorem readRecords_of_readRecord {record : Record} (h : readRecord depth bytes = some (record, rest)) :
    readRecords depth bytes = (record :: (readRecords depth rest).1, (readRecords depth rest).2) := by
  cases bytes with
  | nil => cases h
  | cons b tail =>
    rw [readRecords]
    split
    next hnone => rw [h] at hnone; cases hnone
    next hsome => rw [h] at hsome; cases hsome; rfl

end Records

namespace Field
variable {kind : Kind} {depth : Nat} {field : Field} {fields : List Field}

theorem length_lt_of_writeDelimited {key bound : Nat} {content : Bytes}
    (h : (writeDelimited key content).length < bound) : content.length < bound := by
  rw [writeDelimited, List.length_append] at h
  omega

theorem readRecord_write (hs : Suits kind field) (hlength : field.write.length < 0x80000000) (rest : Bytes) :
    readRecord depth (field.write ++ rest) = some (field.record, rest) := by
  cases hs with
  | @number _ key value hk hv =>
    have htag : readTag ((number key value).write ++ rest) = some (key, 0, writeVarint value ++ rest) := by
      rw [write, writeNumber, List.append_assoc]
      exact @readTag_write key 0 _ hk (by omega)
    have hvalue : value % 0x10000000000000000 = value := Nat.mod_eq_of_lt hv
    rw [readRecord_of_tag htag hk.1 (by omega), readScalar, readVarint_writeVarint (by omega)]
    simp only [Option.map_some, hvalue, record]
  | @fixed _ key content hk hc =>
    rw [write, List.append_assoc]
    rcases hc with hfour | height
    · have htag : readTag (writeVarint (key * 8 + 5) ++ (content ++ rest)) = some (key, 5, content ++ rest) :=
        readTag_write hk (by omega)
      rw [if_neg (by omega), readRecord_of_tag htag hk.1 (by omega), readScalar, takeBytes_append hfour]
      rfl
    · have htag : readTag (writeVarint (key * 8 + 1) ++ (content ++ rest)) = some (key, 1, content ++ rest) :=
        readTag_write hk (by omega)
      rw [if_pos height, readRecord_of_tag htag hk.1 (by omega), readScalar, takeBytes_append height]
      rfl
  | @bytes _ key content hk ht =>
    rw [write] at hlength ⊢
    exact readRecord_writeDelimited hk (length_lt_of_writeDelimited hlength)
  | @text _ key value hk ht =>
    rw [write, writeText] at hlength ⊢
    exact readRecord_writeDelimited hk (length_lt_of_writeDelimited hlength)
  | @message _ inner key fields hk ht hi =>
    rw [write] at hlength ⊢
    exact readRecord_writeDelimited hk (length_lt_of_writeDelimited hlength)

/-- Reading the records back takes no damage for the end of the row, and no end for damage. -/
theorem readRecords_writeAll (hs : ∀ field ∈ fields, Suits kind field)
    (hlength : (writeAll fields).length < 0x80000000) :
    readRecords depth (writeAll fields) = (fields.map record, false) := by
  induction fields with
  | nil => rw [writeAll, readRecords, List.map_nil]
  | cons field rest ih =>
    rw [writeAll, List.length_append] at hlength
    have hfield : readRecord depth (field.write ++ writeAll rest) = some (field.record, writeAll rest) :=
      readRecord_write (hs field (List.mem_cons_self ..)) (by omega) _
    have hrest := ih (fun other ho => hs other (List.mem_cons_of_mem _ ho)) (by omega)
    rw [writeAll, readRecords_of_readRecord hfield, hrest, List.map_cons]

/-- What is read inside a message: a level less may stand there. -/
def readInner : Nat → Reader
  | 0 => fun _ _ => .error .tooDeep
  | depth + 1 => readItems depth

theorem readItems_eq (depth : Nat) : readItems depth = readMessage depth (readInner depth) := by
  cases depth <;> rfl

/-- The field's item, unless more messages stand in it than may. -/
def result (depth : Nat) (kind : Kind) (field : Field) : Except Damage (Option (Item Bytes)) :=
  if field.nesting ≤ depth then .ok ((field.item? kind).map Item.encode) else .error .tooDeep

def resultOf (depth : Nat) (kind : Kind) (fields : List Field) : Except Damage (List (Item Bytes)) :=
  if nestingOf fields ≤ depth then .ok (encodeAll (items kind fields)) else .error .tooDeep

theorem encodeAll_toList (item : Option (Item String)) : encodeAll item.toList = (item.map Item.encode).toList := by
  cases item <;> rfl

theorem itemsOf_records (h : ∀ field ∈ fields, field.record.item (readInner depth) kind = result depth kind field) :
    itemsOf (readInner depth) kind (fields.map record) = resultOf depth kind fields := by
  induction fields with
  | nil => simp [itemsOf, resultOf, nestingOf, items, encodeAll]
  | cons field rest ih =>
    have hfield := h field (List.mem_cons_self ..)
    have hrest := ih fun other ho => h other (List.mem_cons_of_mem _ ho)
    rw [List.map_cons, itemsOf, hfield, hrest, result, resultOf, resultOf, nestingOf, items, encodeAll_append,
      encodeAll_toList]
    by_cases hn : field.nesting ≤ depth
    · by_cases hr : nestingOf rest ≤ depth
      · rw [if_pos hn, if_pos hr, if_pos (by omega)]
        rfl
      · rw [if_pos hn, if_neg hr, if_neg (by omega)]
        rfl
    · have hmax : ¬ max field.nesting (nestingOf rest) ≤ depth := by omega
      rw [if_neg hn, if_neg hmax]
      rfl

theorem length_write_le {field : Field} (h : field ∈ fields) : field.write.length ≤ (writeAll fields).length := by
  induction fields with
  | nil => cases h
  | cons first rest ih =>
    rw [writeAll, List.length_append]
    rcases List.mem_cons.mp h with rfl | h
    · omega
    · exact Nat.le_trans (ih h) (Nat.le_add_left _ _)

/-- What is read inside a message of the depth: the fields that were written, one level further in. -/
def ReadsInner (depth : Nat) : Prop :=
  ∀ inner fields, (∀ field ∈ fields, Suits inner field) → (writeAll fields).length < 0x80000000 →
    readInner depth inner (writeAll fields) =
      if nestingOf fields < depth then .ok (encodeAll (items inner fields)) else .error .tooDeep

/-- One case for each form of a field. Only a message inside takes up a level; there the reading of its
own fields counts. -/
theorem ReadsInner.item_record (hi : ReadsInner depth) (hs : Suits kind field)
    (hlength : field.write.length < 0x80000000) :
    field.record.item (readInner depth) kind = result depth kind field := by
  cases hs with
  | @number _ key value hk hv =>
    rw [result, nesting, if_pos (Nat.zero_le _), item?, record, Record.item]
    cases kind.fieldType? key with
    | none => rfl
    | some type => cases type <;> rfl
  | @fixed _ key content hk hc =>
    rw [result, nesting, if_pos (Nat.zero_le _), item?, record, Record.item]
    cases kind.fieldType? key with
    | none => rfl
    | some type => cases type <;> rfl
  | @bytes _ key content hk ht =>
    rw [result, nesting, if_pos (Nat.zero_le _), item?, record, Option.map_none]
    rcases ht with hnone | ⟨hpacked, hcontent⟩
    · simp only [Record.item, hnone]
    · simp only [Record.item, hpacked, if_pos hcontent]
  | @text _ key value hk ht =>
    rw [result, nesting, if_pos (Nat.zero_le _), item?, record]
    simp only [Record.item, ht, Option.map_some, Item.encode]
  | @message _ inner key fields hk ht hfields =>
    rw [write] at hlength
    have hread := hi inner fields hfields (length_lt_of_writeDelimited hlength)
    rw [result, nesting, item?, record]
    simp only [Record.item, ht, hread, Option.map_some, Item.encode]
    by_cases hn : nestingOf fields < depth
    · rw [if_pos hn, if_pos (by omega)]
      rfl
    · rw [if_neg hn, if_neg (by omega)]
      rfl

theorem ReadsInner.readItems (hi : ReadsInner depth) (hs : ∀ field ∈ fields, Suits kind field)
    (hlength : (writeAll fields).length < 0x80000000) :
    readItems depth kind (writeAll fields) = resultOf depth kind fields := by
  have hitems : itemsOf (readInner depth) kind (fields.map record) = resultOf depth kind fields :=
    itemsOf_records fun field hf =>
      hi.item_record (hs field hf) (Nat.lt_of_le_of_lt (length_write_le hf) hlength)
  rw [readItems_eq, readMessage, readRecords_writeAll hs hlength]
  simp only [hitems, resultOf]
  by_cases hn : nestingOf fields ≤ depth
  · rw [if_pos hn]
    rfl
  · rw [if_neg hn]
    rfl

theorem readsInner (depth : Nat) : ReadsInner depth := by
  induction depth with
  | zero =>
    intro inner fields _ _
    rw [readInner, if_neg (Nat.not_lt_zero _)]
  | succ depth ih =>
    intro inner fields hs hlength
    simp only [readInner, ih.readItems hs hlength, resultOf, Nat.lt_succ_iff]

/-- Bytes are read as the fields that were written, exactly as long as no more messages stand in each
other than may. -/
theorem readItems_writeAll (hs : ∀ field ∈ fields, Suits kind field)
    (hlength : (writeAll fields).length < 0x80000000) : readItems depth kind (writeAll fields) =
      if nestingOf fields ≤ depth then .ok (encodeAll (items kind fields)) else .error .tooDeep :=
  (readsInner depth).readItems hs hlength

theorem readAs_writeAll {α : Type} (ofItems : List (Item String) → α) (hs : ∀ field ∈ fields, Suits kind field)
    (hlength : (writeAll fields).length < 0x80000000) : readAs kind ofItems (writeAll fields) =
      if nestingOf fields ≤ messageDepth then .ok (some (ofItems (items kind fields))) else .error .tooDeep := by
  rw [readAs, readItems_writeAll hs hlength]
  split
  · simp only [Except.map, decodeAll?_encodeAll, Option.map_some]
  · rfl

end Field
end DispatchGen.Wire
