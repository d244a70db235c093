import DispatchGen.Proofs.RequestFields

/-! # Reading responses

A response is read with the layout of responses, as the compiler reads it. An error that is given counts
as one however short it is, and the files keep their order.
-/
namespace DispatchGen
open Wire

namespace Wire

/-- The last number of a field, zero where there is none. -/
def numberAt (key : Nat) (items : List (Item String)) : Nat :=
  ((numbersAt key items).getLast?).getD 0

def outputFileOfItems (items : List (Item String)) : OutputFile where
  name := textAt 1 items
  content := textAt 15 items

def responseOfItems (items : List (Item String)) : Response where
  files := (messagesAt 15 items).map outputFileOfItems
  error := (textsAt 1 items).getLast?
  supportedFeatures := numberAt 2 items

def readResponse : Bytes → Except Damage (Option Response) :=
  readAs .response responseOfItems

end Wire

def OutputFile.written (file : OutputFile) : List Field :=
  [.text 1 file.name, .text 15 file.content]

def Response.written (response : Response) : List Field :=
  response.error.toList.map (.text 1) ++ .number 2 response.supportedFeatures ::
    response.files.map fun file => .message 15 file.written

namespace Wire
variable {items others : List (Item String)} {texts : List String} {α : Type} {rows : List α}
variable {row : α → List (Item String)} {wanted key number value : Nat}

theorem Field.writeAll_append (fields others : List Field) :
    Field.writeAll (fields ++ others) = Field.writeAll fields ++ Field.writeAll others := by
  induction fields with
  | nil => rfl
  | cons field rest ih => rw [List.cons_append, Field.writeAll, Field.writeAll, ih, List.append_assoc]

theorem Field.writeAll_map (written : α → Field) (rows : List α) :
    Field.writeAll (rows.map written) = rows.flatMap fun row => (written row).write := by
  induction rows with
  | nil => rfl
  | cons row rest ih => rw [List.map_cons, Field.writeAll, ih, List.flatMap_cons]

@[simp] theorem textsAt_cons_number :
    textsAt wanted (Item.number number value :: items) = textsAt wanted items := rfl

@[simp] theorem messagesAt_cons_number :
    messagesAt wanted (Item.number number value :: items) = messagesAt wanted items := rfl

@[simp] theorem numbersAt_append :
    numbersAt wanted (items ++ others) = numbersAt wanted items ++ numbersAt wanted others :=
  List.filterMap_append

@[simp] theorem numbersAt_cons_number : numbersAt wanted (Item.number number value :: items) =
    if number = wanted then value :: numbersAt wanted items else numbersAt wanted items := by
  split
  · next h => simp [numbersAt, h]
  · next h => simp [numbersAt, h]

@[simp] theorem numbersAt_texts : numbersAt wanted (texts.map (Item.text key)) = [] := by
  simp [numbersAt, List.filterMap_map]

@[simp] theorem numbersAt_messages : numbersAt wanted (rows.map fun r => Item.message key (row r)) = [] := by
  simp [numbersAt, List.filterMap_map]

/-- A number that stands alone among texts and messages is the one that is read. -/
theorem numberAt_between : numberAt number (texts.map (Item.text key) ++ Item.number number value ::
    rows.map fun r => Item.message wanted (row r)) = value := by
  simp [numberAt]

end Wire

/-- The writer of responses writes these fields. -/
theorem Response.writeResponse_eq (response : Response) :
    writeResponse response = Field.writeAll response.written := by
  have hfile : ∀ file : OutputFile, Field.writeAll file.written = writeOutputFile file := by
    intro file
    simp [OutputFile.written, Field.write, Field.writeAll, writeOutputFile]
  have herror : Field.writeAll (response.error.toList.map (Field.text 1)) =
      (response.error.map (writeText 1)).getD [] := by
    cases response.error with
    | none => rfl
    | some message => simp [Field.writeAll, Field.write]
  rw [Response.written, Field.writeAll_append, herror, Field.writeAll, Field.writeAll_map, writeResponse]
  simp only [Field.write, hfile, List.append_assoc]

theorem OutputFile.ofItems_written (file : OutputFile) :
    outputFileOfItems (Field.items .outputFile file.written) = file := rfl

theorem Response.ofItems_written (response : Response) :
    responseOfItems (Field.items .response response.written) = response := by
  have hitems : Field.items .response response.written = response.error.toList.map (Item.text 1) ++
      Item.number 2 response.supportedFeatures ::
        response.files.map fun file => Item.message 15 (Field.items .outputFile file.written) := by
    rw [Response.written, Field.items_append, Field.items, Field.items_texts, Field.items_messages rfl]
    rfl
  have herror : response.error.toList.getLast? = response.error := by
    cases response.error <;> rfl
  rw [responseOfItems, hitems, numberAt_between]
  simp [herror, Function.comp_def, OutputFile.ofItems_written]

theorem OutputFile.suits_written (file : OutputFile) : ∀ field ∈ file.written, Field.Suits .outputFile field := by
  rw [OutputFile.written, List.forall_mem_cons, List.forall_mem_singleton]
  exact ⟨.text (by decide) rfl, .text (by decide) rfl⟩

theorem Response.suits_written {response : Response} (h : response.supportedFeatures < 0x10000000000000000) :
    ∀ field ∈ response.written, Field.Suits .response field := by
  rw [Response.written, List.forall_mem_append, List.forall_mem_cons]
  exact ⟨Field.suits_texts (by decide) rfl _, .number (by decide) h,
    Field.suits_messages (by decide) rfl fun file _ => file.suits_written⟩

theorem Wire.Field.nestingOf_le {fields : List Field} {bound : Nat} (h : ∀ field ∈ fields, field.nesting ≤ bound) :
    Field.nestingOf fields ≤ bound := by
  induction fields with
  | nil => exact Nat.zero_le _
  | cons field rest ih =>
    rw [List.forall_mem_cons] at h
    exact Nat.max_le.mpr ⟨h.1, ih h.2⟩

/-- A file in a response holds no message. -/
theorem Response.nestingOf_written (response : Response) : Field.nestingOf response.written ≤ 1 := by
  apply Field.nestingOf_le
  rw [Response.written, List.forall_mem_append, List.forall_mem_cons, List.forall_mem_map, List.forall_mem_map]
  exact ⟨fun _ _ => Nat.zero_le _, Nat.zero_le _, fun _ _ => Nat.le_refl 1⟩

/-- A written response is read again: whether there is an error, and which, the features, and all files in
their order. -/
theorem Response.readResponse_writeResponse {response : Response}
    (hfeatures : response.supportedFeatures < 0x10000000000000000)
    (hlength : (writeResponse response).length < 0x80000000) :
    readResponse (writeResponse response) = .ok (some response) := by
  have hdepth : Field.nestingOf response.written ≤ messageDepth :=
    Nat.le_trans response.nestingOf_written (by decide)
  rw [writeResponse_eq] at hlength ⊢
  rw [readResponse, Field.readAs_writeAll responseOfItems (suits_written hfeatures) hlength, if_pos hdepth,
    response.ofItems_written]

end DispatchGen
