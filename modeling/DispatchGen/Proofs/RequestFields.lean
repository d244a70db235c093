import DispatchGen.Proofs.Fields
import DispatchGen.Wire.Reading

/-! # Requests as they are written

Every request can be written, with a field for everything that it says, and what the layout knows of
these fields is the request again. Other rows of fields may stand for it as well: fields that are empty
can be left out, and fields that are not read can be added.
-/
namespace DispatchGen
open Wire

namespace Wire
variable {kind inner : Kind} {key : Nat}

/-! ## Items of rows -/

theorem Field.items_append (fields others : List Field) :
    Field.items kind (fields ++ others) = Field.items kind fields ++ Field.items kind others := by
  induction fields with
  | nil => rfl
  | cons field rest ih => rw [List.cons_append, Field.items, Field.items, ih, List.append_assoc]

theorem Field.items_texts (texts : List String) :
    Field.items kind (texts.map (Field.text key)) = texts.map (Item.text key) := by
  induction texts with
  | nil => rfl
  | cons text rest ih =>
    rw [List.map_cons, List.map_cons, Field.items, ih]
    rfl

theorem Field.items_messages {α : Type} (ht : kind.fieldType? key = some (.message inner))
    (written : α → List Field) (rows : List α) :
    Field.items kind (rows.map fun row => Field.message key (written row)) =
      rows.map fun row => Item.message key (Field.items inner (written row)) := by
  induction rows with
  | nil => rfl
  | cons row rest ih =>
    rw [List.map_cons, List.map_cons, Field.items, ih, Field.item?, ht]
    rfl

/-! ## Texts and messages of rows of items -/

section Rows
variable {items others : List (Item String)} {texts : List String} {text : String}
variable {α : Type} {rows : List α} {row : α → List (Item String)} {wanted key : Nat}

@[simp] theorem textsAt_nil : textsAt wanted [] = [] := rfl

@[simp] theorem messagesAt_nil : messagesAt wanted [] = [] := rfl

@[simp] theorem declarationsAt_nil : declarationsAt wanted [] = [] := rfl

@[simp] theorem textsAt_append :
    textsAt wanted (items ++ others) = textsAt wanted items ++ textsAt wanted others :=
  List.filterMap_append

@[simp] theorem textsAt_cons_text : textsAt wanted (Item.text key text :: items) =
    if key = wanted then text :: textsAt wanted items else textsAt wanted items := by
  split <;> simp_all [textsAt]

@[simp] theorem textsAt_texts :
    textsAt wanted (texts.map (Item.text key)) = if key = wanted then texts else [] := by
  split
  · next h =>
    rw [textsAt, List.filterMap_map]
    exact (congrArg (List.filterMap · texts) (funext fun _ => if_pos h)).trans List.filterMap_some
  · next h => simp [textsAt, List.filterMap_map, h]

@[simp] theorem textsAt_messages : textsAt wanted (rows.map fun r => Item.message key (row r)) = [] := by
  simp [textsAt, List.filterMap_map]

@[simp] theorem messagesAt_append :
    messagesAt wanted (items ++ others) = messagesAt wanted items ++ messagesAt wanted others :=
  List.filterMap_append

@[simp] theorem messagesAt_cons_text :
    messagesAt wanted (Item.text key text :: items) = messagesAt wanted items := rfl

@[simp] theorem messagesAt_texts : messagesAt wanted (texts.map (Item.text key)) = [] := by
  simp [messagesAt, List.filterMap_map]

@[simp] theorem messagesAt_messages : messagesAt wanted (rows.map fun r => Item.message key (row r)) =
    if key = wanted then rows.map row else [] := by
  split
  · next h =>
    rw [messagesAt, List.filterMap_map, ← List.filterMap_eq_map]
    exact congrArg (List.filterMap · rows) (funext fun _ => if_pos h)
  · next h => simp [messagesAt, List.filterMap_map, h]

@[simp] theorem declarationsAt_append :
    declarationsAt wanted (items ++ others) = declarationsAt wanted items ++ declarationsAt wanted others := by
  induction items with
  | nil => rfl
  | cons item rest ih => rw [List.cons_append, declarationsAt, declarationsAt, ih, List.append_assoc]

@[simp] theorem declarationsAt_cons_text :
    declarationsAt wanted (Item.text key text :: items) = declarationsAt wanted items := rfl

@[simp] theorem declarationsAt_texts : declarationsAt wanted (texts.map (Item.text key)) = [] := by
  induction texts with
  | nil => rfl
  | cons text rest ih => rw [List.map_cons, declarationsAt_cons_text, ih]

theorem declarationsAt_messages (h : key ≠ wanted) :
    declarationsAt wanted (rows.map fun r => Item.message key (row r)) = [] := by
  induction rows with
  | nil => rfl
  | cons r rest ih =>
    rw [List.map_cons, declarationsAt, ih, Item.declaration?, if_neg h]
    rfl

end Rows

end Wire

def Method.written (method : Method) : List Field :=
  [.text 1 method.name, .text 2 method.input, .text 3 method.output,
   .number 5 method.clientStreaming.toNat, .number 6 method.serverStreaming.toNat]

def Service.written (service : Service) : List Field :=
  .text 1 service.name :: service.methods.map fun method => .message 2 method.written

mutual

def Message.written : Message → List Field
  | ⟨name, fields, nested⟩ =>
    .text 1 name :: (fields.map fun field => .message 2 [.text 1 field]) ++ Message.writtenOf 3 nested

/-- Message declarations as fields of one number. -/
def Message.writtenOf (key : Nat) : List Message → List Field
  | [] => []
  | message :: rest => .message key message.written :: Message.writtenOf key rest

end

def SourceFile.written (file : SourceFile) : List Field :=
  .text 1 file.name :: .text 2 file.package :: file.dependencies.map (.text 3) ++
    Message.writtenOf 4 file.messages ++ file.services.map fun service => .message 6 service.written

def Request.written (request : Request) : List Field :=
  request.targets.map (.text 1) ++ .text 2 request.parameter ::
    request.files.map fun file => .message 15 file.written

theorem Method.ofItems_written (method : Method) :
    methodOfItems (Field.items .method method.written) = method := by
  obtain ⟨name, input, output, clientStreaming, serverStreaming⟩ := method
  cases clientStreaming <;> cases serverStreaming <;> rfl

theorem Service.items_written (service : Service) : Field.items .service service.written =
    [Item.text 1 service.name] ++
      service.methods.map fun method => Item.message 2 (Field.items .method method.written) := by
  rw [Service.written, Field.items, Field.items_messages rfl]
  rfl

theorem Service.ofItems_written (service : Service) :
    serviceOfItems (Field.items .service service.written) = service := by
  rw [serviceOfItems, items_written]
  simp [textAt, Function.comp_def, Method.ofItems_written]

theorem Message.items_written (name : String) (fields : List String) (nested : List Message) :
    Field.items .message (Message.written ⟨name, fields, nested⟩) =
      [Item.text 1 name] ++ (fields.map fun field => Item.message 2 [Item.text 1 field]) ++
        Field.items .message (Message.writtenOf 3 nested) := by
  rw [Message.written, Field.items_append, Field.items, Field.items_messages rfl]
  rfl

theorem Message.writtenOf_eq_map (key : Nat) (messages : List Message) :
    Message.writtenOf key messages = messages.map fun message => Field.message key message.written := by
  induction messages with
  | nil => rfl
  | cons message rest ih => rw [Message.writtenOf, ih, List.map_cons]

theorem Message.items_writtenOf {kind : Kind} {key : Nat} (ht : kind.fieldType? key = some (.message .message))
    (messages : List Message) : Field.items kind (Message.writtenOf key messages) =
      messages.map fun message => Item.message key (Field.items .message message.written) := by
  rw [Message.writtenOf_eq_map, Field.items_messages ht]

mutual

theorem Message.declaration?_written (message : Message) (key : Nat) :
    (Item.message key (Field.items .message message.written)).declaration? key = some message := by
  match message with
  | ⟨name, fields, nested⟩ =>
    have hnested : declarationsAt 3 (Field.items .message (Message.writtenOf 3 nested)) = nested :=
      Message.declarationsAt_writtenOf nested rfl
    rw [Item.declaration?, if_pos rfl, Message.items_written, declarationsAt_append, declarationsAt_append,
      hnested, Message.items_writtenOf rfl]
    simp [textAt, declarationsAt_messages, Function.comp_def]

theorem Message.declarationsAt_writtenOf (messages : List Message) {kind : Kind} {key : Nat}
    (ht : kind.fieldType? key = some (.message .message)) :
    declarationsAt key (Field.items kind (Message.writtenOf key messages)) = messages := by
  match messages with
  | [] => rfl
  | message :: rest =>
    have hmessage := Message.declaration?_written message key
    have hrest := Message.declarationsAt_writtenOf rest ht
    have hitem : (Field.message key message.written).item? kind =
        some (Item.message key (Field.items .message message.written)) := by
      rw [Field.item?, ht]
    rw [Message.writtenOf, Field.items, hitem, declarationsAt_append, hrest]
    exact congrArg (fun found => found.toList ++ [] ++ rest) hmessage

end

theorem SourceFile.ofItems_written (file : SourceFile) :
    fileOfItems (Field.items .file file.written) = file := by
  have hmessages : declarationsAt 4 (Field.items .file (Message.writtenOf 4 file.messages)) = file.messages :=
    Message.declarationsAt_writtenOf file.messages rfl
  have hitems : Field.items .file file.written = [Item.text 1 file.name, Item.text 2 file.package] ++
      file.dependencies.map (Item.text 3) ++ Field.items .file (Message.writtenOf 4 file.messages) ++
        file.services.map fun service => Item.message 6 (Field.items .service service.written) := by
    rw [SourceFile.written, Field.items_append, Field.items_append, Field.items, Field.items, Field.items_texts,
      Field.items_messages rfl]
    rfl
  have hrow : Field.items .file (Message.writtenOf 4 file.messages) =
      file.messages.map fun message => Item.message 4 (Field.items .message message.written) :=
    Message.items_writtenOf rfl file.messages
  rw [fileOfItems, hitems]
  simp only [declarationsAt_append, hmessages]
  simp [hrow, textAt, declarationsAt_messages, Function.comp_def, Service.ofItems_written]

/-- What the layout knows of a row of fields, as a request. -/
def requestOf (fields : List Field) : Request := requestOfItems (Field.items .request fields)

theorem Request.requestOf_written (request : Request) : requestOf request.written = request := by
  have hitems : Field.items .request request.written = request.targets.map (Item.text 1) ++
      Item.text 2 request.parameter ::
        request.files.map fun file => Item.message 15 (Field.items .file file.written) := by
    rw [Request.written, Field.items_append, Field.items, Field.items_texts, Field.items_messages rfl]
    rfl
  rw [requestOf, requestOfItems, hitems]
  simp [textAt, Function.comp_def, SourceFile.ofItems_written]

/-! ## Fields that suit their messages -/

namespace Wire
variable {kind inner : Kind} {key : Nat}

theorem Field.suits_texts (hk : IsKey key) (ht : kind.fieldType? key = some .text) (texts : List String) :
    ∀ field ∈ texts.map (Field.text key), Suits kind field := by
  intro field hfield
  obtain ⟨text, _, rfl⟩ := List.mem_map.mp hfield
  exact .text hk ht

theorem Field.suits_messages {α : Type} {rows : List α} {written : α → List Field} (hk : IsKey key)
    (ht : kind.fieldType? key = some (.message inner)) (h : ∀ row ∈ rows, ∀ field ∈ written row, Suits inner field) :
    ∀ field ∈ rows.map (fun row => Field.message key (written row)), Suits kind field := by
  intro field hfield
  obtain ⟨row, hrow, rfl⟩ := List.mem_map.mp hfield
  exact .message hk ht (h row hrow)

end Wire

theorem Method.suits_written (method : Method) : ∀ field ∈ method.written, Field.Suits .method field := by
  have hflag : ∀ flag : Bool, flag.toNat < 0x10000000000000000 := by decide
  intro field hfield
  simp only [Method.written, List.mem_cons, List.not_mem_nil, or_false] at hfield
  rcases hfield with rfl | rfl | rfl | rfl | rfl
  · exact .text (by decide) rfl
  · exact .text (by decide) rfl
  · exact .text (by decide) rfl
  · exact .number (by decide) (hflag _)
  · exact .number (by decide) (hflag _)

theorem Service.suits_written (service : Service) : ∀ field ∈ service.written, Field.Suits .service field := by
  rw [Service.written, List.forall_mem_cons]
  exact ⟨.text (by decide) rfl, Field.suits_messages (by decide) rfl fun method _ => method.suits_written⟩

mutual

theorem Message.suits_written (message : Message) : ∀ field ∈ message.written, Field.Suits .message field := by
  match message with
  | ⟨name, fields, nested⟩ =>
    rw [Message.written, List.forall_mem_append, List.forall_mem_cons]
    refine ⟨⟨.text (by decide) rfl, Field.suits_messages (by decide) rfl fun field _ => ?_⟩,
      Message.suits_writtenOf nested (by decide) rfl⟩
    rw [List.forall_mem_singleton]
    exact .text (by decide) rfl

theorem Message.suits_writtenOf (messages : List Message) {kind : Kind} {key : Nat} (hk : Field.IsKey key)
    (ht : kind.fieldType? key = some (.message .message)) :
    ∀ field ∈ Message.writtenOf key messages, Field.Suits kind field := by
  match messages with
  | [] =>
    rw [Message.writtenOf]
    exact fun field hfield => nomatch hfield
  | message :: rest =>
    rw [Message.writtenOf, List.forall_mem_cons]
    exact ⟨.message hk ht (Message.suits_written message), Message.suits_writtenOf rest hk ht⟩

end

theorem SourceFile.suits_written (file : SourceFile) : ∀ field ∈ file.written, Field.Suits .file field := by
  rw [SourceFile.written, List.forall_mem_append, List.forall_mem_append, List.forall_mem_cons,
    List.forall_mem_cons]
  refine ⟨⟨⟨.text (by decide) rfl, .text (by decide) rfl, Field.suits_texts (by decide) rfl _⟩,
    Message.suits_writtenOf file.messages (by decide) rfl⟩, ?_⟩
  exact Field.suits_messages (by decide) rfl fun service _ => service.suits_written

theorem Request.suits_written (request : Request) : ∀ field ∈ request.written, Field.Suits .request field := by
  rw [Request.written, List.forall_mem_append, List.forall_mem_cons]
  exact ⟨Field.suits_texts (by decide) rfl _, .text (by decide) rfl,
    Field.suits_messages (by decide) rfl fun file _ => file.suits_written⟩

/-! ## Reading requests -/

/-- The fields may stand in a request, and what they say is the request. -/
structure Request.WrittenAs (request : Request) (fields : List Field) : Prop where
  suits : ∀ field ∈ fields, Field.Suits .request field
  request_eq : requestOfItems (Field.items .request fields) = request

theorem Request.writtenAs_written (request : Request) : request.WrittenAs request.written :=
  ⟨request.suits_written, request.requestOf_written⟩

/-- A written request is read again unless its messages stand too deep in each other. -/
theorem Request.WrittenAs.readRequest_eq {request : Request} {fields : List Field}
    (h : request.WrittenAs fields) (hlength : (Field.writeAll fields).length < 0x80000000) :
    readRequest (Field.writeAll fields) =
      if Field.nestingOf fields ≤ messageDepth then .ok (some request) else .error .tooDeep := by
  rw [readRequest, Field.readAs_writeAll requestOfItems h.suits hlength, h.request_eq]

/-! ## Reading sets of files -/

/-- The fields of a set of files. -/
def SourceFile.writtenSet (files : List SourceFile) : List Field :=
  files.map fun file => .message 1 file.written

theorem readFileSet_writeAll {files : List SourceFile}
    (hdepth : Field.nestingOf (SourceFile.writtenSet files) ≤ messageDepth)
    (hlength : (Field.writeAll (SourceFile.writtenSet files)).length < 0x80000000) :
    readFileSet (Field.writeAll (SourceFile.writtenSet files)) = .ok (some files) := by
  have hsuits : ∀ field ∈ SourceFile.writtenSet files, Field.Suits .fileSet field :=
    Field.suits_messages (by decide) rfl fun file _ => file.suits_written
  have hfiles : setOfItems (Field.items .fileSet (SourceFile.writtenSet files)) = files := by
    rw [setOfItems, SourceFile.writtenSet, Field.items_messages rfl]
    simp [Function.comp_def, SourceFile.ofItems_written]
  rw [readFileSet, Field.readAs_writeAll setOfItems hsuits hlength, if_pos hdepth, hfiles]

end DispatchGen
