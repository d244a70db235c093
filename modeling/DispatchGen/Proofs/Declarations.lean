import DispatchGen.Catalog

/-! # Declared messages

A message is declared in a file at a chain of names: the names of the messages around it, from the
outside in, and its own. The pre-order walk lists the declarations of a file, and the entries that the
file adds to a catalog are those declarations in the same order.
-/
namespace DispatchGen

/-- The message stands at the chain of names, beside the given messages or inside one of them. -/
inductive DeclaredAt : List Message → List String → Message → Prop
  | beside {messages : List Message} {message : Message} (h : message ∈ messages) :
      DeclaredAt messages [message.name] message
  | inside {messages : List Message} {outer message : Message} {chain : List String}
      (h : outer ∈ messages) (hi : DeclaredAt outer.nested chain message) :
      DeclaredAt messages (outer.name :: chain) message

abbrev Declaration := List String × Message

mutual

/-- A message before the messages inside it. -/
def Message.preorder : Message → List Declaration
  | ⟨name, fields, nested⟩ =>
    ([name], ⟨name, fields, nested⟩) ::
      (Message.preorderOf nested).map fun declaration => (name :: declaration.1, declaration.2)

def Message.preorderOf : List Message → List Declaration
  | [] => []
  | message :: rest => message.preorder ++ Message.preorderOf rest

end

namespace SourceFile
variable (file : SourceFile)

def declarations : List Declaration := Message.preorderOf file.messages

/-- A dot, then the package, if there is one, and the names of the chain joined by dots. -/
def nameOf (declaration : Declaration) : String :=
  "." ++ ".".intercalate (if file.package = "" then declaration.1 else file.package :: declaration.1)

def entryOf (declaration : Declaration) : TypeEntry :=
  ⟨file.nameOf declaration, file.name, file.package, declaration.2⟩

/-- Some message of the file, at any depth, has the qualified name. -/
def Declares (name : String) : Prop :=
  ∃ chain message, DeclaredAt file.messages chain message ∧ file.nameOf (chain, message) = name

end SourceFile

theorem DeclaredAt.mono {messages more : List Message} {chain : List String} {message : Message}
    (h : DeclaredAt messages chain message) (hm : messages ⊆ more) : DeclaredAt more chain message := by
  cases h with
  | beside h => exact .beside (hm h)
  | inside h hi => exact .inside (hm h) hi

theorem Message.preorderOf_eq_flatMap (messages : List Message) :
    Message.preorderOf messages = messages.flatMap Message.preorder := by
  induction messages with
  | nil => rfl
  | cons message rest ih => rw [Message.preorderOf, ih, List.flatMap_cons]

theorem Message.mem_preorder {outer message : Message} {chain : List String} :
    (chain, message) ∈ outer.preorder ↔ (chain = [outer.name] ∧ message = outer) ∨
      ∃ rest, chain = outer.name :: rest ∧ (rest, message) ∈ Message.preorderOf outer.nested := by
  obtain ⟨name, fields, nested⟩ := outer
  simp only [Message.preorder, List.mem_cons, List.mem_map, Prod.mk.injEq, Prod.exists]
  constructor
  · rintro (h | ⟨rest, inner, hmem, rfl, rfl⟩)
    · exact Or.inl h
    · exact Or.inr ⟨rest, rfl, hmem⟩
  · rintro (h | ⟨rest, rfl, hmem⟩)
    · exact Or.inl h
    · exact Or.inr ⟨rest, message, hmem, rfl, rfl⟩

mutual

theorem Message.declaredAt_of_mem_preorder (outer : Message) {chain : List String} {message : Message}
    (h : (chain, message) ∈ outer.preorder) : DeclaredAt [outer] chain message := by
  match outer with
  | ⟨name, fields, nested⟩ =>
    rcases Message.mem_preorder.mp h with ⟨rfl, rfl⟩ | ⟨rest, rfl, hmem⟩
    · exact .beside (List.mem_singleton_self _)
    · exact .inside (List.mem_singleton_self _) (Message.declaredAt_of_mem_preorderOf nested hmem)

theorem Message.declaredAt_of_mem_preorderOf (messages : List Message) {chain : List String}
    {message : Message} (h : (chain, message) ∈ Message.preorderOf messages) :
    DeclaredAt messages chain message := by
  match messages with
  | [] => simp [Message.preorderOf] at h
  | first :: rest =>
    rcases List.mem_append.mp h with h | h
    · exact (Message.declaredAt_of_mem_preorder first h).mono (by simp)
    · exact (Message.declaredAt_of_mem_preorderOf rest h).mono (by simp)

end

/-- The walk meets exactly the messages that are declared. -/
theorem Message.mem_preorderOf {messages : List Message} {chain : List String} {message : Message} :
    (chain, message) ∈ Message.preorderOf messages ↔ DeclaredAt messages chain message := by
  refine ⟨Message.declaredAt_of_mem_preorderOf messages, fun h => ?_⟩
  induction h with
  | beside h =>
    rw [Message.preorderOf_eq_flatMap]
    exact List.mem_flatMap.mpr ⟨_, h, Message.mem_preorder.mpr (Or.inl ⟨rfl, rfl⟩)⟩
  | inside h _ ih =>
    rw [Message.preorderOf_eq_flatMap]
    exact List.mem_flatMap.mpr ⟨_, h, Message.mem_preorder.mpr (Or.inr ⟨_, rfl, ih⟩)⟩

mutual

theorem Message.entries_eq (file : SourceFile) (parents : List String) (message : Message) :
    message.entries file parents =
      message.preorder.map fun d => file.entryOf (parents ++ d.1, d.2) := by
  match message with
  | ⟨name, fields, nested⟩ =>
    rw [Message.entries, Message.preorder, Message.entriesOf_eq file (parents ++ [name]) nested]
    simp [SourceFile.entryOf, SourceFile.nameOf, absoluteName]

theorem Message.entriesOf_eq (file : SourceFile) (parents : List String) (messages : List Message) :
    Message.entriesOf file parents messages =
      (Message.preorderOf messages).map fun d => file.entryOf (parents ++ d.1, d.2) := by
  match messages with
  | [] => rfl
  | first :: rest =>
    rw [Message.entriesOf, Message.preorderOf, Message.entries_eq file parents first,
      Message.entriesOf_eq file parents rest, List.map_append]

end

/-- The walk that fills a catalog carries the chain along; it enters the declarations in order. -/
theorem SourceFile.entries_eq (file : SourceFile) :
    file.entries = file.declarations.map file.entryOf := by
  rw [SourceFile.entries, Message.entriesOf_eq]
  simp [SourceFile.declarations]

namespace SourceFile
variable {file : SourceFile} {name : String}

theorem declares_iff : file.Declares name ↔ ∃ d ∈ file.declarations, file.nameOf d = name := by
  constructor
  · rintro ⟨chain, message, h, rfl⟩
    exact ⟨(chain, message), Message.mem_preorderOf.mpr h, rfl⟩
  · rintro ⟨⟨chain, message⟩, h, rfl⟩
    exact ⟨chain, message, Message.mem_preorderOf.mp h, rfl⟩

instance : DecidablePred file.Declares := fun _ => decidable_of_iff _ declares_iff.symm

end SourceFile
end DispatchGen
