import Std.Data.TreeMap
import DispatchGen.Schema

/-! # Catalog of message types

Every message of every file, at any nesting depth, under its qualified name. Files are entered from
the last to the first and a later entry replaces an earlier one, so a name that several files declare
belongs to the first of them, and a name declared twice in one file to its last declaration.
-/
namespace DispatchGen

/-- The name type references use: a dot, then the package and the message names joined by dots. -/
def absoluteName (package : String) (names : List String) : String :=
  "." ++ ".".intercalate (if package = "" then names else package :: names)

structure TypeEntry where
  fullName : String
  fileName : String
  package : String := ""
  message : Message := {}
  deriving Inhabited

namespace TypeEntry

/-- What a qualified name of the entry's package opens with. -/
def opening (entry : TypeEntry) : List Char :=
  if entry.package = "" then ['.'] else '.' :: entry.package.toList ++ ['.']

/-- The name inside the package; a name from elsewhere only loses its leading dots. -/
def relativeName (entry : TypeEntry) : String :=
  let name := entry.fullName.toList
  String.ofList (if entry.opening.isPrefixOf name then name.drop entry.opening.length
    else name.dropWhile (· = '.'))

end TypeEntry

mutual

/-- The message under its chain of names, then the messages declared inside it. -/
def Message.entries (file : SourceFile) (parents : List String) : Message → List TypeEntry
  | ⟨name, fields, nested⟩ =>
    ⟨absoluteName file.package (parents ++ [name]), file.name, file.package, ⟨name, fields, nested⟩⟩ ::
      Message.entriesOf file (parents ++ [name]) nested

def Message.entriesOf (file : SourceFile) (parents : List String) : List Message → List TypeEntry
  | [] => []
  | message :: rest => message.entries file parents ++ Message.entriesOf file parents rest

end

/-- Every message of the file, an outer one before those inside it. -/
def SourceFile.entries (file : SourceFile) : List TypeEntry :=
  Message.entriesOf file [] file.messages

structure Catalog where
  entries : Std.TreeMap String TypeEntry

namespace Catalog

def empty : Catalog := ⟨∅⟩

/-- Enters a type under its full name, in place of any other. -/
def insert (catalog : Catalog) (entry : TypeEntry) : Catalog :=
  ⟨catalog.entries.insert entry.fullName entry⟩

def ofFiles (files : List SourceFile) : Catalog :=
  (files.reverse.flatMap SourceFile.entries).foldl insert empty

def resolve (catalog : Catalog) (fullName : String) : Option TypeEntry :=
  catalog.entries[fullName]?

def size (catalog : Catalog) : Nat :=
  catalog.entries.size

def toList (catalog : Catalog) : List TypeEntry :=
  catalog.entries.toList.map (·.2)

def summary (catalog : Catalog) : String :=
  "TypeIndex(" ++ toString catalog.size ++ " types)"

@[simp] theorem resolve_empty (fullName : String) : empty.resolve fullName = none := by
  simp [empty, resolve]

theorem resolve_insert (catalog : Catalog) (entry : TypeEntry) (fullName : String) :
    (catalog.insert entry).resolve fullName =
      if entry.fullName = fullName then some entry else catalog.resolve fullName := by
  simp [insert, resolve, Std.TreeMap.getElem?_insert]

end Catalog
end DispatchGen
