import DispatchGen.Catalog
import DispatchGen.Diagnostics
import DispatchGen.Text.Sorted

/-! # Types the root files refer to

The input and output types of every method of every root file, in order of first mention, each with
what the catalog knows of it. Fields of messages are not followed.
-/
namespace DispatchGen
open Text

structure TypeUse where
  file : String
  service : String
  method : String
  typeName : String
  deriving Repr, DecidableEq, Inhabited

namespace TypeUse

def ofMethod (file service : String) (method : Method) : List TypeUse :=
  [⟨file, service, method.name, method.input⟩, ⟨file, service, method.name, method.output⟩]

/-- The uses in a file as declared, an input before the output beside it. -/
def ofFile (file : SourceFile) : List TypeUse :=
  file.services.flatMap fun service => service.methods.flatMap (ofMethod file.name service.name)

/-- The first use of each type name; an empty name is no reference. -/
def firsts (uses : List TypeUse) : List TypeUse :=
  (uses.filter (·.typeName ≠ "")).eraseDupsBy fun a b => a.typeName = b.typeName

def warning (use : TypeUse) : Diagnostic :=
  ⟨.warning, .catalog, use.file ++ ": " ++ use.service ++ "." ++ use.method ++
    " references unknown type " ++ use.typeName⟩

end TypeUse

/-- Type names with their entries; a name without an entry is a reference that leads nowhere. -/
structure SignatureTypes where
  entries : List (String × Option TypeEntry)
  deriving Inhabited

namespace SignatureTypes

def resolve (needed : SignatureTypes) (typeName : String) : Option TypeEntry :=
  (needed.entries.lookup typeName).join

def ofUses (catalog : Catalog) (uses : List TypeUse) : SignatureTypes :=
  ⟨(TypeUse.firsts uses).map fun use => (use.typeName, catalog.resolve use.typeName)⟩

def collect (roots : List SourceFile) (catalog : Catalog) : SignatureTypes :=
  ofUses catalog (roots.flatMap TypeUse.ofFile)

/-- A warning for every unknown type, at its first use. -/
def diagnostics (roots : List SourceFile) (catalog : Catalog) : List Diagnostic :=
  ((TypeUse.firsts (roots.flatMap TypeUse.ofFile)).filter fun use =>
    (catalog.resolve use.typeName).isNone).map TypeUse.warning

def missing (needed : SignatureTypes) : List String :=
  sorted ((needed.entries.filter (·.2.isNone)).map (·.1))

end SignatureTypes
end DispatchGen
