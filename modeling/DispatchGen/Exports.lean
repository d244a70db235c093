/-! # Public names

The names that the runtime package offers at its top. Most are defined in one of its modules; one is a
module itself.
-/
namespace DispatchGen

/-- What a public name stands for: something defined in a module, or a module by its full name. -/
inductive Export where
  | definedIn (owner : String)
  | submodule (fullName : String)
  deriving Repr, DecidableEq, Inhabited

def exports : List (String × Export) :=
  [("Client", .definedIn "grpcer.client"), ("Receiver", .definedIn "grpcer.client"),
   ("UnknownMethodError", .definedIn "grpcer.client"),
   ("DefaultTemplateRenderer", .definedIn "grpcer.codegen"),
   ("ITemplateRenderer", .definedIn "grpcer.codegen"),
   ("RenderError", .definedIn "grpcer.codegen.client"), ("GeneratedFile", .definedIn "grpcer.model"),
   ("GeneratorConfig", .definedIn "grpcer.config"),
   ("TypeIndex", .definedIn "grpcer.descriptor_index"),
   ("build_index", .definedIn "grpcer.descriptor_index"),
   ("prune_dependencies", .definedIn "grpcer.dependencies"),
   ("generate_code", .definedIn "grpcer.plugin"), ("model", .submodule "grpcer.model")]

def exported? (name : String) : Option Export :=
  exports.lookup name

end DispatchGen
