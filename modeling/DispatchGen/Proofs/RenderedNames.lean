import DispatchGen.Proofs.CodeNames

/-! # Names of rendered modules

A text is rendered exactly when the names of the service and of its methods are usable and every input type
is known. Files and messages are not looked at: the names taken from them are usable when the directories
and stems of the files are fit, and when the chains of message names are.
-/
namespace DispatchGen
open Text InterfaceFile

namespace RenderJob
variable {job : RenderJob} {timestamp : Timestamp} {inputs : List (Method × TypeEntry)} {text : String}

/-- What a job must have to be rendered. -/
structure Accepted (job : RenderJob) : Prop extends job.Usable where
  known : ∀ method ∈ job.service.methods, (job.types.resolve method.input).isSome

/-- The files and the input types have usable names. -/
structure FitNames (job : RenderJob) : Prop where
  root : Fit job.file
  foreign : ∀ file, job.Foreign file → Fit file
  types : ∀ method ∈ job.service.methods, ∀ entry, job.types.resolve method.input = some entry →
    ∀ name ∈ components entry.relativeName, isUsableName name

theorem content_iff_accepted : (∃ text, adapterRenderer timestamp job = .content text) ↔ job.Accepted := by
  simp only [adapterRenderer_eq_content_iff]
  constructor
  · rintro ⟨_, hchecks, inputs, hentries, _⟩
    refine ⟨usable_of_checkNames hchecks, fun method hmethod => ?_⟩
    obtain ⟨entry, _, hentry⟩ := (resolves_of_inputEntries hentries).exists_entry hmethod
    rw [hentry, Option.isSome_some]
  · intro h
    obtain ⟨inputs, hentries⟩ := exists_inputEntries h.known
    exact ⟨_, checkNames_eq_ok h.service h.methods, inputs, hentries, rfl⟩

/-- The renderer gives a text or a refusal, never both. -/
theorem refused_iff_no_content : (∃ message, adapterRenderer timestamp job = .refused message) ↔
    ¬ ∃ text, adapterRenderer timestamp job = .content text := by
  unfold adapterRenderer
  cases job.adapter timestamp <;> simp

theorem Usable.ownNames (h : job.Usable) (hinputs : job.Resolves inputs) :
    ∀ name ∈ (job.assembled timestamp inputs).ownNames, isUsableName name := by
  have hservice : OpensIdentifier job.service.name.toList := Or.inr (isIdentifier_of_isUsableName h.service)
  have hclient : isIdentifier "Client".toList := by decide +kernel
  have hstub : isIdentifier "Stub".toList := by decide +kernel
  rw [Adapter.ownNames, List.forall_mem_cons, List.forall_mem_cons, List.forall_mem_cons, List.forall_mem_cons]
  refine ⟨by decide +kernel, by decide +kernel, ?_, ?_, ?_⟩
  · exact (isUsableName_append_iff (c := 'C') hclient (by decide) (by decide) _).mpr hservice
  · exact (isUsableName_append_iff (c := 'S') hstub (by decide) (by decide) _).mpr hservice
  · intro name hname
    obtain ⟨branch, hbranch, rfl⟩ := List.mem_map.mp hname
    obtain ⟨input, hinput, rfl⟩ := List.mem_map.mp hbranch
    exact h.methods _ (hinputs.method_mem hinput)

theorem usable_imports_iff (hinputs : job.Resolves inputs) (hdotless : ∀ file, job.Foreign file → Dotless file) :
    (∀ line ∈ (job.assembled timestamp inputs).imports, ∀ name ∈ line.names, isUsableName name) ↔
      Fit job.file ∧ ∀ file, job.Foreign file → Fit file := by
  have hmessages : isIdentifier messagesEnding.toList := by decide +kernel
  have hstubs : isIdentifier stubsEnding.toList := by decide +kernel
  have hroot : isUsableName Reference.rootModule ∧ isUsableName Reference.rootStubModule := by decide +kernel
  have hforeign : (∀ file ∈ (job.assembled timestamp inputs).importedFiles,
      ∀ name ∈ (ImportLine.dependency file).names, isUsableName name) ↔ ∀ file, job.Foreign file → Fit file := by
    refine forall_congr' fun file => ?_
    rw [hinputs.mem_importedFiles]
    refine imp_congr_right fun hfile => ?_
    rw [ImportLine.dependency, ImportLine.messages, usable_importNames_iff hmessages (by decide)]
    exact and_iff_left_of_imp fun h => h.usable_boundName (hdotless file hfile)
  rw [Adapter.imports, List.forall_mem_cons, List.forall_mem_cons, List.forall_mem_map, hforeign,
    ImportLine.messages, ImportLine.stubs, usable_importNames_iff hmessages (by decide),
    usable_importNames_iff hstubs (by decide), and_iff_left hroot.1, and_iff_left hroot.2, ← and_assoc, and_self]
  rfl

/-- The bound names are usable already, so a reference depends on the path of its type. -/
theorem usable_references_iff (hinputs : job.Resolves inputs) (hdotless : ∀ file, job.Foreign file → Dotless file)
    (hfit : ∀ file, job.Foreign file → Fit file) :
    (∀ branch ∈ (job.assembled timestamp inputs).branches, ∀ name ∈ branch.reference.names, isUsableName name) ↔
      ∀ method ∈ job.service.methods, ∀ entry, job.types.resolve method.input = some entry →
        ∀ name ∈ components entry.relativeName, isUsableName name := by
  have hbound : ∀ input ∈ inputs, isUsableName (Reference.ofEntry job.file input.2).boundModule := by
    intro input hinput
    dsimp only [Reference.ofEntry]
    split_ifs with hroot
    · decide +kernel
    · have hfile : job.Foreign input.2.fileName :=
        ⟨hroot, input.1, hinputs.method_mem hinput, input.2, hinputs.entries input hinput, rfl⟩
      exact (hfit _ hfile).usable_boundName (hdotless _ hfile)
  rw [assembled, List.forall_mem_map]
  constructor
  · intro h method hmethod entry hentry
    obtain ⟨_, hinput, hresolve⟩ := hinputs.exists_entry hmethod
    cases hresolve.symm.trans hentry
    exact (List.forall_mem_cons.mp (h _ hinput)).2
  · intro h input hinput
    exact List.forall_mem_cons.mpr
      ⟨hbound input hinput, h _ (hinputs.method_mem hinput) _ (hinputs.entries input hinput)⟩

theorem usable_borrowedNames_iff (hinputs : job.Resolves inputs)
    (hdotless : ∀ file, job.Foreign file → Dotless file) :
    (∀ name ∈ (job.assembled timestamp inputs).borrowedNames, isUsableName name) ↔ job.FitNames := by
  rw [Adapter.borrowedNames, List.forall_mem_append, List.forall_mem_flatMap, List.forall_mem_flatMap,
    usable_imports_iff hinputs hdotless]
  constructor
  · rintro ⟨⟨hroot, hforeign⟩, hreferences⟩
    exact ⟨hroot, hforeign, (usable_references_iff hinputs hdotless hforeign).mp hreferences⟩
  · intro h
    exact ⟨⟨h.root, h.foreign⟩, (usable_references_iff hinputs hdotless h.foreign).mpr h.types⟩

end RenderJob

/-- The path of an indexed type is made of the names in the chain that declares it. -/
theorem Catalog.components_relativeName {files : List SourceFile} {name : String} {entry : TypeEntry}
    (h : (ofFiles files).resolve name = some entry) : ∃ file ∈ files, ∃ names,
      DeclaredAt file.messages names entry.message ∧ components entry.relativeName = names.flatMap components := by
  obtain ⟨file, hfile, names, hdeclared, rfl, hentry⟩ := exists_declaration_of_resolve h
  have hpackage : entry.package = file.package := congrArg TypeEntry.package hentry
  have hfull : entry.fullName = absoluteName entry.package names :=
    hpackage ▸ congrArg TypeEntry.fullName hentry
  refine ⟨file, hfile, names, hdeclared, ?_⟩
  rw [TypeEntry.relativeName_eq hdeclared.names_ne_nil hfull, components_intercalate hdeclared.names_ne_nil]

namespace RenderJob

/-- A job is rendered when the names of the service and of its methods are usable and all input types are
known, and refused when not. In a rendered module the names of the class, of the stub, of the methods and of
the root's own modules are usable. The names taken from files and messages are usable just when the files and
the types are fit, where the directories have no hyphens and the names of files beside the root no dots; of
other files nothing is said. -/
theorem usable_names_of_rendered (job : RenderJob) (timestamp : Timestamp) :
    ((∃ text, adapterRenderer timestamp job = .content text) ↔ job.Accepted) ∧
      ((∃ message, adapterRenderer timestamp job = .refused message) ↔ ¬ job.Accepted) ∧
      ∀ text, adapterRenderer timestamp job = .content text →
        ∃ adapter, job.adapter timestamp = .ok adapter ∧ text = adapter.text ∧
          (∀ name ∈ adapter.ownNames, isUsableName name) ∧
          (Unhyphened job.file → (∀ file, job.Foreign file → Unhyphened file ∧ Dotless file) →
            ((∀ name ∈ adapter.borrowedNames, isUsableName name) ↔ job.FitNames)) ∧
          ∀ files, ∀ method ∈ job.service.methods, ∀ entry, job.types.resolve method.input = some entry →
            (Catalog.ofFiles files).resolve method.input = some entry → ∃ file ∈ files, ∃ names,
              DeclaredAt file.messages names entry.message ∧
                components entry.relativeName = names.flatMap components := by
  refine ⟨content_iff_accepted, refused_iff_no_content.trans (not_congr content_iff_accepted), fun text h => ?_⟩
  obtain ⟨hchecks, inputs, hentries, htext⟩ := adapterRenderer_eq_content_iff.mp h
  have hinputs := resolves_of_inputEntries hentries
  refine ⟨_, adapter_eq_ok_iff.mpr ⟨hchecks, inputs, hentries, rfl⟩, htext, ?_, ?_, ?_⟩
  · exact (usable_of_checkNames hchecks).ownNames hinputs
  · exact fun _ hforeign => usable_borrowedNames_iff hinputs fun file hfile => (hforeign file hfile).2
  · exact fun files method _ entry _ hcatalog => Catalog.components_relativeName hcatalog

theorem usable_names_of_takingBoth : ∃ (text : String) (adapter : Adapter),
    adapterRenderer ⟨2024, 5, 1, 12, 30, 0, 0, some 0⟩ (takingBoth "a/c_d.proto" "e-f.proto") = .content text ∧
      Unhyphened (takingBoth "a/c_d.proto" "e-f.proto").file ∧
      (∀ file, (takingBoth "a/c_d.proto" "e-f.proto").Foreign file → Unhyphened file ∧ Dotless file) ∧
      (takingBoth "a/c_d.proto" "e-f.proto").FitNames ∧ text = adapter.text ∧
      (∀ name ∈ adapter.ownNames, isUsableName name) ∧ ∀ name ∈ adapter.borrowedNames, isUsableName name := by
  obtain ⟨hcontent, _, hnames⟩ := usable_names_of_rendered (takingBoth "a/c_d.proto" "e-f.proto")
    ⟨2024, 5, 1, 12, 30, 0, 0, some 0⟩
  have haccepted : (takingBoth "a/c_d.proto" "e-f.proto").Accepted := ⟨⟨by decide, by decide⟩, by decide⟩
  obtain ⟨text, hrendered⟩ := hcontent.mpr haccepted
  obtain ⟨adapter, _, htext, hown, hborrowed, _⟩ := hnames text hrendered
  have hunhyphened : Unhyphened (takingBoth "a/c_d.proto" "e-f.proto").file := by decide
  have hforeign : ∀ file, (takingBoth "a/c_d.proto" "e-f.proto").Foreign file →
      Unhyphened file ∧ Dotless file := by
    intro file hfile
    rcases (foreign_takingBoth.mp hfile).2 with rfl | rfl <;> exact ⟨by decide, by decide, by decide⟩
  have hfit : (takingBoth "a/c_d.proto" "e-f.proto").FitNames := by
    refine ⟨⟨by decide, [], "x".toList, by decide, by decide, by decide +kernel⟩, fun file hfile => ?_, ?_⟩
    · rcases (foreign_takingBoth.mp hfile).2 with rfl | rfl
      · exact ⟨by decide +kernel, [], "c_d".toList, by decide, by decide, by decide +kernel⟩
      · exact ⟨by decide, [], "e_f".toList, by decide, by decide, by decide +kernel⟩
    · decide +kernel
  have husable : ∀ name ∈ adapter.borrowedNames, isUsableName name := (hborrowed hunhyphened hforeign).mpr hfit
  exact ⟨text, adapter, hrendered, hunhyphened, hforeign, hfit, htext, hown, husable⟩

/-- A directory and a message named like reserved words, and a file whose name opens with a digit. -/
def unfit : RenderJob where
  package := ""
  file := "class/x.proto"
  service := { name := "Feed", methods := [{ name := "Left", input := ".p.None", output := ".p.None" }] }
  directories := []
  types := ⟨[(".p.None", some { fullName := ".p.None", fileName := "9.proto", package := "p" })]⟩

theorem unusable_names_of_unfit : ∃ (text : String) (adapter : Adapter),
    adapterRenderer ⟨2024, 5, 1, 12, 30, 0, 0, some 0⟩ unfit = .content text ∧ text = adapter.text ∧
      "from class import x_pb2 as pb" ∈ adapter.lines ∧ "import 9_pb2 as 9__pb2" ∈ adapter.lines ∧
      "            return 9__pb2.None()" ∈ adapter.lines ∧
      ∀ name ∈ ["class", "9_pb2", "9__pb2", "None"], name ∈ adapter.borrowedNames ∧ ¬ isUsableName name := by
  have hchecks : unfit.checkNames = .ok () := by decide
  obtain ⟨inputs, hentries⟩ : ∃ inputs, unfit.inputEntries = .ok inputs := ⟨_, rfl⟩
  have hfiles : unfit.foreignFiles inputs = ["9.proto"] := by
    cases hentries
    simp [foreignFiles, unfit, sortedDistinct, sorted, List.eraseDups_cons]
  refine ⟨_, _, adapterRenderer_eq_content_iff.mpr ⟨hchecks, inputs, hentries, rfl⟩, rfl, ?_⟩
  rw [assembled, hfiles]
  cases hentries
  decide +kernel

end RenderJob
end DispatchGen
