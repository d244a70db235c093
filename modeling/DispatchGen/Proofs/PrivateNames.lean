import DispatchGen.Proofs.CodeNames

/-! # Private names

In the body of a class a name that opens with two underscores and does not end with two is private: it is read
with the name of the class before it. The class of an adapter refers to modules, message classes, a stub class and
its methods, all bound or defined elsewhere by their names as they are written. Here the lines of the class body
are made up of the names looked up outside and the text between them, and it is told which jobs have no private
name among these.
-/
namespace DispatchGen
open Text InterfaceFile

namespace Text

/-- Opens with two underscores and does not end with two. -/
def IsPrivate (name : String) : Prop :=
  "__".toList <+: name.toList ∧ ¬ "__".toList <:+ name.toList

instance : DecidablePred IsPrivate := fun _ => inferInstanceAs (Decidable (_ ∧ _))

/-- What a name stands for in the body of a class. A class named by underscores alone has no private names.
Names are taken as they are written; the normal form that letters outside ASCII are put in is left out. -/
def readInClass (className name : String) : String :=
  let owner := className.toList.dropWhile (· = '_')
  if IsPrivate name ∧ owner ≠ [] then "_" ++ String.ofList owner ++ name else name

section Private
variable {name ending : String} {c : Char} {s : List Char}

theorem readInClass_eq_self_iff {className : String} (hc : c ∈ className.toList) (hne : c ≠ '_') :
    readInClass className name = name ↔ ¬ IsPrivate name := by
  have howner : className.toList.dropWhile (· = '_') ≠ [] := by
    intro hnil
    have hall := List.dropWhile_eq_nil_iff.mp hnil c hc
    exact hne (of_decide_eq_true hall)
  unfold readInClass
  by_cases hprivate : IsPrivate name
  · rw [if_pos ⟨hprivate, howner⟩]
    refine iff_of_false (fun heq => ?_) (not_not.mpr hprivate)
    have hlength := congrArg (fun text : String => text.toList.length) heq
    simp only [String.toList_append, List.length_append] at hlength
    have hone : "_".toList.length = 1 := rfl
    omega
  · rw [if_neg fun h => hprivate h.1]
    exact iff_of_true rfl hprivate

theorem not_suffix_of_getLast (hc : name.toList.getLast? = some c) (hne : c ≠ '_') :
    ¬ "__".toList <:+ name.toList := by
  rintro ⟨front, hfront⟩
  rw [← hfront] at hc
  have hlast : (front ++ "__".toList).getLast? = some '_' := List.getLast?_append_of_ne_nil _ (by decide)
  exact hne (Option.some.inj (hc.symm.trans hlast))

/-- With an ending that is not open to underscores only the beginning counts. -/
theorem isPrivate_append_iff (hc : ending.toList.getLast? = some c) (hne : c ≠ '_') :
    IsPrivate (name ++ ending) ↔ "__".toList <+: name.toList ++ ending.toList := by
  have hlast : (name ++ ending).toList.getLast? = some c := by
    rw [String.toList_append, List.getLast?_append, hc, Option.some_or]
  rw [IsPrivate, and_iff_left (not_suffix_of_getLast hlast hne), String.toList_append]

theorem isPrivate_stub_iff : IsPrivate (name ++ "Stub") ↔ "__".toList <+: name.toList := by
  rw [isPrivate_append_iff (c := 'b') (by decide) (by decide)]
  rcases name.toList with _ | ⟨first, _ | ⟨second, rest⟩⟩ <;> simp

end Private
end Text

namespace InterfaceFile

/-- What makes the bound name of a file private, seen in its name without the ending: that there is nothing, an
underscore at the beginning, or a hyphen there with nothing or another marked letter behind it. -/
def opensPrivate : List Char → Bool
  | [] => true
  | c :: rest => c = '_' || (c = '-' && (rest.isEmpty || opensMarked rest))

theorem opensMarked_iff {s t : List Char} (hs : s ≠ []) : opensMarked s ↔ ['_'] <+: code s ++ t := by
  constructor
  · intro h
    cases s with
    | nil => exact absurd rfl hs
    | cons c rest =>
      simp only [opensMarked, Bool.or_eq_true, decide_eq_true_eq] at h
      rcases h with (rfl | rfl) | rfl <;> simp [code_cons, letterCode]
  · rintro ⟨rest, hrest⟩
    cases hcode : code s with
    | nil =>
      obtain ⟨c, others, rfl⟩ := List.exists_cons_of_ne_nil hs
      exact absurd hcode (code_ne_nil c others)
    | cons d others =>
      rw [hcode] at hrest
      obtain ⟨rfl, _⟩ := List.cons.inj hrest
      exact opensMarked_of_code_eq hcode

theorem isPrivate_boundName_iff {file : String} :
    IsPrivate (boundName file) ↔ opensPrivate (dropEnding ending file.toList) := by
  rw [boundName_eq, isPrivate_append_iff (c := '2') (by decide) (by decide), String.toList_ofList]
  cases dropEnding ending file.toList with
  | nil => decide
  | cons c rest =>
    by_cases hunderscore : c = '_'
    · subst hunderscore
      simp [opensPrivate, code_cons, letterCode]
    by_cases hhyphen : c = '-'
    · -- A hyphen gives one underscore, so the second has to come from what follows it.
      subst hhyphen
      cases rest with
      | nil => decide
      | cons next others =>
        have hnext := opensMarked_iff (t := "__pb2".toList) (List.cons_ne_nil next others)
        simpa [opensPrivate, code_cons _ (next :: others), letterCode] using hnext.symm
    · by_cases hslash : c = '/'
      · subst hslash
        simp [opensPrivate, code_cons, letterCode]
      · simp [opensPrivate, code_cons, letterCode, hunderscore, hhyphen, hslash, Ne.symm hunderscore]

end InterfaceFile

/-! ## The lines of the class body -/

/-- A part of a line of code: a name that is looked up outside the class, or what stands between such names. -/
inductive CodePart where
  | outside (name : String)
  | between (text : String)

abbrev CodeLine := List CodePart

namespace CodeLine

def text : CodeLine → String
  | [] => ""
  | .outside name :: rest => name ++ text rest
  | .between between :: rest => between ++ text rest

def outsideNames : CodeLine → List String
  | [] => []
  | .outside name :: rest => name :: outsideNames rest
  | .between _ :: rest => outsideNames rest

theorem text_append (line rest : CodeLine) : text (line ++ rest) = text line ++ text rest := by
  fun_induction text line <;> simp_all [text, String.append_assoc]

theorem outsideNames_append (line rest : CodeLine) :
    outsideNames (line ++ rest) = outsideNames line ++ outsideNames rest := by
  fun_induction outsideNames line <;> simp_all [outsideNames]

end CodeLine

/-- The bound module and the components of the path, with dots between them. -/
def Reference.codeLine (reference : Reference) : CodeLine :=
  .outside reference.boundModule ::
    (components reference.typePath).flatMap fun name => [.between ".", .outside name]

namespace Branch

def inputCode (branch : Branch) : List CodeLine :=
  [[.between branch.testLine],
    .between "            return " :: branch.reference.codeLine ++ [.between "()"]]

/-- The message is a text, but for the part of it that is in braces. -/
def failureCode (branch : Branch) : CodeLine :=
  [.between "                raise ", .outside "TypeError",
    .between ("(f\"" ++ branch.method.name ++ " expects " ++ branch.reference.typePath ++ ", got \x7b"),
    .outside "type", .between "(request).", .outside "__name__", .between "\x7d\")"]

def checkCode (branch : Branch) : List CodeLine :=
  if branch.method.clientStreaming then []
  else
    [.between "            if not " :: .outside "isinstance" :: .between "(request, " ::
        branch.reference.codeLine ++ [.between "):"],
      branch.failureCode]

def callCode (branch : Branch) : List CodeLine :=
  [.between branch.testLine] :: branch.checkCode ++
    [[.between "            return ", .outside branch.receiver, .between "(self._stub.",
      .outside branch.method.name, .between "(request, **options))"]]

end Branch

namespace Adapter

def classHeading (adapter : Adapter) : String :=
  "class " ++ className adapter.service ++ "(Client):"

def stubCode (adapter : Adapter) : CodeLine :=
  [.between "        self._stub = ", .outside Reference.rootStubModule, .between ".",
    .outside (adapter.service ++ "Stub"), .between "(channel)"]

/-- The body of the class, with the names that it looks up outside. -/
def classCode (adapter : Adapter) : List CodeLine :=
  [[.between "    def __init__(self, channel: ", .outside "grpc", .between ".", .outside "Channel",
      .between ") -> None:"],
    adapter.stubCode,
    [],
    [.between "    def methods(self) -> ", .outside "Sequence", .between "[", .outside "str", .between "]:"],
    [.between "        return ", .outside "_METHODS"],
    [],
    [.between "    def input(self, name: ", .outside "str", .between ") -> ", .outside "Optional", .between "[",
      .outside "Any", .between "]:"]] ++
    adapter.branches.flatMap Branch.inputCode ++
    [[.between "        return None"],
      [],
      [.between "    def call(self, name: ", .outside "str", .between ", request: ", .outside "Any",
        .between ", **options: ", .outside "Any", .between ") -> ", .outside "Receiver", .between ":"]] ++
    adapter.branches.flatMap Branch.callCode ++
    [[.between "        raise ", .outside "UnknownMethodError", .between "(name)"]]

/-- The names that the class body looks up outside. -/
def outsideNames (adapter : Adapter) : List String :=
  adapter.classCode.flatMap CodeLine.outsideNames

end Adapter

theorem Text.intercalate_components (name : String) : ".".intercalate (components name) = name := by
  apply String.toList_injective
  have hpieces : (components name).map String.toList = split '.' name.toList := by
    simp [components, Function.comp_def]
  rw [String.toList_intercalate, hpieces, ← join_eq_intercalate]
  exact join_split '.' name.toList

theorem CodeLine.text_dotted {names : List String} (hne : names ≠ []) :
    text (names.flatMap fun name => [.between ".", .outside name]) = "." ++ ".".intercalate names := by
  induction names with
  | nil => exact absurd rfl hne
  | cons first rest ih =>
    cases rest with
    | nil => simp [text]
    | cons next others =>
      rw [List.flatMap_cons, text_append, ih (List.cons_ne_nil _ _), String.intercalate_cons_cons]
      simp [text, String.append_assoc]

theorem Reference.text_codeLine (reference : Reference) : CodeLine.text reference.codeLine = reference.code := by
  have hpath : components reference.typePath ≠ [] := by simp [components, split_ne_nil]
  rw [codeLine, CodeLine.text, CodeLine.text_dotted hpath, intercalate_components, code, String.append_assoc]

namespace Branch
variable {branch : Branch}

theorem text_inputCode (branch : Branch) : branch.inputCode.map CodeLine.text = branch.inputLines := by
  simp [inputCode, inputLines, CodeLine.text, CodeLine.text_append, Reference.text_codeLine, String.append_assoc]

theorem text_failureCode (branch : Branch) : CodeLine.text branch.failureCode =
    "                raise TypeError(f\"" ++ branch.method.name ++ " expects " ++ branch.reference.typePath ++
      ", got \x7btype(request).__name__\x7d\")" := by
  simp only [failureCode, CodeLine.text, String.append_assoc]
  rfl

theorem text_checkCode (branch : Branch) : branch.checkCode.map CodeLine.text = branch.checkLines := by
  unfold checkCode checkLines
  split
  · rfl
  · simp [CodeLine.text, CodeLine.text_append, Reference.text_codeLine, text_failureCode, ← String.append_assoc]

theorem text_callCode (branch : Branch) : branch.callCode.map CodeLine.text = branch.callLines := by
  simp [callCode, callLines, text_checkCode, CodeLine.text, String.append_assoc]

end Branch

namespace Adapter

theorem text_stubCode (adapter : Adapter) : CodeLine.text adapter.stubCode =
    "        self._stub = " ++ Reference.rootStubModule ++ "." ++ adapter.service ++ "Stub(channel)" := by
  simp only [stubCode, CodeLine.text, String.append_assoc]
  rfl

theorem classLines_eq (adapter : Adapter) :
    adapter.classLines = adapter.classHeading :: adapter.classCode.map CodeLine.text := by
  have hinput : ∀ branches : List Branch, (branches.flatMap Branch.inputCode).map CodeLine.text =
      branches.flatMap Branch.inputLines := by
    intro branches
    simp [List.map_flatMap, Branch.text_inputCode]
  have hcall : ∀ branches : List Branch, (branches.flatMap Branch.callCode).map CodeLine.text =
      branches.flatMap Branch.callLines := by
    intro branches
    simp [List.map_flatMap, Branch.text_callCode]
  simp [classLines, openingLines, inputLines, callLines, classCode, classHeading, hinput, hcall, text_stubCode,
    CodeLine.text]

end Adapter

/-! ## Which names are private -/

theorem CodeLine.outsideNames_dotted (names : List String) :
    outsideNames (names.flatMap fun name => [.between ".", .outside name]) = names := by
  induction names with
  | nil => rfl
  | cons first rest ih => rw [List.flatMap_cons, outsideNames_append, ih]; rfl

theorem Reference.outsideNames_codeLine (reference : Reference) :
    CodeLine.outsideNames reference.codeLine = reference.names := by
  rw [codeLine, CodeLine.outsideNames, CodeLine.outsideNames_dotted, names]

namespace Branch

theorem outsideNames_inputCode (branch : Branch) :
    branch.inputCode.flatMap CodeLine.outsideNames = branch.reference.names := by
  simp [inputCode, CodeLine.outsideNames, CodeLine.outsideNames_append, Reference.outsideNames_codeLine]

theorem outsideNames_callCode (branch : Branch) : branch.callCode.flatMap CodeLine.outsideNames =
    branch.checkCode.flatMap CodeLine.outsideNames ++ [branch.receiver, branch.method.name] := by
  simp [callCode, CodeLine.outsideNames]

theorem not_private_checkCode {branch : Branch} (h : ∀ name ∈ branch.reference.names, ¬ IsPrivate name) :
    ∀ name ∈ branch.checkCode.flatMap CodeLine.outsideNames, ¬ IsPrivate name := by
  have hfailure : ∀ name ∈ CodeLine.outsideNames branch.failureCode, ¬ IsPrivate name := by
    simp only [failureCode, CodeLine.outsideNames, List.forall_mem_cons]
    exact ⟨by decide, by decide, by decide, List.forall_mem_nil _⟩
  unfold checkCode
  split
  · exact List.forall_mem_nil _
  · have hisinstance : ¬ IsPrivate "isinstance" := by decide
    simpa [CodeLine.outsideNames, CodeLine.outsideNames_append, Reference.outsideNames_codeLine, or_imp,
      forall_and] using ⟨hisinstance, h, hfailure⟩

/-- No name is private that the two branches for a method look up. -/
structure Unmangled (branch : Branch) : Prop where
  reference : ∀ name ∈ branch.reference.names, ¬ IsPrivate name
  method : ¬ IsPrivate branch.method.name

theorem unmangled_iff {branch : Branch} : branch.Unmangled ↔
    (∀ name ∈ branch.inputCode.flatMap CodeLine.outsideNames, ¬ IsPrivate name) ∧
      ∀ name ∈ branch.callCode.flatMap CodeLine.outsideNames, ¬ IsPrivate name := by
  have hreceiver : ¬ IsPrivate branch.receiver := by
    unfold receiver
    split <;> decide
  rw [outsideNames_inputCode, outsideNames_callCode, List.forall_mem_append, List.forall_mem_cons,
    List.forall_mem_singleton]
  constructor
  · intro h
    exact ⟨h.reference, not_private_checkCode h.reference, hreceiver, h.method⟩
  · rintro ⟨hreference, _, _, hmethod⟩
    exact ⟨hreference, hmethod⟩

end Branch

namespace Adapter

theorem outsideNames_eq (adapter : Adapter) : adapter.outsideNames =
    ["grpc", "Channel", Reference.rootStubModule, adapter.service ++ "Stub", "Sequence", "str", "_METHODS", "str",
        "Optional", "Any"] ++
      adapter.branches.flatMap (fun branch => branch.inputCode.flatMap CodeLine.outsideNames) ++
      ["str", "Any", "Any", "Receiver"] ++
      adapter.branches.flatMap (fun branch => branch.callCode.flatMap CodeLine.outsideNames) ++
      ["UnknownMethodError"] := by
  simp [outsideNames, classCode, stubCode, CodeLine.outsideNames, List.flatMap_assoc]

theorem not_private_iff (adapter : Adapter) : (∀ name ∈ adapter.outsideNames, ¬ IsPrivate name) ↔
    ¬ "__".toList <+: adapter.service.toList ∧ ∀ branch ∈ adapter.branches, branch.Unmangled := by
  rw [outsideNames_eq, List.forall_mem_append, List.forall_mem_append, List.forall_mem_append,
    List.forall_mem_append, List.forall_mem_flatMap, List.forall_mem_flatMap]
  constructor
  · rintro ⟨⟨⟨⟨hopening, hinput⟩, _⟩, hcall⟩, _⟩
    refine ⟨isPrivate_stub_iff.not.mp (hopening _ (by simp)), fun branch hbranch => ?_⟩
    exact Branch.unmangled_iff.mpr ⟨hinput branch hbranch, hcall branch hbranch⟩
  · rintro ⟨hservice, hbranches⟩
    have hboth := fun branch hbranch => Branch.unmangled_iff.mp (hbranches branch hbranch)
    have hbefore : ∀ name ∈ ["grpc", "Channel", Reference.rootStubModule], ¬ IsPrivate name := by decide
    have hbehind : ∀ name ∈ ["Sequence", "str", "_METHODS", "str", "Optional", "Any"], ¬ IsPrivate name := by decide
    have hopening := List.forall_mem_append.mpr
      ⟨hbefore, List.forall_mem_cons.mpr ⟨isPrivate_stub_iff.not.mpr hservice, hbehind⟩⟩
    exact ⟨⟨⟨⟨hopening, fun branch hbranch => (hboth branch hbranch).1⟩, by decide⟩,
      fun branch hbranch => (hboth branch hbranch).2⟩, by decide⟩

end Adapter

namespace Reference
variable {rootFile : String} {entry : TypeEntry}

theorem boundModule_ofEntry_root (h : entry.fileName = rootFile) :
    (ofEntry rootFile entry).boundModule = rootModule := if_pos h

theorem boundModule_ofEntry_foreign (h : entry.fileName ≠ rootFile) :
    (ofEntry rootFile entry).boundModule = boundName entry.fileName := if_neg h

end Reference

namespace RenderJob
variable {job : RenderJob} {timestamp : Timestamp} {inputs : List (Method × TypeEntry)}

/-- No name of the job gives a private name: that of the service with what the stub class is named after it, those
of the methods, those that files are bound to, and those of the messages in the paths of the input types. -/
structure Unmangled (job : RenderJob) : Prop where
  service : ¬ "__".toList <+: job.service.name.toList
  methods : ∀ method ∈ job.service.methods, ¬ IsPrivate method.name
  files : ∀ file, job.Foreign file → ¬ opensPrivate (dropEnding ending file.toList)
  types : ∀ method ∈ job.service.methods, ∀ entry, job.types.resolve method.input = some entry →
    ∀ name ∈ components entry.relativeName, ¬ IsPrivate name

theorem Resolves.not_private_iff (h : job.Resolves inputs) :
    (∀ name ∈ (job.assembled timestamp inputs).outsideNames, ¬ IsPrivate name) ↔ job.Unmangled := by
  have hroot : ¬ IsPrivate Reference.rootModule := by decide
  rw [Adapter.not_private_iff, assembled, List.forall_mem_map]
  constructor
  · rintro ⟨hservice, hinputs⟩
    refine ⟨hservice, fun method hmethod => ?_, ?_, fun method hmethod entry hentry => ?_⟩
    · obtain ⟨entry, hinput, _⟩ := h.exists_entry hmethod
      exact (hinputs _ hinput).method
    · rintro file ⟨hforeign, method, hmethod, entry, hentry, rfl⟩
      obtain ⟨_, hinput, hresolve⟩ := h.exists_entry hmethod
      cases hresolve.symm.trans hentry
      have hbound := (List.forall_mem_cons.mp (hinputs _ hinput).reference).1
      rwa [Reference.boundModule_ofEntry_foreign hforeign, isPrivate_boundName_iff] at hbound
    · obtain ⟨_, hinput, hresolve⟩ := h.exists_entry hmethod
      cases hresolve.symm.trans hentry
      exact (List.forall_mem_cons.mp (hinputs _ hinput).reference).2
  · intro hjob
    refine ⟨hjob.service, fun input hinput => ?_⟩
    have hmethod := h.method_mem hinput
    have hentry := h.entries input hinput
    refine ⟨List.forall_mem_cons.mpr ⟨?_, hjob.types _ hmethod _ hentry⟩, hjob.methods _ hmethod⟩
    by_cases hown : input.2.fileName = job.file
    · rwa [Reference.boundModule_ofEntry_root hown]
    · rw [Reference.boundModule_ofEntry_foreign hown, isPrivate_boundName_iff]
      exact hjob.files _ ⟨hown, _, hmethod, _, hentry, rfl⟩

theorem Resolves.bound_by_import (h : job.Resolves inputs) :
    ∀ branch ∈ (job.assembled timestamp inputs).branches,
      ∃ line ∈ (job.assembled timestamp inputs).imports, line.boundTo = branch.reference.boundModule := by
  intro branch hbranch
  obtain ⟨input, hinput, rfl⟩ := List.mem_map.mp hbranch
  by_cases hown : input.2.fileName = job.file
  · exact ⟨.messages job.file Reference.rootModule, List.mem_cons_self ..,
      (Reference.boundModule_ofEntry_root hown).symm⟩
  · have himported : input.2.fileName ∈ (job.assembled timestamp inputs).importedFiles :=
      h.mem_importedFiles.mpr ⟨hown, _, h.method_mem hinput, _, h.entries input hinput, rfl⟩
    refine ⟨.dependency input.2.fileName, ?_, (Reference.boundModule_ofEntry_foreign hown).symm⟩
    exact List.mem_cons_of_mem _ (List.mem_cons_of_mem _ (List.mem_map_of_mem himported))

/-- The class of a rendered module looks up no private name just when the job has none that gives one. Then each
name stands for itself in its body, and the modules are those that the import lines bind. -/
theorem looked_up_as_written_iff {text : String} (h : adapterRenderer timestamp job = .content text) :
    ∃ adapter, job.adapter timestamp = .ok adapter ∧ text = adapter.text ∧
      adapter.classLines = adapter.classHeading :: adapter.classCode.map CodeLine.text ∧
      ((∀ name ∈ adapter.outsideNames, ¬ IsPrivate name) ↔ job.Unmangled) ∧
      (∀ name, readInClass (Adapter.className adapter.service) name = name ↔ ¬ IsPrivate name) ∧
      ∀ branch ∈ adapter.branches, ∃ line ∈ adapter.imports, line.boundTo = branch.reference.boundModule := by
  obtain ⟨hchecks, inputs, hentries, htext⟩ := adapterRenderer_eq_content_iff.mp h
  have hinputs := resolves_of_inputEntries hentries
  refine ⟨_, adapter_eq_ok_iff.mpr ⟨hchecks, inputs, hentries, rfl⟩, htext, Adapter.classLines_eq _,
    hinputs.not_private_iff, fun name => ?_, hinputs.bound_by_import⟩
  have hletter : 'C' ∈ (Adapter.className (job.assembled timestamp inputs).service).toList := by
    rw [Adapter.className, String.toList_append]
    exact List.mem_append_right _ (by decide)
  exact readInClass_eq_self_iff hletter (by decide)

/-- Neither an underscore behind a directory nor a hyphen before a letter makes a private name. -/
theorem looked_up_as_written_of_takingBoth : ∃ (text : String) (adapter : Adapter),
    adapterRenderer ⟨2024, 5, 1, 12, 30, 0, 0, some 0⟩ (takingBoth "a/_b.proto" "-c.proto") = .content text ∧
      (takingBoth "a/_b.proto" "-c.proto").Unmangled ∧ text = adapter.text ∧
      ∀ name ∈ adapter.outsideNames, readInClass (Adapter.className adapter.service) name = name := by
  have hchecks : (takingBoth "a/_b.proto" "-c.proto").checkNames = .ok () := by decide
  obtain ⟨text, hrendered⟩ : ∃ text, adapterRenderer ⟨2024, 5, 1, 12, 30, 0, 0, some 0⟩
      (takingBoth "a/_b.proto" "-c.proto") = .content text :=
    ⟨_, adapterRenderer_eq_content_iff.mpr ⟨hchecks, _, inputEntries_takingBoth _ _, rfl⟩⟩
  have hunmangled : (takingBoth "a/_b.proto" "-c.proto").Unmangled := by
    refine ⟨by decide, by decide, fun file hfile => ?_, by decide⟩
    rcases (foreign_takingBoth.mp hfile).2 with rfl | rfl <;> decide
  obtain ⟨adapter, _, htext, _, hprivate, hread, _⟩ := looked_up_as_written_iff hrendered
  exact ⟨text, adapter, hrendered, hunmangled, htext, fun name hname =>
    (hread name).mpr (hprivate.mpr hunmangled name hname)⟩

/-- A service, a method, a file and a message whose names give private ones. -/
def mangled : RenderJob where
  package := "main"
  file := "x.proto"
  service := { name := "__Feed", methods := [{ name := "__Get", input := ".p.__M", output := ".p.__M" }] }
  directories := []
  types := ⟨[(".p.__M", some { fullName := ".p.__M", fileName := "_y.proto", package := "p" })]⟩

/-- The import line binds one name and the class reads another. -/
theorem private_names_of_mangled : ∃ (text : String) (adapter : Adapter),
    adapterRenderer ⟨2024, 5, 1, 12, 30, 0, 0, some 0⟩ mangled = .content text ∧ text = adapter.text ∧
      "import _y_pb2 as __y__pb2" ∈ adapter.lines ∧
      "        self._stub = pb_grpc.__FeedStub(channel)" ∈ adapter.classLines ∧
      "            return __y__pb2.__M()" ∈ adapter.classLines ∧
      "            return _OnceReceiver(self._stub.__Get(request, **options))" ∈ adapter.classLines ∧
      ["__FeedStub", "__y__pb2", "__M", "__Get"].map (readInClass (Adapter.className adapter.service)) =
        ["_FeedClient__FeedStub", "_FeedClient__y__pb2", "_FeedClient__M", "_FeedClient__Get"] ∧
      ∀ name ∈ ["__FeedStub", "__y__pb2", "__M", "__Get"], name ∈ adapter.outsideNames ∧ IsPrivate name := by
  have hchecks : mangled.checkNames = .ok () := by decide
  obtain ⟨inputs, hentries⟩ : ∃ inputs, mangled.inputEntries = .ok inputs := ⟨_, rfl⟩
  have hfiles : mangled.foreignFiles inputs = ["_y.proto"] := by
    cases hentries
    simp [foreignFiles, mangled, sortedDistinct, sorted, List.eraseDups_cons]
  refine ⟨_, _, adapterRenderer_eq_content_iff.mpr ⟨hchecks, inputs, hentries, rfl⟩, rfl, ?_⟩
  rw [assembled, hfiles]
  cases hentries
  decide +kernel

end RenderJob
end DispatchGen
