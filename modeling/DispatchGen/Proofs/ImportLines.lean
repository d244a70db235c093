import DispatchGen.Proofs.CodeNames
import DispatchGen.Proofs.Dispatch

/-! # Import lines

The imports of a rendered text as its lines show them. Nothing is escaped, so a line is what it looks
like only when the names that stand in it have no line break.
-/
namespace DispatchGen
open Text Dispatch InterfaceFile

namespace Text
variable {c : Char} {s : List Char}

theorem mem_of_mem_dropEnding {ending : List Char} (hc : c ∈ dropEnding ending s) : c ∈ s := by
  unfold dropEnding at hc
  split at hc
  · exact List.mem_of_mem_take hc
  · exact hc

theorem notMem_replaceChar {d : Char} {by' : List Char} (hs : c ∉ s) (hby : c ∉ by') : c ∉ replaceChar d by' s :=
  fun hc => (mem_replaceChar hc).elim hs hby

theorem mem_of_mem_split {sep : Char} {piece : List Char} (hpiece : piece ∈ split sep s) (hc : c ∈ piece) :
    c ∈ s := by
  rw [← join_split sep s]
  exact mem_join_of_mem hpiece hc

theorem mem_of_mem_base (hc : c ∈ Path.base s) : c ∈ s := by
  rw [← Path.head_append_base s]
  exact List.mem_append_right _ hc

theorem mem_of_mem_directory (hc : c ∈ Path.directory s) : c ∈ s := by
  obtain ⟨slashes, _, hhead⟩ := Path.exists_head_eq s
  rw [← Path.head_append_base s, hhead]
  exact List.mem_append_left _ (List.mem_append_left _ hc)

end Text

/-- The import of the module generated beside a file. -/
def importLine (file ending name : String) : String :=
  let package := dottedPackage (directory file)
  let source := String.ofList (stemCode file) ++ ending
  if package = "" then "import " ++ source ++ " as " ++ name
  else "from " ++ package ++ " import " ++ source ++ " as " ++ name

section LineBreaks
variable {file : String}

theorem lineFeed_notMem_stemCode (h : '\n' ∉ file.toList) : '\n' ∉ stemCode file := by
  refine notMem_replaceChar (fun hmem => ?_) (by decide)
  rw [stem, String.toList_ofList] at hmem
  exact h (mem_of_mem_base (mem_of_mem_dropEnding hmem))

theorem lineFeed_notMem_dottedPackage (h : '\n' ∉ file.toList) :
    '\n' ∉ (dottedPackage (directory file)).toList := by
  intro hmem
  rw [dottedPackage, String.toList_ofList] at hmem
  rcases mem_join hmem with hdot | ⟨part, hpart, hmem⟩
  · exact absurd hdot (by decide)
  · exact h (mem_of_mem_directory (mem_of_mem_split (mem_packageParts.mp hpart).1 hmem))

theorem lineFeed_notMem_boundName (h : '\n' ∉ file.toList) : '\n' ∉ (boundName file).toList := by
  have hstem : '\n' ∉ dropEnding ending file.toList := fun hmem => h (mem_of_mem_dropEnding hmem)
  rw [boundName, String.toList_append, String.toList_ofList, List.mem_append, not_or]
  exact ⟨notMem_replaceChar (notMem_replaceChar (notMem_replaceChar hstem (by decide)) (by decide)) (by decide),
    by decide⟩

theorem lineFeed_notMem_importLine {ending name : String} (h : '\n' ∉ file.toList)
    (hending : '\n' ∉ ending.toList) (hname : '\n' ∉ name.toList) :
    '\n' ∉ (importLine file ending name).toList := by
  have hmodule := lineFeed_notMem_stemCode h
  have hpackage := lineFeed_notMem_dottedPackage h
  unfold importLine
  dsimp only
  split
  · simp [String.toList_append, hmodule, hending, hname]
  · simp [String.toList_append, hpackage, hmodule, hending, hname]

end LineBreaks

namespace Timestamp

theorem lineFeed_notMem_padded (width n : Nat) : '\n' ∉ (padded width n).toList := by
  have hdigits : '\n' ∉ Nat.toDigits 10 n := by
    intro hmem
    have hdigit : '\n'.isDigit := Nat.isDigit_of_mem_toDigits (by decide) (by decide) hmem
    exact absurd hdigit (by decide)
  simp [padded, String.toList_append, hdigits]

theorem lineFeed_notMem_text (t : Timestamp) : '\n' ∉ t.text.toList := by
  have hoffset : ∀ offset, '\n' ∉ (offsetText offset).toList := by
    intro offset
    unfold offsetText
    dsimp only
    split_ifs <;> simp [String.toList_append, lineFeed_notMem_padded]
  cases hknown : t.offset <;> simp [text, hknown, String.toList_append, lineFeed_notMem_padded, hoffset]

end Timestamp

def IsImport (line : String) : Prop := "import ".toList <+: line.toList ∨ "from ".toList <+: line.toList

theorem not_isImport {line : String} (himport : line.toList.head? ≠ some 'i')
    (hfrom : line.toList.head? ≠ some 'f') : ¬ IsImport line := by
  rintro (⟨rest, hrest⟩ | ⟨rest, hrest⟩)
  · rw [← hrest] at himport
    exact himport rfl
  · rw [← hrest] at hfrom
    exact hfrom rfl

def libraryLines : List String :=
  ["from __future__ import annotations", "", "from typing import Any, Optional, Sequence", "", "import grpc", "",
    "from grpcer.client import Client, Receiver, UnknownMethodError", ""]

/-- The lines of a module: a header, the imports, and a body. -/
def linesImporting (root : String) (header files body : List String) : List String :=
  header ++ libraryLines ++ [importLine root "_pb2" "pb", importLine root "_pb2_grpc" "pb_grpc"] ++
    files.map (fun file => importLine file "_pb2" (boundName file)) ++ body

namespace Adapter
variable {adapter : Adapter} {line : String}

theorem text_importLine (file ending name : String) :
    (ImportLine.mk (moduleName file ending) name).text = importLine file ending name := by
  have hfrom : ∀ s : String, " " ++ ("import " ++ s) = " import " ++ s := fun s => by
    rw [← String.append_assoc]
    rfl
  unfold ImportLine.text importLine moduleName
  dsimp only
  rw [← stemCode]
  split
  · rfl
  · simp only [String.append_assoc, hfrom]

theorem text_messages (file name : String) : (ImportLine.messages file name).text = importLine file "_pb2" name := by
  rw [ImportLine.messages, text_importLine, messagesEnding]

theorem text_stubs (file name : String) : (ImportLine.stubs file name).text = importLine file "_pb2_grpc" name := by
  rw [ImportLine.stubs, text_importLine, stubsEnding]

def headLines (adapter : Adapter) : List String :=
  (adapter.headerLines ++ [""]).flatMap linesOf

theorem importLines_eq (adapter : Adapter) :
    adapter.importLines = linesImporting adapter.file [] adapter.importedFiles [] := by
  have hfiles : adapter.importedFiles.map (ImportLine.text ∘ ImportLine.dependency) =
      adapter.importedFiles.map fun file => importLine file "_pb2" (boundName file) := by
    refine List.map_congr_left fun file _ => ?_
    rw [Function.comp_apply, ImportLine.dependency, text_messages]
  rw [importLines, imports, List.map_cons, List.map_cons, List.map_map, hfiles, text_messages, text_stubs,
    Reference.rootModule, Reference.rootStubModule, linesImporting, libraryLines]
  simp

theorem oneLine_importLines (hroot : '\n' ∉ adapter.file.toList)
    (hfiles : ∀ file ∈ adapter.importedFiles, '\n' ∉ file.toList) :
    ∀ line ∈ adapter.importLines, '\n' ∉ line.toList := by
  have hlibrary : ∀ line ∈ libraryLines, '\n' ∉ line.toList := by decide +kernel
  have hmessages := lineFeed_notMem_importLine hroot (show '\n' ∉ "_pb2".toList by decide)
    (show '\n' ∉ "pb".toList by decide)
  have hstubs := lineFeed_notMem_importLine hroot (show '\n' ∉ "_pb2_grpc".toList by decide)
    (show '\n' ∉ "pb_grpc".toList by decide)
  rw [importLines_eq, linesImporting, List.nil_append, List.append_nil]
  simp only [List.forall_mem_append, List.forall_mem_cons, List.forall_mem_map]
  refine ⟨⟨hlibrary, hmessages, hstubs, List.forall_mem_nil _⟩, fun file hfile => ?_⟩
  exact lineFeed_notMem_importLine (hfiles file hfile) (by decide) (lineFeed_notMem_boundName (hfiles file hfile))

theorem Printable.linesOf_text_importing (h : adapter.Printable) (hroot : '\n' ∉ adapter.file.toList)
    (hfiles : ∀ file ∈ adapter.importedFiles, '\n' ∉ file.toList) :
    linesOf adapter.text =
      linesImporting adapter.file adapter.headLines adapter.importedFiles adapter.bodyLines := by
  rw [h.linesOf_text, List.flatMap_append, flatMap_linesOf (oneLine_importLines hroot hfiles), importLines_eq]
  simp [headLines, linesImporting]

/-- What stands behind the root's imports. -/
def tailLines (adapter : Adapter) : List String :=
  adapter.importedFiles.map (fun file => importLine file "_pb2" (boundName file)) ++ adapter.bodyLines

theorem exists_linesOf_text (adapter : Adapter) : ∃ front, linesOf adapter.text =
    front ++ linesOf (importLine adapter.file "_pb2_grpc" "pb_grpc") ++ adapter.tailLines.flatMap linesOf := by
  have hlines : adapter.lines = adapter.headerLines ++ [""] ++ libraryLines ++ [importLine adapter.file "_pb2" "pb"] ++
      [importLine adapter.file "_pb2_grpc" "pb_grpc"] ++ adapter.tailLines := by
    rw [lines_eq, importLines_eq, linesImporting, tailLines]
    simp only [List.append_assoc, List.cons_append, List.nil_append]
  rw [text, linesOf_intercalate (by simp [lines]), hlines, List.flatMap_append, List.flatMap_append,
    List.flatMap_singleton]
  exact ⟨_, rfl⟩

theorem dependencyLine_mem_tailLines {file : String} (hfile : file ∈ adapter.importedFiles) :
    importLine file "_pb2" (boundName file) ∈ adapter.tailLines :=
  List.mem_append_left _ (List.mem_map_of_mem (f := fun file => importLine file "_pb2" (boundName file)) hfile)

theorem constructionLine_mem_tailLines {branch : Branch} (hbranch : branch ∈ adapter.branches) :
    branch.constructionLine ∈ adapter.tailLines := by
  have hinput : branch.constructionLine ∈ adapter.inputBlock :=
    List.mem_append_left _ (List.mem_flatMap.mpr ⟨branch, hbranch, by simp [Branch.inputLines_eq]⟩)
  rw [tailLines, bodyLines_eq]
  simp [hinput]

theorem not_isImport_of_mem_bodyLines (h : line ∈ adapter.bodyLines) : ¬ IsImport line := by
  rcases mem_bodyLines h with hheading | hblock
  · have htext := bodyText_headings line hheading
    exact not_isImport htext.not_import htext.not_from
  · cases hblock with
    | fixed hmem =>
      have htext := bodyText_fixedLines line hmem
      exact not_isImport htext.not_import htext.not_from
    | @opened opening rest hmem _ =>
      obtain ⟨hne, htext⟩ := bodyText_openings opening hmem
      refine not_isImport ?_ ?_ <;> rw [String.toList_append, List.head?_append_of_ne_nil _ hne]
      · exact htext.not_import
      · exact htext.not_from

theorem Printable.not_isImport_of_mem_headLines (h : adapter.Printable) (hroot : '\n' ∉ adapter.file.toList)
    (hpackage : '\n' ∉ adapter.package.toList) : ∀ line ∈ adapter.headLines, ¬ IsImport line := by
  have hgenerator : '\n' ∉ generatorName.toList := by decide
  have hlines : ∀ line ∈ adapter.headerLines ++ [""], '\n' ∉ line.toList ∧
      line.toList.head? ≠ some 'i' ∧ line.toList.head? ≠ some 'f' := by
    simp only [headerLines, List.forall_mem_append, List.forall_mem_cons]
    simp [String.toList_append, hroot, hpackage, hgenerator, lineFeed_notMem_identifier h.service,
      Timestamp.lineFeed_notMem_text]
  rw [headLines, flatMap_linesOf fun line hline => (hlines line hline).1]
  exact fun line hline => not_isImport (hlines line hline).2.1 (hlines line hline).2.2

end Adapter

namespace RenderJob
variable {job : RenderJob} {timestamp : Timestamp} {inputs : List (Method × TypeEntry)} {text file : String}

/-- The name of the root file has no line break, and neither has the name or the file of an input type. -/
structure NamesOneLine (job : RenderJob) : Prop where
  root : '\n' ∉ job.file.toList
  file : ∀ method ∈ job.service.methods, ∀ entry, job.types.resolve method.input = some entry →
    '\n' ∉ entry.fileName.toList
  type : ∀ method ∈ job.service.methods, ∀ entry, job.types.resolve method.input = some entry →
    '\n' ∉ entry.relativeName.toList

theorem NamesOneLine.foreign (h : job.NamesOneLine) (hfile : job.Foreign file) : '\n' ∉ file.toList := by
  obtain ⟨_, method, hmethod, entry, hentry, rfl⟩ := hfile
  exact h.file method hmethod entry hentry

theorem NamesOneLine.references (h : job.NamesOneLine) : job.ReferencesOneLine := by
  refine fun method hmethod entry hentry => ⟨?_, h.type method hmethod entry hentry⟩
  unfold Reference.ofEntry
  dsimp only
  split
  · decide
  · exact lineFeed_notMem_boundName (h.file method hmethod entry hentry)

theorem Resolves.namesOneLine (h : job.Resolves inputs) (hroot : '\n' ∉ job.file.toList)
    (hentries : ∀ input ∈ inputs, '\n' ∉ input.2.fileName.toList ∧ '\n' ∉ input.2.relativeName.toList) :
    job.NamesOneLine := by
  have hentry : ∀ method ∈ job.service.methods, ∀ entry, job.types.resolve method.input = some entry →
      '\n' ∉ entry.fileName.toList ∧ '\n' ∉ entry.relativeName.toList := by
    intro method hmethod entry hentry
    obtain ⟨_, hinput, hresolve⟩ := h.exists_entry hmethod
    cases hresolve.symm.trans hentry
    exact hentries _ hinput
  exact ⟨hroot, fun method hmethod entry hfound => (hentry method hmethod entry hfound).1,
    fun method hmethod entry hfound => (hentry method hmethod entry hfound).2⟩

theorem linesOf_assembled (hchecks : job.checkNames = .ok ()) (hinputs : job.Resolves inputs)
    (hnames : job.NamesOneLine) :
    linesOf (job.assembled timestamp inputs).text = linesImporting job.file
      (job.assembled timestamp inputs).headLines (job.assembled timestamp inputs).importedFiles
      (job.assembled timestamp inputs).bodyLines :=
  ((usable_of_checkNames hchecks).printable hinputs hnames.references).linesOf_text_importing hnames.root
    fun _ hfile => hnames.foreign (hinputs.mem_importedFiles.mp hfile)

theorem branches_assembled : (job.assembled timestamp inputs).branches =
    inputs.map fun input => ⟨input.1, Reference.ofEntry job.file input.2⟩ := rfl

/-- A reference to the input type of a method, through the root's own name or through that of an import. -/
def RefersTo (job : RenderJob) (files : List String) (method : Method) (reference : String) : Prop :=
  ∃ entry, job.types.resolve method.input = some entry ∧
    (entry.fileName = job.file ∧ reference = "pb." ++ entry.relativeName ∨
      entry.fileName ∈ files ∧ reference = boundName entry.fileName ++ "." ++ entry.relativeName)

theorem Resolves.refersTo (h : job.Resolves inputs) {input : Method × TypeEntry} (hinput : input ∈ inputs) :
    job.RefersTo (job.assembled timestamp inputs).importedFiles input.1 (Reference.ofEntry job.file input.2).code := by
  have hentry := h.entries input hinput
  refine ⟨input.2, hentry, ?_⟩
  by_cases hroot : input.2.fileName = job.file
  · refine Or.inl ⟨hroot, ?_⟩
    simp [Reference.code, Reference.ofEntry, hroot, Reference.rootModule]
  · refine Or.inr ⟨h.mem_importedFiles.mpr ⟨hroot, input.1, h.method_mem hinput, input.2, hentry, rfl⟩, ?_⟩
    simp [Reference.code, Reference.ofEntry, hroot]

/-- The imports of a rendered text: behind the root's own two there is a line for each file that defines an
input type, in the order of the directories, and there is none below. Each branch refers to its type by the
root's name or by the name of an import that is there. Other directories only put these lines in another order. -/
theorem imports_of_rendered (h : adapterRenderer timestamp job = .content text) (hnames : job.NamesOneLine) :
    ∃ header files body dispatch,
      linesOf text = linesImporting job.file header files body ∧
      (∀ line ∈ body, ¬ IsImport line) ∧
      ('\n' ∉ job.package.toList → ∀ line ∈ header, ¬ IsImport line) ∧
      files.Nodup ∧ (∀ file, file ∈ files ↔ job.Foreign file) ∧
      files.Pairwise (Precedes (directory job.file :: job.directories)) ∧
      read? text = some dispatch ∧
      List.Forall₂ (fun method branch => branch.1 = method.name ∧ job.RefersTo files method branch.2)
        job.service.methods dispatch.input.branches ∧
      List.Forall₂ (fun method branch => branch.1 = method.name ∧
          (branch.2.checked = none ∧ method.clientStreaming ∨
            ∃ reference, branch.2.checked = some reference ∧ job.RefersTo files method reference))
        job.service.methods dispatch.call.branches ∧
      ∀ directories, ∃ other reordered, adapterRenderer timestamp { job with directories } = .content other ∧
        reordered.Perm files ∧ linesOf other = linesImporting job.file header reordered body := by
  obtain ⟨hchecks, inputs, hentries, rfl⟩ := adapterRenderer_eq_content_iff.mp h
  have hinputs := resolves_of_inputEntries hentries
  have hprintable : (job.assembled timestamp inputs).Printable :=
    (usable_of_checkNames hchecks).printable hinputs hnames.references
  refine ⟨_, _, _, _, linesOf_assembled hchecks hinputs hnames, fun _ => Adapter.not_isImport_of_mem_bodyLines,
    fun hpackage => ?_, job.nodup_importedFiles timestamp inputs, fun _ => hinputs.mem_importedFiles,
    job.pairwise_importedFiles timestamp inputs, hprintable.read?_text, ?_, ?_, fun directories => ?_⟩
  · refine hprintable.not_isImport_of_mem_headLines hnames.root ?_
    unfold assembled
    dsimp only
    split
    · decide
    · exact hpackage
  · simp only [Adapter.dispatch, branches_assembled, hinputs.methods_eq, List.map_map, List.forall₂_map_left_iff,
      List.forall₂_map_right_iff, List.forall₂_same]
    exact fun input hinput => ⟨rfl, hinputs.refersTo hinput⟩
  · simp only [Adapter.dispatch, branches_assembled, hinputs.methods_eq, List.map_map, List.forall₂_map_left_iff,
      List.forall₂_map_right_iff, List.forall₂_same]
    refine fun input hinput => ⟨rfl, ?_⟩
    cases hstreaming : input.1.clientStreaming with
    | true => exact Or.inl ⟨if_pos hstreaming, rfl⟩
    | false => exact Or.inr ⟨_, if_neg (hstreaming ▸ Bool.false_ne_true), hinputs.refersTo hinput⟩
  · have hother : RenderJob.Resolves { job with directories } inputs := ⟨hinputs.methods_eq, hinputs.entries⟩
    refine ⟨_, _, adapterRenderer_eq_content_iff.mpr ⟨hchecks, inputs, hentries, rfl⟩,
      job.perm_importedFiles timestamp inputs directories, ?_⟩
    exact linesOf_assembled hchecks hother ⟨hnames.root, hnames.file, hnames.type⟩

/-- Types of the root, of its own directory, of a directory that is given twice, and of two others. -/
def scatteredTypes : RenderJob where
  package := ""
  file := "d/x.proto"
  service :=
    { name := "Feed"
      methods := [{ name := "Own", input := ".p.A", output := ".p.A" },
        { name := "Far", input := ".b.U", output := ".p.A" },
        { name := "Near", input := ".p.Y", output := ".p.A" },
        { name := "Again", input := ".b.U", output := ".p.A" },
        { name := "Given", input := ".c.W", output := ".p.A" },
        { name := "Last", input := ".a.V", output := ".p.A" }] }
  directories := ["c", "z", "c"]
  types := ⟨[(".p.A", some { fullName := ".p.A", fileName := "d/x.proto", package := "p" }),
    (".b.U", some { fullName := ".b.U", fileName := "b/u.proto", package := "b" }),
    (".p.Y", some { fullName := ".p.Y", fileName := "d/y.proto", package := "p" }),
    (".c.W", some { fullName := ".c.W", fileName := "c/w.proto", package := "c" }),
    (".a.V", some { fullName := ".a.V", fileName := "a_b/v-w.proto", package := "a" })]⟩

theorem imports_of_scatteredTypes : ∃ (text : String) (header body : List String),
    adapterRenderer .sample scatteredTypes = .content text ∧ scatteredTypes.NamesOneLine ∧
      linesOf text = header ++
        ["from __future__ import annotations", "", "from typing import Any, Optional, Sequence", "", "import grpc", "",
          "from grpcer.client import Client, Receiver, UnknownMethodError", "",
          "from d import x_pb2 as pb", "from d import x_pb2_grpc as pb_grpc",
          "from d import y_pb2 as d_dot_y__pb2", "from c import w_pb2 as c_dot_w__pb2",
          "from a_b import v_w_pb2 as a__b_dot_v_w__pb2", "from b import u_pb2 as b_dot_u__pb2"] ++ body ∧
      (∀ line ∈ header, ¬ IsImport line) ∧ ∀ line ∈ body, ¬ IsImport line := by
  have hchecks : scatteredTypes.checkNames = .ok () := by decide
  obtain ⟨inputs, hentries⟩ : ∃ inputs, scatteredTypes.inputEntries = .ok inputs := ⟨_, rfl⟩
  have hinputs := resolves_of_inputEntries hentries
  obtain ⟨text, hrendered⟩ : ∃ text, adapterRenderer .sample scatteredTypes = .content text :=
    ⟨_, adapterRenderer_eq_content_iff.mpr ⟨hchecks, inputs, hentries, rfl⟩⟩
  have hnames : scatteredTypes.NamesOneLine := by
    refine hinputs.namesOneLine (by decide) ?_
    cases hentries
    decide
  obtain ⟨header, files, body, _, hlines, hbody, hheader, _, hmem, hpairwise, _⟩ := imports_of_rendered hrendered hnames
  have hforeign : ∀ file, scatteredTypes.Foreign file ↔
      file ∈ ["d/y.proto", "c/w.proto", "a_b/v-w.proto", "b/u.proto"] := by
    intro file
    rw [← hinputs.mem_foreignFiles]
    cases hentries
    rw [foreignFiles, mem_sortedDistinct]
    simp [scatteredTypes]
    grind
  have hfiles : files = ["d/y.proto", "c/w.proto", "a_b/v-w.proto", "b/u.proto"] := by
    refine hpairwise.eq_of_mem_iff ?_ fun file => (hmem file).trans (hforeign file)
    decide
  refine ⟨text, header, body, hrendered, hnames, ?_, hheader (by decide), hbody⟩
  have hroot : importLine scatteredTypes.file "_pb2" "pb" = "from d import x_pb2 as pb" ∧
      importLine scatteredTypes.file "_pb2_grpc" "pb_grpc" = "from d import x_pb2_grpc as pb_grpc" := by
    decide +kernel
  have himported : files.map (fun file => importLine file "_pb2" (boundName file)) =
      ["from d import y_pb2 as d_dot_y__pb2", "from c import w_pb2 as c_dot_w__pb2",
        "from a_b import v_w_pb2 as a__b_dot_v_w__pb2", "from b import u_pb2 as b_dot_u__pb2"] := by
    rw [hfiles]
    decide +kernel
  rw [hlines, linesImporting, himported, hroot.1, hroot.2, libraryLines]
  simp

/-- One method, with the name and the file of its input type. -/
def takingOne (file typeFile typeName : String) : RenderJob where
  package := ""
  file := file
  service := { name := "Feed", methods := [{ name := "Get", input := ".M", output := ".M" }] }
  directories := []
  types := ⟨[(".M", some { fullName := typeName, fileName := typeFile, package := "" })]⟩

def inputsOfOne (typeFile typeName : String) : List (Method × TypeEntry) :=
  [({ name := "Get", input := ".M", output := ".M" }, { fullName := typeName, fileName := typeFile, package := "" })]

theorem resolves_takingOne (root typeFile typeName : String) :
    (takingOne root typeFile typeName).Resolves (inputsOfOne typeFile typeName) :=
  resolves_of_inputEntries rfl

theorem foreign_takingOne {root typeFile typeName : String} :
    (takingOne root typeFile typeName).Foreign file ↔ file ≠ root ∧ file = typeFile := by
  rw [← (resolves_takingOne root typeFile typeName).mem_foreignFiles, foreignFiles, mem_sortedDistinct,
    List.mem_filter, decide_eq_true_eq, and_comm]
  simp [takingOne, inputsOfOne]

theorem adapterRenderer_takingOne (root typeFile typeName : String) :
    adapterRenderer .sample (takingOne root typeFile typeName) = .content
      ((takingOne root typeFile typeName).assembled .sample (inputsOfOne typeFile typeName)).text := by
  have hservice : isUsableName "Feed" ∧ isUsableName "Get" := by decide
  have hchecks : (takingOne root typeFile typeName).checkNames = .ok () := by
    refine checkNames_eq_ok hservice.1 fun method hmethod => ?_
    rw [List.mem_singleton.mp hmethod]
    exact hservice.2
  exact adapterRenderer_eq_content_iff.mpr ⟨hchecks, _, rfl, rfl⟩

/-- Behind the root's imports a line imports a file that no input type is from. -/
def ImportsNeedlessly (job : RenderJob) (file : String) : Prop :=
  ¬ job.Foreign file ∧ ∃ text front back, adapterRenderer .sample job = .content text ∧
    linesOf text = front ++ linesOf (importLine job.file "_pb2_grpc" "pb_grpc") ++ back ∧
    importLine file "_pb2" (boundName file) ∈ back

theorem importsNeedlessly_takingOne {root typeFile typeName : String} (hfile : typeFile ≠ file) (line : String)
    (hline : line ∈ ((takingOne root typeFile typeName).assembled .sample (inputsOfOne typeFile typeName)).tailLines)
    (hpart : importLine file "_pb2" (boundName file) ∈ linesOf line) :
    (takingOne root typeFile typeName).ImportsNeedlessly file := by
  obtain ⟨front, hlines⟩ := Adapter.exists_linesOf_text
    ((takingOne root typeFile typeName).assembled .sample (inputsOfOne typeFile typeName))
  exact ⟨fun hforeign => hfile (foreign_takingOne.mp hforeign).2.symm, _, front, _,
    adapterRenderer_takingOne root typeFile typeName, hlines, List.mem_flatMap.mpr ⟨line, hline, hpart⟩⟩

/-- With a line break in the file of an input type or in its name, a line of the text can be an import for a
file that no input type is from. With one in the root file the root's import is no line of the text. -/
theorem imports_of_brokenNames :
    (takingOne "x.proto" "a\nimport b_pb2 as b__pb2\nc.proto" ".M").ImportsNeedlessly "b.proto" ∧
    (takingOne "x.proto" "x.proto" ".M\nimport b_pb2 as b__pb2\nN").ImportsNeedlessly "b.proto" ∧
    ∃ text, adapterRenderer .sample (takingOne "a\nx.proto" "x.proto" ".M") = .content text ∧
      importLine "a\nx.proto" "_pb2" "pb" ∉ linesOf text := by
  refine ⟨?_, ?_, _, adapterRenderer_takingOne _ _ _, fun hline => ?_⟩
  · have hforeign : (takingOne "x.proto" "a\nimport b_pb2 as b__pb2\nc.proto" ".M").Foreign
        "a\nimport b_pb2 as b__pb2\nc.proto" := foreign_takingOne.mpr ⟨by decide, rfl⟩
    exact importsNeedlessly_takingOne (by decide) _ (Adapter.dependencyLine_mem_tailLines
      ((resolves_takingOne _ _ _).mem_importedFiles.mpr hforeign)) (by decide +kernel)
  · exact importsNeedlessly_takingOne (by decide) _
      (Adapter.constructionLine_mem_tailLines (List.mem_singleton_self _)) (by decide +kernel)
  · obtain ⟨letters, hletters, hname⟩ := List.mem_map.mp hline
    have hbreak : '\n' ∉ letters := notMem_of_mem_split hletters
    rw [← String.toList_ofList (l := letters), hname] at hbreak
    exact hbreak (by decide +kernel)

end RenderJob
end DispatchGen
