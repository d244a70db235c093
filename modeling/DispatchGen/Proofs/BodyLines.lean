import DispatchGen.Proofs.Assembly
import DispatchGen.Proofs.DispatchReader

/-! # Lines of a module's body

Behind the imports a module is made of fixed lines and of lines with a fixed opening and a rest that
depends on the service. File names do not come into it, and the rest has no line break when names are
identifiers and references are on one line.
-/
namespace DispatchGen
open Text Dispatch

def Dispatch.headings : List String := [tableHeading, inputHeading, callHeading]

/-- On one line, and told from an import, which opens with `import` or `from`. -/
structure IsBodyText (letters : List Char) : Prop where
  oneLine : '\n' ∉ letters
  not_import : letters.head? ≠ some 'i'
  not_from : letters.head? ≠ some 'f'

instance : DecidablePred IsBodyText := fun letters =>
  decidable_of_iff ('\n' ∉ letters ∧ letters.head? ≠ some 'i' ∧ letters.head? ≠ some 'f')
    ⟨fun ⟨hline, himport, hfrom⟩ => ⟨hline, himport, hfrom⟩, fun ⟨hline, himport, hfrom⟩ => ⟨hline, himport, hfrom⟩⟩

structure Reference.OneLine (reference : Reference) : Prop where
  boundModule : '\n' ∉ reference.boundModule.toList
  typePath : '\n' ∉ reference.typePath.toList

theorem Reference.OneLine.code {reference : Reference} (h : reference.OneLine) :
    '\n' ∉ reference.code.toList := by
  simp [Reference.code, String.toList_append, h.boundModule, h.typePath]

theorem Text.lineFeed_notMem_identifier {name : String} (h : isIdentifier name.toList) : '\n' ∉ name.toList :=
  notMem_of_isIdentifier h (by decide)

namespace Branch
variable {branch : Branch} {line : String}

/-- Fit to be printed: the method's name is an identifier and the reference is on one line. -/
structure Printable (branch : Branch) : Prop where
  name : isIdentifier branch.method.name.toList
  reference : branch.reference.OneLine

/-- What the lines under a test open with. -/
def innerOpenings : List String :=
  ["            return ", "            if not isinstance(request, ", "                raise TypeError(f\""]

/-- A line under a test, told by its opening. -/
def IsInnerLine (branch : Branch) (line : String) : Prop :=
  ∃ opening ∈ innerOpenings, ∃ rest : String, (branch.Printable → '\n' ∉ rest.toList) ∧ line = opening ++ rest

def constructionLine (branch : Branch) : String :=
  "            return " ++ branch.reference.code ++ "()"

def returnLine (branch : Branch) : String :=
  "            return " ++ branch.receiver ++ "(self._stub." ++ branch.method.name ++ "(request, **options))"

theorem inputLines_eq (branch : Branch) : branch.inputLines = branch.testLine :: [branch.constructionLine] := rfl

theorem callLines_eq (branch : Branch) :
    branch.callLines = branch.testLine :: (branch.checkLines ++ [branch.returnLine]) := rfl

theorem isInnerLine_constructionLine : branch.IsInnerLine branch.constructionLine := by
  refine ⟨"            return ", by simp [innerOpenings], branch.reference.code ++ "()", fun h => ?_,
    String.append_assoc⟩
  simp [String.toList_append, h.reference.code]

theorem isInnerLine_returnLine : branch.IsInnerLine branch.returnLine := by
  have hreceiver : '\n' ∉ branch.receiver.toList := by
    unfold receiver
    split <;> decide
  unfold returnLine
  simp only [String.append_assoc]
  refine ⟨"            return ", by simp [innerOpenings], _, fun h => ?_, rfl⟩
  simp [String.toList_append, hreceiver, lineFeed_notMem_identifier h.name]

theorem isInnerLine_of_mem_checkLines (h : line ∈ branch.checkLines) : branch.IsInnerLine line := by
  unfold checkLines at h
  split at h
  next => cases h
  next =>
    rcases List.mem_cons.mp h with rfl | hfailure
    · refine ⟨"            if not isinstance(request, ", by simp [innerOpenings], branch.reference.code ++ "):",
        fun hbranch => ?_, String.append_assoc⟩
      simp [String.toList_append, hbranch.reference.code]
    · rw [List.mem_singleton.mp hfailure]
      simp only [String.append_assoc]
      refine ⟨"                raise TypeError(f\"", by simp [innerOpenings], _, fun hbranch => ?_, rfl⟩
      simp [String.toList_append, lineFeed_notMem_identifier hbranch.name, hbranch.reference.typePath]

theorem isInnerLine_call (h : line ∈ branch.checkLines ++ [branch.returnLine]) : branch.IsInnerLine line := by
  rcases List.mem_append.mp h with hcheck | hreturn
  · exact isInnerLine_of_mem_checkLines hcheck
  · exact List.mem_singleton.mp hreturn ▸ isInnerLine_returnLine

end Branch

namespace Adapter
variable {adapter : Adapter} {branch : Branch} {line : String}

structure Printable (adapter : Adapter) : Prop where
  service : isIdentifier adapter.service.toList
  branches : ∀ branch ∈ adapter.branches, branch.Printable

/-- The lines from one heading to the next. -/
def tableBlock (adapter : Adapter) : List String :=
  adapter.branches.map (fun branch => "    \"" ++ branch.method.name ++ "\",") ++ ")" ::
    (["", ""] ++ receiverLines ++ ["", ""] ++ adapter.openingLines)

def inputBlock (adapter : Adapter) : List String :=
  adapter.branches.flatMap Branch.inputLines ++ "        return None" :: [""]

def callBlock (adapter : Adapter) : List String :=
  adapter.branches.flatMap Branch.callLines ++ "        raise UnknownMethodError(name)" ::
    (["", ""] ++ adapter.closingLines)

theorem bodyLines_eq (adapter : Adapter) : adapter.bodyLines =
    "" :: tableHeading :: (adapter.tableBlock ++ inputHeading :: (adapter.inputBlock ++
      callHeading :: adapter.callBlock)) := by
  simp only [bodyLines, tableLines, classLines, inputLines, callLines, tableBlock, inputBlock, callBlock,
    List.append_assoc, List.cons_append, List.nil_append]
  rfl

def fixedLines : List String :=
  receiverLines ++ ["", ")", "    def __init__(self, channel: grpc.Channel) -> None:",
    "    def methods(self) -> Sequence[str]:", "        return _METHODS", "        return None",
    "        raise UnknownMethodError(name)", "def new_client(channel: grpc.Channel) -> Client:"]

def openings : List String :=
  ["    \"", "class ", "        self._stub = ", "        if name == \"", "    return "] ++ Branch.innerOpenings

/-- How a line between the headings comes about. -/
inductive IsBlockLine (adapter : Adapter) : String → Prop
  | fixed {line : String} (h : line ∈ fixedLines) : IsBlockLine adapter line
  | opened {opening rest : String} (h : opening ∈ openings) (hrest : adapter.Printable → '\n' ∉ rest.toList) :
      IsBlockLine adapter (opening ++ rest)

theorem isBlockLine_of_isInnerLine (hbranch : branch ∈ adapter.branches) (h : branch.IsInnerLine line) :
    adapter.IsBlockLine line := by
  obtain ⟨opening, hopening, rest, hrest, rfl⟩ := h
  exact .opened (List.mem_append_right _ hopening) fun hadapter => hrest (hadapter.branches branch hbranch)

theorem isBlockLine_testLine (hbranch : branch ∈ adapter.branches) : adapter.IsBlockLine branch.testLine := by
  unfold Branch.testLine
  rw [String.append_assoc]
  refine .opened (by simp [openings]) fun hadapter => ?_
  simp [String.toList_append, lineFeed_notMem_identifier (hadapter.branches branch hbranch).name]

theorem isBlockLine_of_mem_inputLines (hbranch : branch ∈ adapter.branches) (h : line ∈ branch.inputLines) :
    adapter.IsBlockLine line := by
  rcases List.mem_cons.mp (branch.inputLines_eq ▸ h) with rfl | hinner
  · exact isBlockLine_testLine hbranch
  · rw [List.mem_singleton.mp hinner]
    exact isBlockLine_of_isInnerLine hbranch Branch.isInnerLine_constructionLine

theorem isBlockLine_of_mem_callLines (hbranch : branch ∈ adapter.branches) (h : line ∈ branch.callLines) :
    adapter.IsBlockLine line := by
  rcases List.mem_cons.mp (branch.callLines_eq ▸ h) with rfl | hinner
  · exact isBlockLine_testLine hbranch
  · exact isBlockLine_of_isInnerLine hbranch (Branch.isInnerLine_call hinner)

theorem isBlockLine_of_mem_openingLines (h : line ∈ adapter.openingLines) : adapter.IsBlockLine line := by
  have hclass : adapter.IsBlockLine ("class " ++ (className adapter.service ++ "(Client):")) :=
    .opened (by simp [openings]) fun hadapter => by
      simp [className, String.toList_append, lineFeed_notMem_identifier hadapter.service]
  have hstub : adapter.IsBlockLine ("        self._stub = " ++
      (Reference.rootStubModule ++ "." ++ adapter.service ++ "Stub(channel)")) :=
    .opened (by simp [openings]) fun hadapter => by
      simp [Reference.rootStubModule, String.toList_append, lineFeed_notMem_identifier hadapter.service]
  simp only [openingLines, List.mem_cons, List.not_mem_nil, or_false, String.append_assoc] at h hclass hstub
  rcases h with rfl | rfl | rfl | rfl | rfl | rfl | rfl
  · exact hclass
  · exact .fixed (by simp [fixedLines])
  · exact hstub
  all_goals exact .fixed (by simp [fixedLines])

theorem isBlockLine_of_mem_closingLines (h : line ∈ adapter.closingLines) : adapter.IsBlockLine line := by
  have hreturn : adapter.IsBlockLine ("    return " ++ (className adapter.service ++ "(channel)")) :=
    .opened (by simp [openings]) fun hadapter => by
      simp [className, String.toList_append, lineFeed_notMem_identifier hadapter.service]
  simp only [closingLines, List.mem_cons, List.not_mem_nil, or_false, String.append_assoc] at h hreturn
  rcases h with rfl | rfl | rfl
  · exact .fixed (by simp [fixedLines])
  · exact hreturn
  · exact .fixed (by simp [fixedLines])

theorem isBlockLine_of_mem_tableBlock (h : line ∈ adapter.tableBlock) : adapter.IsBlockLine line := by
  simp only [tableBlock, List.mem_append, List.mem_cons, List.not_mem_nil, or_false, or_self] at h
  rcases h with hname | rfl | ((rfl | hreceiver) | rfl) | hopening
  · obtain ⟨branch, hbranch, rfl⟩ := List.mem_map.mp hname
    rw [String.append_assoc]
    refine .opened (by simp [openings]) fun hadapter => ?_
    simp [String.toList_append, lineFeed_notMem_identifier (hadapter.branches branch hbranch).name]
  · exact .fixed (by simp [fixedLines])
  · exact .fixed (by simp [fixedLines])
  · exact .fixed (List.mem_append_left _ hreceiver)
  · exact .fixed (by simp [fixedLines])
  · exact isBlockLine_of_mem_openingLines hopening

theorem isBlockLine_of_mem_inputBlock (h : line ∈ adapter.inputBlock) : adapter.IsBlockLine line := by
  simp only [inputBlock, List.mem_append, List.mem_cons, List.not_mem_nil, or_false] at h
  rcases h with hline | rfl | rfl
  · obtain ⟨branch, hbranch, hline⟩ := List.mem_flatMap.mp hline
    exact isBlockLine_of_mem_inputLines hbranch hline
  · exact .fixed (by simp [fixedLines])
  · exact .fixed (by simp [fixedLines])

theorem isBlockLine_of_mem_callBlock (h : line ∈ adapter.callBlock) : adapter.IsBlockLine line := by
  simp only [callBlock, List.mem_append, List.mem_cons, List.not_mem_nil, or_false, or_self] at h
  rcases h with hline | rfl | rfl | hclosing
  · obtain ⟨branch, hbranch, hline⟩ := List.mem_flatMap.mp hline
    exact isBlockLine_of_mem_callLines hbranch hline
  · exact .fixed (by simp [fixedLines])
  · exact .fixed (by simp [fixedLines])
  · exact isBlockLine_of_mem_closingLines hclosing

-- A literal's letters are read off it by `toList_ofList`; to decode its bytes would take far longer.

theorem bodyText_headings : ∀ heading ∈ headings, IsBodyText heading.toList := by
  simp only [headings, tableHeading, inputHeading, callHeading, List.forall_mem_cons]
  repeat' apply And.intro
  all_goals first | exact List.forall_mem_nil _ | (rw [String.toList_ofList]; decide)

theorem bodyText_fixedLines : ∀ line ∈ fixedLines, IsBodyText line.toList := by
  simp only [fixedLines, receiverLines, List.forall_mem_append, List.forall_mem_cons]
  repeat' apply And.intro
  all_goals first | exact List.forall_mem_nil _ | (rw [String.toList_ofList]; decide)

theorem bodyText_openings : ∀ opening ∈ openings, opening.toList ≠ [] ∧ IsBodyText opening.toList := by
  simp only [openings, Branch.innerOpenings, List.forall_mem_append, List.forall_mem_cons]
  repeat' apply And.intro
  all_goals first | exact List.forall_mem_nil _ | (rw [String.toList_ofList]; decide)

/-- A body has three headings, an empty line before them, and block lines. -/
theorem mem_bodyLines (h : line ∈ adapter.bodyLines) :
    line ∈ headings ∨ adapter.IsBlockLine line := by
  rw [bodyLines_eq] at h
  simp only [headings, List.mem_cons, List.mem_append, List.not_mem_nil, or_false] at h ⊢
  rcases h with rfl | h | h | h | h | h | h
  · exact Or.inr (.fixed (by simp [fixedLines]))
  · exact Or.inl (Or.inl h)
  · exact Or.inr (isBlockLine_of_mem_tableBlock h)
  · exact Or.inl (Or.inr (Or.inl h))
  · exact Or.inr (isBlockLine_of_mem_inputBlock h)
  · exact Or.inl (Or.inr (Or.inr h))
  · exact Or.inr (isBlockLine_of_mem_callBlock h)

end Adapter
end DispatchGen
