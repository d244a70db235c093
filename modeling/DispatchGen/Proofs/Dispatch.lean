import DispatchGen.Proofs.BodyLines
import DispatchGen.Proofs.LastComponent

/-! # Dispatch of rendered adapters

A rendered text is read back as dispatch. The names of a rendered adapter are identifiers, so no quote
ends early and no line of one part passes for a line of another; the header and the imports, where
file names stand as they are, come before everything that is read.
-/
namespace DispatchGen
open Text

namespace Dispatch
variable {opening ending heading line : String} {back : List String}

theorem between?_append (opening ending name : String) :
    between? opening ending (opening ++ name ++ ending) = some name := by
  have hrest : (opening ++ name ++ ending).toList.drop opening.toList.length = name.toList ++ ending.toList := by
    simp [String.toList_append]
  have hopening : opening.toList <+: (opening ++ name ++ ending).toList := by
    simp [String.toList_append]
  rw [between?, hrest, if_pos ⟨hopening, List.suffix_append _ _⟩]
  simp

/-- A line told from another by what it opens with. -/
theorem append_ne {other : String} (h : ¬ opening.toList <+: other.toList) (s : String) :
    opening ++ s ≠ other := by
  rintro rfl
  exact h (by simp [String.toList_append])

theorem not_prefix_append {other : String} (hlength : other.toList.length ≤ opening.toList.length)
    (h : ¬ other.toList <+: opening.toList) (s : String) : ¬ other.toList <+: (opening ++ s).toList := by
  intro hother
  rw [String.toList_append] at hother
  exact h (List.prefix_of_prefix_length_le hother (List.prefix_append _ _) hlength)

theorem isInner_append (h : isInner opening) (s : String) : isInner (opening ++ s) := by
  rw [isInner, List.isPrefixOf_iff_prefix] at h ⊢
  rw [String.toList_append]
  exact h.trans (List.prefix_append _ _)

theorem not_isInner_append (hlength : 12 ≤ opening.toList.length) (h : ¬ isInner opening) (s : String) :
    ¬ isInner (opening ++ s) := by
  rw [isInner, List.isPrefixOf_iff_prefix] at h ⊢
  exact not_prefix_append (by simpa using hlength) h s

theorem behindLast?_eq_some (front : List String) (h : heading ∉ back) :
    behindLast? heading (front ++ heading :: back) = some back := by
  have hback : ∀ line ∈ back.reverse, decide (line ≠ heading) = true := by
    intro line hline
    exact decide_eq_true fun heq => h (heq ▸ List.mem_reverse.mp hline)
  have hreverse : (front ++ heading :: back).reverse = back.reverse ++ heading :: front.reverse := by simp
  rw [behindLast?, if_pos (by simp), hreverse, List.takeWhile_append_of_pos hback]
  simp

theorem linesOf_append (s t : String) : linesOf (s ++ "\n" ++ t) = linesOf s ++ linesOf t := by
  have hbreak : (s ++ "\n" ++ t).toList = s.toList ++ '\n' :: t.toList := by simp [String.toList_append]
  rw [linesOf, hbreak, split_append_sep, List.map_append]
  rfl

theorem linesOf_of_oneLine (h : '\n' ∉ line.toList) : linesOf line = [line] := by
  rw [linesOf, split_of_not_mem h]
  simp

theorem linesOf_intercalate {lines : List String} (hne : lines ≠ []) :
    linesOf ("\n".intercalate lines) = lines.flatMap linesOf := by
  induction lines with
  | nil => exact absurd rfl hne
  | cons line rest ih =>
    cases rest with
    | nil => simp
    | cons next rest =>
      rw [String.intercalate_cons_cons, linesOf_append, ih (List.cons_ne_nil _ _)]
      exact List.flatMap_cons.symm

theorem flatMap_linesOf {lines : List String} (h : ∀ line ∈ lines, '\n' ∉ line.toList) :
    lines.flatMap linesOf = lines := by
  induction lines with
  | nil => rfl
  | cons line rest ih =>
    rw [List.forall_mem_cons] at h
    rw [List.flatMap_cons, linesOf_of_oneLine h.1, ih h.2, List.singleton_append]

theorem readTable_map {names : List String} (h : ∀ name ∈ names, isPlain name) (rest : List String) :
    readTable (names.map (fun name => "    \"" ++ name ++ "\",") ++ ")" :: rest) = some names := by
  induction names with
  | nil => rfl
  | cons name names ih =>
    have hne : "    \"" ++ name ++ "\"," ≠ ")" := by
      rw [String.append_assoc]
      exact append_ne (by decide) _
    have hname : listedName? ("    \"" ++ name ++ "\",") = some name := by
      rw [listedName?, between?_append, Option.filter_some, if_pos (h name (List.mem_cons_self ..))]
    have hnames := ih fun other ho => h other (List.mem_cons_of_mem _ ho)
    rw [List.map_cons, List.cons_append, readTable, if_neg hne, hname, hnames]

section Chains
variable {α β : Type} {readBranch : List String → Option α}

/-- How the lines of one branch read: the line of its test, and the lines under it. -/
structure Reads (readBranch : List String → Option α) (test : String) (inner : List String) (name : String)
    (branch : α) : Prop where
  tested : testedName? test = some name
  outer : ¬ isInner test
  further : ∀ line ∈ inner, isInner line
  read : readBranch inner = some branch

theorem Reads.readChain_cons {test next name : String} {inner rest : List String} {branch : α} {chain : Chain α}
    (h : Reads readBranch test inner name branch) (hnext : ¬ isInner next)
    (hrest : readChain readBranch (next :: rest) = some chain) :
    readChain readBranch (test :: (inner ++ next :: rest)) =
      some ⟨(name, branch) :: chain.branches, chain.ending⟩ := by
  have htake : (inner ++ next :: rest).takeWhile isInner = inner := by
    rw [List.takeWhile_append_of_pos h.further, List.takeWhile_cons_of_neg hnext, List.append_nil]
  have hdrop : (inner ++ next :: rest).dropWhile isInner = next :: rest := by
    rw [List.dropWhile_append_of_pos h.further, List.dropWhile_cons_of_neg hnext]
  rw [readChain, h.tested]
  simp only [htake, hdrop, h.read, hrest]

theorem readChain_flatMap {items : List β} {test : β → String} {inner : β → List String} {name : β → String}
    {branch : β → α} (h : ∀ item ∈ items, Reads readBranch (test item) (inner item) (name item) (branch item))
    (hending : testedName? ending = none) (houter : ¬ isInner ending) (rest : List String) :
    readChain readBranch (items.flatMap (fun item => test item :: inner item) ++ ending :: rest) =
      some ⟨items.map fun item => (name item, branch item), ending⟩ := by
  induction items with
  | nil =>
    rw [List.flatMap_nil, List.nil_append, readChain, hending]
    rfl
  | cons item items ih =>
    have hitem := h item (List.mem_cons_self ..)
    have hitems := ih fun other ho => h other (List.mem_cons_of_mem _ ho)
    rw [List.flatMap_cons, List.append_assoc, List.cons_append]
    cases items with
    | nil => exact hitem.readChain_cons houter hitems
    | cons next items => exact hitem.readChain_cons (h next (by simp)).outer hitems

end Chains

/-- A line of its own that opens no part. -/
abbrev Inert (line : String) : Prop := '\n' ∉ line.toList ∧ line ∉ headings

theorem inert_append (hbreak : '\n' ∉ opening.toList)
    (hopening : ∀ heading ∈ headings, ¬ opening.toList <+: heading.toList) {s : String} (hs : '\n' ∉ s.toList) :
    Inert (opening ++ s) := by
  constructor
  · simp [String.toList_append, hbreak, hs]
  · intro hmem
    exact append_ne (hopening _ hmem) s rfl

end Dispatch

namespace Branch
open Dispatch
variable {branch : Branch}

def stubCall (branch : Branch) : StubCall where
  checked := if branch.method.clientStreaming then none else some branch.reference.code
  receiver := branch.receiver
  stubMethod := branch.method.name

theorem Printable.name_plain (h : branch.Printable) : isPlain branch.method.name := by
  have hquote : '"' ∉ branch.method.name.toList := notMem_of_isIdentifier h.name (by decide)
  have hescape : '\\' ∉ branch.method.name.toList := notMem_of_isIdentifier h.name (by decide)
  rw [isPlain, List.all_eq_true]
  intro c hc
  refine decide_eq_true ⟨?_, ?_⟩
  · rintro rfl
    exact hquote hc
  · rintro rfl
    exact hescape hc

theorem Printable.testedName?_testLine (h : branch.Printable) :
    testedName? branch.testLine = some branch.method.name := by
  unfold testedName? testLine
  rw [between?_append, Option.filter_some, if_pos h.name_plain]

theorem not_isInner_testLine : ¬ isInner branch.testLine := by
  unfold testLine
  rw [String.append_assoc]
  exact not_isInner_append (by decide) (by decide) _

theorem Printable.readReturn_eq (h : branch.Printable) :
    readReturn branch.returnLine = some (branch.receiver, branch.method.name) := by
  have hname : ∀ receiver : String, between? ("            return " ++ receiver ++ "(self._stub.")
      "(request, **options))" ("            return " ++ receiver ++ "(self._stub." ++ branch.method.name ++
        "(request, **options))") = some branch.method.name := fun _ => between?_append _ _ _
  have hother : between? ("            return " ++ "_OnceReceiver" ++ "(self._stub.") "(request, **options))"
      ("            return " ++ "_StreamReceiver" ++ "(self._stub." ++ branch.method.name ++
        "(request, **options))") = none := by
    have hopening := @not_prefix_append ("            return " ++ "_StreamReceiver" ++ "(self._stub.")
      ("            return " ++ "_OnceReceiver" ++ "(self._stub.") (by decide) (by decide)
      (branch.method.name ++ "(request, **options))")
    rw [← String.append_assoc] at hopening
    rw [between?, if_neg fun h => hopening h.1]
  unfold returnLine receiver readReturn receivers
  cases branch.method.serverStreaming with
  | false =>
    rw [if_neg Bool.false_ne_true, List.findSome?_cons, hname, Option.filter_some, if_pos h.name]
    rfl
  | true =>
    rw [if_pos rfl, List.findSome?_cons, hother, Option.filter_none, Option.map_none, List.findSome?_cons,
      hname, Option.filter_some, if_pos h.name]
    rfl

theorem isInner_of_isInnerLine {line : String} (h : branch.IsInnerLine line) : isInner line := by
  have hopenings : ∀ opening ∈ innerOpenings, isInner opening := by decide
  obtain ⟨opening, hopening, rest, _, rfl⟩ := h
  exact isInner_append (hopenings opening hopening) rest

theorem Printable.reads_input (h : branch.Printable) :
    Reads readConstruction branch.testLine [branch.constructionLine] branch.method.name branch.reference.code where
  tested := h.testedName?_testLine
  outer := not_isInner_testLine
  further _ hline := List.mem_singleton.mp hline ▸ isInner_of_isInnerLine isInnerLine_constructionLine
  read := between?_append _ _ _

theorem Printable.reads_call (h : branch.Printable) :
    Reads readCall branch.testLine (branch.checkLines ++ [branch.returnLine]) branch.method.name
      branch.stubCall where
  tested := h.testedName?_testLine
  outer := not_isInner_testLine
  further line hline := isInner_of_isInnerLine (isInnerLine_call hline)
  read := by
    unfold checkLines stubCall
    cases branch.method.clientStreaming with
    | true =>
      rw [if_pos rfl, if_pos rfl, List.nil_append, readCall, h.readReturn_eq]
      rfl
    | false =>
      have hfailure : "                raise TypeError(".toList <+:
          ("                raise TypeError(f\"" ++ branch.method.name ++ " expects " ++
            branch.reference.typePath ++ ", got \x7btype(request).__name__\x7d\")").toList := by
        simp only [String.append_assoc, String.toList_append]
        exact List.IsPrefix.trans (by decide) (List.prefix_append _ _)
      rw [if_neg Bool.false_ne_true, if_neg Bool.false_ne_true, List.cons_append, List.cons_append,
        List.nil_append, readCall, if_pos hfailure, between?_append, h.readReturn_eq]

end Branch

namespace Adapter
open Dispatch

def dispatch (adapter : Adapter) : Dispatch where
  table := adapter.branches.map fun branch => branch.method.name
  input := ⟨adapter.branches.map fun branch => (branch.method.name, branch.reference.code), "        return None"⟩
  call := ⟨adapter.branches.map fun branch => (branch.method.name, branch.stubCall),
    "        raise UnknownMethodError(name)"⟩

variable {adapter : Adapter}

theorem fixedLines_ne_heading : ∀ line ∈ fixedLines, line ∉ headings := by decide

theorem openings_not_heading : ∀ opening ∈ openings, ∀ heading ∈ headings, ¬ opening.toList <+: heading.toList := by
  simp only [openings, Branch.innerOpenings, headings, tableHeading, inputHeading, callHeading,
    List.forall_mem_append, List.forall_mem_cons]
  repeat' apply And.intro
  all_goals first | exact List.forall_mem_nil _ | (rw [String.toList_ofList, String.toList_ofList]; decide)

theorem IsBlockLine.inert {line : String} (h : adapter.IsBlockLine line) (hadapter : adapter.Printable) :
    Inert line := by
  cases h with
  | fixed hmem => exact ⟨(bodyText_fixedLines _ hmem).oneLine, fixedLines_ne_heading _ hmem⟩
  | opened hmem hrest =>
    exact inert_append (bodyText_openings _ hmem).2.oneLine (openings_not_heading _ hmem) (hrest hadapter)

theorem Printable.oneLine_bodyLines (h : adapter.Printable) : ∀ line ∈ adapter.bodyLines, '\n' ∉ line.toList := by
  intro line hline
  rcases mem_bodyLines hline with hheading | hblock
  · exact (bodyText_headings line hheading).oneLine
  · exact (hblock.inert h).1

theorem Printable.heading_notMem (h : adapter.Printable) {heading : String} (hheading : heading ∈ headings) :
    heading ∉ adapter.tableBlock ∧ heading ∉ adapter.inputBlock ∧ heading ∉ adapter.callBlock := by
  have hblock : ∀ {lines : List String}, (∀ line ∈ lines, adapter.IsBlockLine line) → heading ∉ lines := by
    intro lines hlines hmem
    exact ((hlines heading hmem).inert h).2 hheading
  exact ⟨hblock fun _ => isBlockLine_of_mem_tableBlock, hblock fun _ => isBlockLine_of_mem_inputBlock,
    hblock fun _ => isBlockLine_of_mem_callBlock⟩

theorem Printable.linesOf_text (h : adapter.Printable) :
    linesOf adapter.text = (adapter.headerLines ++ [""] ++ adapter.importLines).flatMap linesOf ++
      adapter.bodyLines := by
  have hlines : adapter.lines ≠ [] := by simp [lines]
  rw [text, linesOf_intercalate hlines, lines_eq, List.flatMap_append, flatMap_linesOf h.oneLine_bodyLines]

theorem Printable.readTable_tableBlock (h : adapter.Printable) (rest : List String) :
    readTable (adapter.tableBlock ++ rest) = some adapter.dispatch.table := by
  have hplain : ∀ name ∈ adapter.dispatch.table, isPlain name := by
    intro name hname
    obtain ⟨branch, hbranch, rfl⟩ := List.mem_map.mp hname
    exact (h.branches branch hbranch).name_plain
  have hnames := readTable_map hplain (["", ""] ++ receiverLines ++ ["", ""] ++ adapter.openingLines ++ rest)
  rw [← hnames]
  simp [tableBlock, dispatch, Function.comp_def]

theorem Printable.readChain_inputBlock (h : adapter.Printable) (rest : List String) :
    readChain readConstruction (adapter.inputBlock ++ rest) = some adapter.dispatch.input := by
  rw [inputBlock, List.append_assoc, List.cons_append]
  exact readChain_flatMap (fun branch hbranch => (h.branches branch hbranch).reads_input)
    (by decide) (by decide) _

theorem Printable.readChain_callBlock (h : adapter.Printable) (rest : List String) :
    readChain readCall (adapter.callBlock ++ rest) = some adapter.dispatch.call := by
  rw [callBlock, List.append_assoc, List.cons_append]
  exact readChain_flatMap (fun branch hbranch => (h.branches branch hbranch).reads_call)
    (by decide) (by decide) _

/-- A printable adapter is read back as what its branches do. -/
theorem Printable.read?_text (h : adapter.Printable) : read? adapter.text = some adapter.dispatch := by
  let front := (adapter.headerLines ++ [""] ++ adapter.importLines).flatMap linesOf ++ [""]
  have hlines : linesOf adapter.text = front ++ tableHeading :: (adapter.tableBlock ++
      inputHeading :: (adapter.inputBlock ++ callHeading :: adapter.callBlock)) := by
    rw [h.linesOf_text, bodyLines_eq]
    simp [front]
  obtain ⟨htableTable, htableInput, htableCall⟩ :=
    h.heading_notMem (show tableHeading ∈ headings by simp [headings])
  obtain ⟨_, hinputInput, hinputCall⟩ := h.heading_notMem (show inputHeading ∈ headings by simp [headings])
  obtain ⟨_, _, hcallNot⟩ := h.heading_notMem (show callHeading ∈ headings by simp [headings])
  have hdistinct : tableHeading ≠ inputHeading ∧ tableHeading ≠ callHeading ∧ inputHeading ≠ callHeading := by
    decide
  have hinputNot : inputHeading ∉ adapter.inputBlock ++ callHeading :: adapter.callBlock := by
    simp [hinputInput, hinputCall, hdistinct.2.2]
  have htableNot : tableHeading ∉ adapter.tableBlock ++
      inputHeading :: (adapter.inputBlock ++ callHeading :: adapter.callBlock) := by
    simp [htableTable, htableInput, htableCall, hdistinct.1, hdistinct.2.1]
  have htable := behindLast?_eq_some front htableNot
  have hinput := behindLast?_eq_some (front ++ tableHeading :: adapter.tableBlock) hinputNot
  have hcall := behindLast?_eq_some (front ++ tableHeading :: (adapter.tableBlock ++
    inputHeading :: adapter.inputBlock)) hcallNot
  have hcallChain := h.readChain_callBlock []
  simp only [List.append_assoc, List.cons_append] at hinput hcall
  rw [List.append_nil] at hcallChain
  unfold read?
  simp only [hlines, htable, hinput, hcall, Option.bind_eq_bind, Option.bind_some, h.readTable_tableBlock,
    h.readChain_inputBlock, hcallChain]
  rfl

end Adapter

namespace Chain
variable {α β : Type} {chain : Chain α} {name : String}

theorem first?_eq_none {items : List β} {key : β → String} {value : β → α}
    (hbranches : chain.branches = items.map fun item => (key item, value item))
    (h : ∀ item ∈ items, key item ≠ name) : chain.first? name = none := by
  rw [first?, hbranches, List.lookup_eq_none_iff]
  intro branch hbranch
  obtain ⟨item, hitem, rfl⟩ := List.mem_map.mp hbranch
  simpa using (h item hitem).symm

theorem first?_eq_some {before after : List β} {item : β} {key : β → String} {value : β → α}
    (hbranches : chain.branches = (before ++ item :: after).map fun item => (key item, value item))
    (hbefore : ∀ other ∈ before, key other ≠ name) (hitem : key item = name) :
    chain.first? name = some (value item) := by
  rw [first?, hbranches, List.lookup_eq_some_iff]
  refine ⟨before.map fun item => (key item, value item), after.map fun item => (key item, value item), ?_, ?_⟩
  · rw [List.map_append, List.map_cons, hitem]
  · intro branch hbranch
    obtain ⟨other, hother, rfl⟩ := List.mem_map.mp hbranch
    simpa using (hbefore other hother).symm

end Chain

namespace RenderJob
open Dispatch
variable {job : RenderJob} {timestamp : Timestamp}

/-- No module that a method's input type is taken from and no path inside it has a line break. -/
def ReferencesOneLine (job : RenderJob) : Prop :=
  ∀ method ∈ job.service.methods, ∀ entry, job.types.resolve method.input = some entry →
    (Reference.ofEntry job.file entry).OneLine

theorem Usable.printable {inputs : List (Method × TypeEntry)} (h : job.Usable) (hinputs : job.Resolves inputs)
    (hlines : job.ReferencesOneLine) : (job.assembled timestamp inputs).Printable := by
  have hidentifier : ∀ {name : String}, isUsableName name → isIdentifier name.toList := by
    intro name hname
    rw [isUsableName, Bool.and_eq_true] at hname
    exact hname.1
  refine ⟨hidentifier h.service, fun branch hbranch => ?_⟩
  obtain ⟨input, hinput, rfl⟩ := List.mem_map.mp hbranch
  have hmethod := hinputs.method_mem hinput
  exact ⟨hidentifier (h.methods _ hmethod), hlines _ hmethod _ (hinputs.entries input hinput)⟩

def inputCall (job : RenderJob) (input : Method × TypeEntry) : StubCall where
  checked := if input.1.clientStreaming then none else some (Reference.ofEntry job.file input.2).code
  receiver := if input.1.serverStreaming then "_StreamReceiver" else "_OnceReceiver"
  stubMethod := input.1.name

/-- The first branch that a name comes to belongs to the first method that declares it. -/
theorem Resolves.first?_cases {inputs : List (Method × TypeEntry)} (hinputs : job.Resolves inputs)
    {dispatch : Dispatch} (hinput : dispatch.input.branches =
      inputs.map fun input => (input.1.name, (Reference.ofEntry job.file input.2).code))
    (hcall : dispatch.call.branches = inputs.map fun input => (input.1.name, job.inputCall input))
    (name : String) :
    ((∀ method ∈ job.service.methods, method.name ≠ name) ∧
      dispatch.input.first? name = none ∧ dispatch.call.first? name = none) ∨
    ∃ before method after entry, job.service.methods = before ++ method :: after ∧
      (∀ other ∈ before, other.name ≠ name) ∧ method.name = name ∧
      job.types.resolve method.input = some entry ∧
      dispatch.input.first? name = some (Reference.ofEntry job.file entry).code ∧
      dispatch.call.first? name = some (job.inputCall (method, entry)) := by
  cases hfind : inputs.find? fun input => input.1.name = name with
  | none =>
    have hother : ∀ input ∈ inputs, input.1.name ≠ name := by simpa using List.find?_eq_none.mp hfind
    refine Or.inl ⟨?_, Chain.first?_eq_none hinput hother, Chain.first?_eq_none hcall hother⟩
    intro method hmethod
    obtain ⟨entry, hmem, _⟩ := hinputs.exists_entry hmethod
    exact hother _ hmem
  | some input =>
    obtain ⟨hname, before, after, rfl, hbefore⟩ := List.find?_eq_some_iff_append.mp hfind
    replace hname : input.1.name = name := by simpa using hname
    replace hbefore : ∀ other ∈ before, other.1.name ≠ name := by simpa using hbefore
    have hentry := hinputs.entries input (by simp)
    have hfirstInput := Chain.first?_eq_some hinput hbefore hname
    have hfirstCall := Chain.first?_eq_some hcall hbefore hname
    refine Or.inr ⟨before.map (·.1), input.1, after.map (·.1), input.2, ?_, ?_, hname, hentry,
      hfirstInput, hfirstCall⟩
    · rw [hinputs.methods_eq, List.map_append, List.map_cons]
    · intro other hother
      obtain ⟨_, hmem, rfl⟩ := List.mem_map.mp hother
      exact hbefore _ hmem

/-- Dispatch of a rendered text. An unknown name passes all tests of both chains. For a known one both
come to the first method that declares it: a request of its own input type is made, the same type is
checked unless the client streams, and its stub method is called. -/
theorem dispatch_of_rendered {text : String} (h : adapterRenderer timestamp job = .content text)
    (hlines : job.ReferencesOneLine) :
    ∃ dispatch, Dispatch.read? text = some dispatch ∧
      dispatch.table = job.service.methods.map (·.name) ∧
      dispatch.input.branches.map (·.1) = job.service.methods.map (·.name) ∧
      dispatch.call.branches.map (·.1) = job.service.methods.map (·.name) ∧
      dispatch.input.ending = "        return None" ∧
      dispatch.call.ending = "        raise UnknownMethodError(name)" ∧
      ∀ name,
        ((∀ method ∈ job.service.methods, method.name ≠ name) ∧
          dispatch.input.first? name = none ∧ dispatch.call.first? name = none) ∨
        ∃ before method after entry, job.service.methods = before ++ method :: after ∧
          (∀ other ∈ before, other.name ≠ name) ∧ method.name = name ∧
          job.types.resolve method.input = some entry ∧
          dispatch.input.first? name = some (Reference.ofEntry job.file entry).code ∧
          dispatch.call.first? name = some
            { checked := if method.clientStreaming then none else some (Reference.ofEntry job.file entry).code
              receiver := if method.serverStreaming then "_StreamReceiver" else "_OnceReceiver"
              stubMethod := name } := by
  obtain ⟨hchecks, inputs, hentries, htext⟩ := adapterRenderer_eq_content_iff.mp h
  have hinputs := resolves_of_inputEntries hentries
  have hprintable : (job.assembled timestamp inputs).Printable :=
    (usable_of_checkNames hchecks).printable hinputs hlines
  have hread := hprintable.read?_text
  rw [← htext] at hread
  refine ⟨_, hread, ?_, ?_, ?_, rfl, rfl, fun name => ?_⟩
  · simp [Adapter.dispatch, assembled, hinputs.methods_eq]
  · simp [Adapter.dispatch, assembled, hinputs.methods_eq]
  · simp [Adapter.dispatch, assembled, hinputs.methods_eq]
  · have hinput : (job.assembled timestamp inputs).dispatch.input.branches =
        inputs.map fun input => (input.1.name, (Reference.ofEntry job.file input.2).code) := by
      simp [Adapter.dispatch, assembled]
    have hcall : (job.assembled timestamp inputs).dispatch.call.branches =
        inputs.map fun input => (input.1.name, job.inputCall input) := by
      simp [Adapter.dispatch, assembled, Branch.stubCall, Branch.receiver, inputCall]
    rcases hinputs.first?_cases hinput hcall name with hnone | ⟨before, method, after, entry, hfirst⟩
    · exact Or.inl hnone
    · obtain ⟨hsplit, hbefore, rfl, hentry, hfirstInput, hfirstCall⟩ := hfirst
      exact Or.inr ⟨before, method, after, entry, hsplit, hbefore, rfl, hentry, hfirstInput, hfirstCall⟩

/-- One name declared twice, with types of two files and both kinds of streaming. -/
def repeatedName : RenderJob where
  package := ""
  file := "x.proto"
  service :=
    { name := "Feed"
      methods := [{ name := "Get", input := ".p.A", output := ".p.A" },
        { name := "Put", input := ".q.B.C", output := ".p.A", clientStreaming := true, serverStreaming := true },
        { name := "Get", input := ".q.B.C", output := ".p.A", serverStreaming := true }] }
  directories := []
  types := ⟨[(".p.A", some { fullName := ".p.A", fileName := "x.proto", package := "p" }),
    (".q.B.C", some { fullName := ".q.B.C", fileName := "d/y.proto", package := "q" })]⟩

theorem dispatch_of_repeatedName : ∃ text,
    adapterRenderer ⟨2024, 5, 1, 12, 30, 0, 0, some 0⟩ repeatedName = .content text ∧
      repeatedName.ReferencesOneLine ∧
      ∃ dispatch, Dispatch.read? text = some dispatch ∧ dispatch.table = ["Get", "Put", "Get"] ∧
        dispatch.input.first? "Get" = some "pb.A" ∧
        dispatch.call.first? "Get" = some ⟨some "pb.A", "_OnceReceiver", "Get"⟩ ∧
        dispatch.call.first? "get" = none := by
  have hchecks : repeatedName.checkNames = .ok () := by decide
  obtain ⟨text, hrendered⟩ : ∃ text,
      adapterRenderer ⟨2024, 5, 1, 12, 30, 0, 0, some 0⟩ repeatedName = .content text :=
    ⟨_, adapterRenderer_eq_content_iff.mpr ⟨hchecks, _, rfl, rfl⟩⟩
  have hlines : repeatedName.ReferencesOneLine := by
    intro method hmethod entry hentry
    simp only [repeatedName, List.mem_cons, List.not_mem_nil, or_false] at hmethod
    rcases hmethod with rfl | rfl | rfl
    all_goals
      cases hentry
      exact ⟨by decide, by decide⟩
  obtain ⟨dispatch, hread, htable, _, _, _, _, hfirst⟩ := dispatch_of_rendered hrendered hlines
  refine ⟨text, hrendered, hlines, dispatch, hread, htable, ?_⟩
  rcases hfirst "get" with ⟨_, _, hnone⟩ | ⟨before, method, after, _, hsplit, _, hname, _⟩
  swap
  · have hmem : method ∈ repeatedName.service.methods := by simp [hsplit]
    simp only [repeatedName, List.mem_cons, List.not_mem_nil, or_false] at hmem
    rcases hmem with rfl | rfl | rfl <;> exact absurd hname (by decide)
  rcases hfirst "Get" with ⟨hother, _⟩ | ⟨before, method, after, entry, hsplit, hbefore, _, hentry, hinput, hcall⟩
  · exact absurd rfl (hother _ (List.mem_cons_self ..))
  cases before with
  | nil =>
    cases hsplit
    cases hentry
    exact ⟨hinput, hcall, hnone⟩
  | cons other before =>
    obtain ⟨rfl, _⟩ := List.cons.inj hsplit
    exact absurd rfl (hbefore _ (List.mem_cons_self ..))

end RenderJob
end DispatchGen
