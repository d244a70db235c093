import DispatchGen.Proofs.ImportOrder
import DispatchGen.Proofs.LastComponent

/-! # Bound names

A bound name is the name of a file written letter by letter: two underscores for an underscore, `_dot_`
for a slash, and one underscore for a hyphen. The code of a hyphen opens the codes of the other two, so
files of different modules can share a bound name. They cannot when no hyphen is followed by what
completes a longer code.
-/
namespace DispatchGen
open Text

namespace Text

theorem dropEnding_append (ending s : List Char) : dropEnding ending (s ++ ending) = s := by
  simp [dropEnding]

theorem dropEnding_of_not_suffix {ending s : List Char} (h : ¬ ending <:+ s) : dropEnding ending s = s := by
  simp [dropEnding, h]

end Text

namespace InterfaceFile

/-- Without its ending a file has the same directory and the stem as its last component. -/
theorem head_dropEnding (file : List Char) : Path.head (dropEnding ending file) = Path.head file := by
  by_cases h : ending <:+ file
  · obtain ⟨front, rfl⟩ := h
    rw [dropEnding_append, Path.head_append (by decide)]
  · rw [dropEnding_of_not_suffix h]

theorem base_dropEnding (file : List Char) :
    Path.base (dropEnding ending file) = dropEnding ending (Path.base file) := by
  by_cases h : ending <:+ file
  · obtain ⟨front, rfl⟩ := h
    rw [dropEnding_append, Path.base_append (by decide), dropEnding_append]
  · have hbase : ¬ ending <:+ Path.base file := fun hsuffix =>
      h (hsuffix.trans ⟨Path.head file, Path.head_append_base file⟩)
    rw [dropEnding_of_not_suffix h, dropEnding_of_not_suffix hbase]

theorem moduleName_congr {f g : String} (h : dropEnding ending f.toList = dropEnding ending g.toList)
    (modulesEnding : String) : moduleName f modulesEnding = moduleName g modulesEnding := by
  have hhead : Path.head f.toList = Path.head g.toList := by
    rw [← head_dropEnding, h, head_dropEnding]
  have hstem : stem f = stem g := by
    rw [stem, stem, ← base_dropEnding, h, base_dropEnding]
  have hdirectory : directory f = directory g := by
    rw [directory, directory, Path.directory, Path.directory, hhead]
  rw [moduleName, moduleName, hdirectory, hstem]

/-- What a bound name has for one letter of the file name. -/
def letterCode (c : Char) : List Char :=
  if c = '_' then ['_', '_'] else if c = '/' then ['_', 'd', 'o', 't', '_'] else if c = '-' then ['_'] else [c]

def code (s : List Char) : List Char :=
  s.flatMap letterCode

/-- What the three replacements make of one letter. -/
theorem replaced_eq_letterCode (c : Char) :
    ((if c = '_' then ['_', '_'] else [c]).flatMap fun d => (if d = '/' then "_dot_".toList else [d]).flatMap
      fun e => if e = '-' then ['_'] else [e]) = letterCode c := by
  by_cases hunderscore : c = '_'
  · subst hunderscore
    rfl
  · by_cases hslash : c = '/'
    · subst hslash
      rfl
    · rw [if_neg hunderscore, List.flatMap_singleton, if_neg hslash, List.flatMap_singleton, letterCode,
        if_neg hunderscore, if_neg hslash]

theorem boundName_eq (file : String) :
    boundName file = String.ofList (code (dropEnding ending file.toList)) ++ "__pb2" := by
  have hcode : ∀ s, replaceChar '-' ['_'] (replaceChar '/' "_dot_".toList (replaceChar '_' ['_', '_'] s)) =
      code s := by
    intro s
    rw [replaceChar, replaceChar, replaceChar, List.flatMap_assoc, List.flatMap_assoc, code]
    congr 1
    funext c
    exact replaced_eq_letterCode c
  rw [boundName, hcode]

/-- The text opens with a letter whose code opens with an underscore. -/
def opensMarked : List Char → Bool
  | [] => false
  | c :: _ => c = '_' || c = '/' || c = '-'

/-- No hyphen is directly followed by an underscore, a slash or a hyphen, nor by `dot` and one of them. -/
def readable : List Char → Bool
  | [] => true
  | c :: rest =>
    (c ≠ '-' || !(opensMarked rest || ("dot".toList.isPrefixOf rest && opensMarked (rest.drop 3)))) && readable rest

section Code
variable {c d : Char} {s t : List Char}

theorem code_cons (c : Char) (s : List Char) : code (c :: s) = letterCode c ++ code s := rfl

theorem letterCode_of_unmarked (h : ¬ opensMarked (c :: s)) : letterCode c = [c] := by
  simp only [opensMarked, Bool.or_eq_true, decide_eq_true_eq, not_or] at h
  rw [letterCode, if_neg h.1.1, if_neg h.1.2, if_neg h.2]

theorem code_ne_nil (c : Char) (s : List Char) : code (c :: s) ≠ [] := by
  have hletter : letterCode c ≠ [] := by
    unfold letterCode
    split_ifs <;> simp
  rw [code_cons]
  exact List.append_ne_nil_of_left_ne_nil hletter _

/-- A letter of the code that is no underscore stands for itself. -/
theorem eq_cons_of_code_eq (hc : c ≠ '_') (h : code s = c :: t) : ∃ rest, s = c :: rest ∧ code rest = t := by
  cases s with
  | nil => cases h
  | cons d s =>
    by_cases hd : opensMarked (d :: s)
    · simp only [opensMarked, Bool.or_eq_true, decide_eq_true_eq] at hd
      rcases hd with (rfl | rfl) | rfl
      all_goals exact absurd (List.cons.inj h).1.symm hc
    · rw [code_cons, letterCode_of_unmarked hd] at h
      obtain ⟨rfl, hrest⟩ := List.cons.inj h
      exact ⟨s, rfl, hrest⟩

theorem opensMarked_of_code_eq (h : code s = '_' :: t) : opensMarked s := by
  cases s with
  | nil => cases h
  | cons d s =>
    by_contra hd
    rw [code_cons, letterCode_of_unmarked hd] at h
    obtain ⟨rfl, _⟩ := List.cons.inj h
    exact hd rfl

theorem not_readable_of_code_eq (hd : d = '_' ∨ d = '/') (h : code ('-' :: s) = code (d :: t)) :
    ¬ readable ('-' :: s) := by
  intro hreadable
  have hnext := (Bool.and_eq_true_iff.mp hreadable).1
  rcases hd with rfl | rfl
  · have hmarked : opensMarked s := opensMarked_of_code_eq (List.cons.inj h).2
    simp [hmarked] at hnext
  · obtain ⟨afterD, rfl, hd⟩ := eq_cons_of_code_eq (by decide) (List.cons.inj h).2
    obtain ⟨afterO, rfl, ho⟩ := eq_cons_of_code_eq (by decide) hd
    obtain ⟨afterT, rfl, ht⟩ := eq_cons_of_code_eq (by decide) ho
    have hmarked : opensMarked afterT := opensMarked_of_code_eq ht
    simp [hmarked] at hnext

theorem head_eq_of_unmarked (hc : ¬ opensMarked (c :: s)) (h : code (c :: s) = code (d :: t)) : c = d := by
  rw [code_cons, letterCode_of_unmarked hc] at h
  have hne : c ≠ '_' := by
    rintro rfl
    exact hc rfl
  obtain ⟨_, hcons, _⟩ := eq_cons_of_code_eq hne h.symm
  exact (List.cons.inj hcons).1.symm

theorem head_eq_of_code_eq (hs : readable (c :: s)) (ht : readable (d :: t))
    (h : code (c :: s) = code (d :: t)) : c = d := by
  by_cases hc : opensMarked (c :: s)
  swap
  · exact head_eq_of_unmarked hc h
  by_cases hd : opensMarked (d :: t)
  swap
  · exact (head_eq_of_unmarked hd h.symm).symm
  -- Two marked letters: the codes of an underscore and a slash differ in their second letter.
  simp only [opensMarked, Bool.or_eq_true, decide_eq_true_eq] at hc hd
  rcases hc with (rfl | rfl) | rfl <;> rcases hd with (rfl | rfl) | rfl
  · rfl
  · exact absurd (List.cons.inj (List.cons.inj h).2).1 (by decide)
  · exact absurd ht (not_readable_of_code_eq (Or.inl rfl) h.symm)
  · exact absurd (List.cons.inj (List.cons.inj h).2).1 (by decide)
  · rfl
  · exact absurd ht (not_readable_of_code_eq (Or.inr rfl) h.symm)
  · exact absurd hs (not_readable_of_code_eq (Or.inl rfl) h)
  · exact absurd hs (not_readable_of_code_eq (Or.inr rfl) h)
  · rfl

/-- Readable names are read back from their codes. -/
theorem eq_of_code_eq (hs : readable s) (ht : readable t) (h : code s = code t) : s = t := by
  induction s generalizing t with
  | nil =>
    cases t with
    | nil => rfl
    | cons d t => exact absurd h.symm (code_ne_nil d t)
  | cons c s ih =>
    cases t with
    | nil => exact absurd h (code_ne_nil c s)
    | cons d t =>
      obtain rfl := head_eq_of_code_eq hs ht h
      rw [code_cons, code_cons, List.append_cancel_left_eq] at h
      rw [readable, Bool.and_eq_true] at hs ht
      rw [ih hs.2 ht.2 h]

end Code

/-- The file's name without the ending is readable. -/
def Separated (file : String) : Prop := readable (dropEnding ending file.toList)

instance : DecidablePred Separated := fun file =>
  inferInstanceAs (Decidable (readable (dropEnding ending file.toList) = true))

variable {f g : String}

theorem moduleName_eq_of_boundName_eq (hf : Separated f) (hg : Separated g) (h : boundName f = boundName g)
    (modulesEnding : String) : moduleName f modulesEnding = moduleName g modulesEnding := by
  rw [boundName_eq, boundName_eq, String.append_left_inj] at h
  exact moduleName_congr (eq_of_code_eq hf hg (String.ofList_injective h)) modulesEnding

theorem boundName_ne {name : String} (h : ¬ "__pb2".toList <:+ name.toList) (file : String) :
    boundName file ≠ name := by
  rintro rfl
  rw [boundName_eq, String.toList_append] at h
  exact h (List.suffix_append _ _)

end InterfaceFile

theorem Adapter.source_eq_of_boundTo_eq {adapter : Adapter} {a b : ImportLine}
    (h : ∀ file ∈ adapter.importedFiles, InterfaceFile.Separated file)
    (ha : a ∈ adapter.imports) (hb : b ∈ adapter.imports) (heq : a.boundTo = b.boundTo) :
    a.source = b.source := by
  have hmessages : ∀ file, InterfaceFile.boundName file ≠ "pb" := InterfaceFile.boundName_ne (by decide)
  have hstubs : ∀ file, InterfaceFile.boundName file ≠ "pb_grpc" := InterfaceFile.boundName_ne (by decide)
  have hroot : "pb" ≠ "pb_grpc" := by decide
  simp only [imports, List.mem_cons, List.mem_map] at ha hb
  rcases ha with rfl | rfl | ⟨f, hf, rfl⟩ <;> rcases hb with rfl | rfl | ⟨g, hg, rfl⟩
  · rfl
  · exact absurd heq hroot
  · exact absurd heq.symm (hmessages g)
  · exact absurd heq.symm hroot
  · rfl
  · exact absurd heq.symm (hstubs g)
  · exact absurd heq (hmessages f)
  · exact absurd heq (hstubs f)
  · exact InterfaceFile.moduleName_eq_of_boundName_eq (h f hf) (h g hg) heq _

namespace RenderJob

/-- In a rendered text no name is bound to two modules, when the names of the files that are imported
beside the root are readable without their ending. -/
theorem sources_agree_of_separated {job : RenderJob} {timestamp : Timestamp} {text : String}
    (h : adapterRenderer timestamp job = .content text)
    (hfiles : ∀ file, job.Foreign file → InterfaceFile.Separated file) :
    ∃ adapter, job.adapter timestamp = .ok adapter ∧ text = adapter.text ∧
      ∀ a ∈ adapter.imports, ∀ b ∈ adapter.imports, a.boundTo = b.boundTo → a.source = b.source := by
  obtain ⟨hchecks, inputs, hentries, htext⟩ := adapterRenderer_eq_content_iff.mp h
  have hinputs := resolves_of_inputEntries hentries
  refine ⟨_, adapter_eq_ok_iff.mpr ⟨hchecks, inputs, hentries, rfl⟩, htext, fun a ha b hb heq => ?_⟩
  have hseparated : ∀ file ∈ (job.assembled timestamp inputs).importedFiles, InterfaceFile.Separated file :=
    fun file hfile => hfiles file (hinputs.mem_importedFiles.mp hfile)
  exact Adapter.source_eq_of_boundTo_eq hseparated ha hb heq

/-- Two methods that take their requests from two files beside the root. -/
def takingBoth (f g : String) : RenderJob where
  package := ""
  file := "x.proto"
  service :=
    { name := "Feed"
      methods := [{ name := "Left", input := ".p.M", output := ".p.M" },
        { name := "Right", input := ".q.M", output := ".q.M" }] }
  directories := []
  types := ⟨[(".p.M", some { fullName := ".p.M", fileName := f, package := "p" }),
    (".q.M", some { fullName := ".q.M", fileName := g, package := "q" })]⟩

theorem inputEntries_takingBoth (f g : String) : (takingBoth f g).inputEntries = .ok
    [({ name := "Left", input := ".p.M", output := ".p.M" },
        { fullName := ".p.M", fileName := f, package := "p" }),
      ({ name := "Right", input := ".q.M", output := ".q.M" },
        { fullName := ".q.M", fileName := g, package := "q" })] := rfl

theorem foreign_takingBoth {f g file : String} :
    (takingBoth f g).Foreign file ↔ file ≠ "x.proto" ∧ (file = f ∨ file = g) := by
  rw [← (resolves_of_inputEntries (inputEntries_takingBoth f g)).mem_foreignFiles, foreignFiles,
    mem_sortedDistinct, List.mem_filter, decide_eq_true_eq, and_comm]
  simp [takingBoth]

/-- A name with and without its ending is bound to the same module under the same name. -/
theorem sources_agree_of_takingBoth : ∃ (text : String) (adapter : Adapter),
    adapterRenderer ⟨2024, 5, 1, 12, 30, 0, 0, some 0⟩ (takingBoth "a-b/c_d.proto" "a-b/c_d") = .content text ∧
      (∀ file, (takingBoth "a-b/c_d.proto" "a-b/c_d").Foreign file → InterfaceFile.Separated file) ∧
      text = adapter.text ∧
      ∀ a ∈ adapter.imports, ∀ b ∈ adapter.imports, a.boundTo = b.boundTo → a.source = b.source := by
  have hchecks : (takingBoth "a-b/c_d.proto" "a-b/c_d").checkNames = .ok () := by decide
  obtain ⟨text, hrendered⟩ : ∃ text, adapterRenderer ⟨2024, 5, 1, 12, 30, 0, 0, some 0⟩
      (takingBoth "a-b/c_d.proto" "a-b/c_d") = .content text :=
    ⟨_, adapterRenderer_eq_content_iff.mpr ⟨hchecks, _, inputEntries_takingBoth _ _, rfl⟩⟩
  have hseparated : ∀ file, (takingBoth "a-b/c_d.proto" "a-b/c_d").Foreign file →
      InterfaceFile.Separated file := by
    intro file hfile
    rcases (foreign_takingBoth.mp hfile).2 with rfl | rfl <;> decide
  obtain ⟨adapter, _, htext, hagree⟩ := sources_agree_of_separated hrendered hseparated
  exact ⟨text, adapter, hrendered, hseparated, htext, hagree⟩

/-- Two hyphens are coded like one underscore, so a name can be bound to two modules. -/
theorem boundName_repeats : ∃ (text : String) (adapter : Adapter),
    adapterRenderer ⟨2024, 5, 1, 12, 30, 0, 0, some 0⟩ (takingBoth "a--b.proto" "a_b.proto") = .content text ∧
      text = adapter.text ∧ "a--b.proto" ∈ adapter.importedFiles ∧ "a_b.proto" ∈ adapter.importedFiles ∧
      InterfaceFile.boundName "a--b.proto" = InterfaceFile.boundName "a_b.proto" ∧
      InterfaceFile.moduleName "a--b.proto" InterfaceFile.messagesEnding ≠
        InterfaceFile.moduleName "a_b.proto" InterfaceFile.messagesEnding := by
  have hchecks : (takingBoth "a--b.proto" "a_b.proto").checkNames = .ok () := by decide
  have hentries := inputEntries_takingBoth "a--b.proto" "a_b.proto"
  have hinputs := resolves_of_inputEntries hentries
  refine ⟨_, _, adapterRenderer_eq_content_iff.mpr ⟨hchecks, _, hentries, rfl⟩, rfl, ?_, ?_, ?_, ?_⟩
  · exact hinputs.mem_importedFiles.mpr (foreign_takingBoth.mpr (by decide))
  · exact hinputs.mem_importedFiles.mpr (foreign_takingBoth.mpr (by decide))
  · decide
  · decide

end RenderJob
end DispatchGen
