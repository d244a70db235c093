import DispatchGen.Generation
import DispatchGen.Proofs.JobChecks
import Mathlib.Data.List.Forall2

/-! # What an adapter is built from

A job that is not refused has usable names and an entry for every input type. Its adapter is put
together from the methods with these entries and from the job's own texts, and from nothing else.
-/
namespace DispatchGen
open Text

section Lists
variable {α β ε : Type}

theorem forall₂_of_mapM_eq_ok {f : α → Except ε β} {l : List α} {bs : List β} (h : l.mapM f = .ok bs) :
    List.Forall₂ (fun a b => f a = .ok b) l bs := by
  induction l generalizing bs with
  | nil =>
    cases h
    exact .nil
  | cons a rest ih =>
    rw [List.mapM_cons] at h
    cases ha : f a with
    | error e =>
      rw [ha] at h
      cases h
    | ok b =>
      cases hrest : rest.mapM f with
      | error e =>
        rw [ha, hrest] at h
        cases h
      | ok others =>
        rw [ha, hrest] at h
        cases h
        exact .cons ha (ih hrest)

end Lists

namespace Adapter

/-- Everything behind the imports. -/
def bodyLines (adapter : Adapter) : List String :=
  "" :: adapter.tableLines ++ ["", ""] ++ receiverLines ++ ["", ""] ++ adapter.classLines ++ ["", ""] ++
    adapter.closingLines

theorem lines_eq (adapter : Adapter) :
    adapter.lines = adapter.headerLines ++ [""] ++ adapter.importLines ++ adapter.bodyLines := by
  simp [lines, bodyLines]

end Adapter

namespace RenderJob
variable {job : RenderJob} {timestamp : Timestamp} {inputs : List (Method × TypeEntry)}

/-- The methods in their order, each with the entry of its input type. -/
structure Resolves (job : RenderJob) (inputs : List (Method × TypeEntry)) : Prop where
  methods_eq : job.service.methods = inputs.map (·.1)
  entries : ∀ input ∈ inputs, job.types.resolve input.1.input = some input.2

structure Usable (job : RenderJob) : Prop where
  service : isUsableName job.service.name
  methods : ∀ method ∈ job.service.methods, isUsableName method.name

def assembled (job : RenderJob) (timestamp : Timestamp) (inputs : List (Method × TypeEntry)) : Adapter where
  package := if job.package = "" then "main" else job.package
  file := job.file
  service := job.service.name
  timestamp := timestamp
  importedFiles := arrange job.directoryOrder (job.foreignFiles inputs)
  branches := inputs.map fun (method, entry) => ⟨method, Reference.ofEntry job.file entry⟩

theorem usable_of_checkNames (h : job.checkNames = .ok ()) : job.Usable := by
  unfold checkNames at h
  split at h
  next => cases h
  next hservice =>
    split at h
    next => cases h
    next hnone =>
      refine ⟨by simpa using hservice, fun method hmethod => ?_⟩
      have husable := List.find?_eq_none.mp hnone method hmethod
      simpa using husable

theorem inputEntry_eq_ok_iff {method : Method} {entry : TypeEntry} :
    job.inputEntry method = .ok entry ↔ job.types.resolve method.input = some entry := by
  unfold inputEntry
  cases job.types.resolve method.input <;> simp

theorem resolves_of_inputEntries (h : job.inputEntries = .ok inputs) : job.Resolves inputs := by
  have hpairs : List.Forall₂ (fun method input => input.1 = method ∧
      job.types.resolve method.input = some input.2) job.service.methods inputs := by
    refine (forall₂_of_mapM_eq_ok h).imp fun method input hinput => ?_
    cases hentry : job.inputEntry method with
    | error refusal =>
      rw [hentry] at hinput
      cases hinput
    | ok entry =>
      rw [hentry] at hinput
      cases hinput
      exact ⟨rfl, inputEntry_eq_ok_iff.mp hentry⟩
  constructor
  · have hmap := (List.forall₂_map_right_iff (f := fun input : Method × TypeEntry => input.1)).mpr
      (hpairs.imp fun _ _ hinput => hinput.1.symm)
    exact List.forall₂_eq_eq_eq ▸ hmap
  · have hflip : List.Forall₂ (fun input _ => job.types.resolve input.1.input = some input.2 ∧ True)
        inputs job.service.methods := by
      refine List.Forall₂.flip (hpairs.imp ?_)
      rintro _ input ⟨rfl, hentry⟩
      exact ⟨hentry, trivial⟩
    exact ((List.forall₂_and_left _ _).mp hflip).1

theorem adapter_eq_ok_iff {adapter : Adapter} : job.adapter timestamp = .ok adapter ↔
    job.checkNames = .ok () ∧ ∃ inputs, job.inputEntries = .ok inputs ∧
      adapter = job.assembled timestamp inputs := by
  rw [RenderJob.adapter]
  cases hchecks : job.checkNames with
  | error refusal => simp [bind, Except.bind]
  | ok _ =>
    cases hinputs : job.inputEntries with
    | error refusal => simp [bind, Except.bind]
    | ok inputs =>
      constructor
      · intro h
        cases h
        exact ⟨rfl, inputs, rfl, rfl⟩
      · rintro ⟨_, others, hothers, rfl⟩
        cases hothers
        rfl

/-- A text that the renderer gives is the text of an assembled adapter. -/
theorem adapterRenderer_eq_content_iff {text : String} : adapterRenderer timestamp job = .content text ↔
    job.checkNames = .ok () ∧ ∃ inputs, job.inputEntries = .ok inputs ∧
      text = (job.assembled timestamp inputs).text := by
  unfold adapterRenderer
  cases hadapter : job.adapter timestamp with
  | error refusal =>
    have hnone : ¬ ∃ adapter, job.adapter timestamp = .ok adapter := by simp [hadapter]
    simp only [adapter_eq_ok_iff] at hnone
    constructor
    · exact fun h => nomatch h
    · rintro ⟨hchecks, inputs, hinputs, _⟩
      exact absurd ⟨_, hchecks, inputs, hinputs, rfl⟩ hnone
  | ok adapter =>
    obtain ⟨hchecks, inputs, hinputs, rfl⟩ := adapter_eq_ok_iff.mp hadapter
    rw [Rendering.content.injEq]
    constructor
    · rintro rfl
      exact ⟨hchecks, inputs, hinputs, rfl⟩
    · rintro ⟨_, others, hothers, htext⟩
      cases hinputs.symm.trans hothers
      exact htext.symm

theorem Resolves.exists_entry (h : job.Resolves inputs) {method : Method}
    (hmethod : method ∈ job.service.methods) :
    ∃ entry, (method, entry) ∈ inputs ∧ job.types.resolve method.input = some entry := by
  rw [h.methods_eq] at hmethod
  obtain ⟨⟨_, entry⟩, hinput, rfl⟩ := List.mem_map.mp hmethod
  exact ⟨entry, hinput, h.entries _ hinput⟩

theorem Resolves.method_mem (h : job.Resolves inputs) {input : Method × TypeEntry} (hinput : input ∈ inputs) :
    input.1 ∈ job.service.methods := by
  rw [h.methods_eq]
  exact List.mem_map_of_mem hinput

end RenderJob
end DispatchGen
