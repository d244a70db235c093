import DispatchGen.Proofs.LastComponent
import DispatchGen.Proofs.WellFormed
import Mathlib.Data.List.Forall2

/-! # Destinations that clash

The directory of the settings is the same for all adapters and the directory of a root file is not
kept, so what tells two destinations apart is the label of the task alone.
-/
namespace DispatchGen

namespace Text

theorem caseShift?_eq_some {n : Nat} {runs : List CaseRun} {shift : Int} (h : caseShift? n runs = some shift) :
    ∃ run ∈ runs, run.first ≤ n ∧ run.shift = shift := by
  induction runs with
  | nil => cases h
  | cons run rest ih =>
    simp only [caseShift?] at h
    split at h
    next => cases h
    next hfirst =>
      split at h
      next => exact ⟨run, List.mem_cons_self .., by omega, Option.some.inj h⟩
      next =>
        obtain ⟨other, hmem, hother⟩ := ih h
        exact ⟨other, List.mem_cons_of_mem _ hmem, hother⟩

/-- Every run begins above the slash and ends up above it. -/
theorem slash_lt_lowerRuns : ∀ run ∈ lowerRuns, (47 : Int) < run.first + run.shift := by
  decide +kernel

theorem ofNat_eq_slash {n : Nat} (h : Char.ofNat n = '/') : n = 47 := by
  have hcode : (Char.ofNat n).toNat = 47 := congrArg Char.toNat h
  by_cases hvalid : n.isValidChar
  · rw [Char.ofNat, dif_pos hvalid] at hcode
    exact hcode
  · rw [Char.ofNat, dif_neg hvalid] at hcode
    cases hcode

theorem lowerLetter_eq_slash {c : Char} (h : lowerLetter c = '/') : c = '/' := by
  unfold lowerLetter at h
  split at h
  next shift hshift =>
    obtain ⟨run, hrun, hfirst, rfl⟩ := caseShift?_eq_some hshift
    have habove := slash_lt_lowerRuns run hrun
    have hcode := ofNat_eq_slash h
    omega
  next => exact h

theorem slash_mem_lowerAt {before after : List Char} {c : Char} (h : '/' ∈ lowerAt before c after) : c = '/' := by
  unfold lowerAt at h
  split at h
  next => simp at h
  next =>
    split at h
    next => split at h <;> simp at h
    next => exact lowerLetter_eq_slash (List.mem_singleton.mp h).symm

theorem slash_mem_lowerFrom {before s : List Char} (h : '/' ∈ lowerFrom before s) : '/' ∈ s := by
  induction s generalizing before with
  | nil => exact h
  | cons c after ih =>
    rcases List.mem_append.mp h with hc | hrest
    · exact slash_mem_lowerAt hc ▸ List.mem_cons_self ..
    · exact List.mem_cons_of_mem _ (ih hrest)

theorem mem_separateWords {c : Char} {s : List Char} (h : c ∈ separateWords s) : c = '_' ∨ c ∈ s := by
  fun_induction separateWords s with
  | case1 first next rest _ ih => grind
  | case2 first next rest _ ih => grind
  | case3 short => exact Or.inr h

theorem slash_notMem_snakeCase {name : String} (h : '/' ∉ name.toList) : '/' ∉ (snakeCase name).toList := by
  intro hmem
  rw [snakeCase, String.toList_ofList] at hmem
  rcases mem_separateWords (slash_mem_lowerFrom hmem) with heq | hname
  · cases heq
  · exact h hname

end Text

open Text

theorem InterfaceFile.slash_notMem_stem (file : String) : '/' ∉ (stem file).toList := by
  intro h
  rw [stem, String.toList_ofList, dropEnding] at h
  split at h
  · exact Path.slash_notMem_base _ (List.mem_of_mem_take h)
  · exact Path.slash_notMem_base _ h

namespace ServiceTask
variable {request : Request} {settings : Settings} {task a b : ServiceTask}

/-- What the file name of a task has before the common ending. -/
def label (task : ServiceTask) : String :=
  InterfaceFile.stem task.root.name ++
    if task.root.services.length > 1 then "_" ++ snakeCase task.service.name else ""

theorem WellFormed.service_ne_empty (hw : task.WellFormed request) : task.service.name ≠ "" := by
  intro hempty
  have hname := hw.serviceUsable
  rw [hempty] at hname
  revert hname
  decide

theorem WellFormed.slash_notMem_service (hw : task.WellFormed request) : '/' ∉ task.service.name.toList := by
  have hname := hw.serviceUsable
  rw [isUsableName, Bool.and_eq_true] at hname
  exact notMem_of_isIdentifier hname.1 (by decide +kernel)

theorem WellFormed.slash_notMem_label (hw : task.WellFormed request) : '/' ∉ task.label.toList := by
  have hstem := InterfaceFile.slash_notMem_stem task.root.name
  have hservice := slash_notMem_snakeCase hw.slash_notMem_service
  rw [label, String.toList_append, List.mem_append, not_or]
  refine ⟨hstem, ?_⟩
  split
  · rw [String.toList_append, List.mem_append, not_or]
    exact ⟨by decide, hservice⟩
  · simp

theorem WellFormed.fileName_eq (hw : task.WellFormed request) :
    Adapter.fileName task.root.name
      (if task.root.services.length > 1 then some task.service.name else none) =
      task.label.toList ++ Adapter.fileEnding := by
  unfold Adapter.fileName label
  by_cases hseveral : task.root.services.length > 1
  · simp [hseveral, hw.service_ne_empty]
  · simp [hseveral]

theorem WellFormed.proper_fileName (hw : task.WellFormed request) :
    Path.Proper (task.label.toList ++ Adapter.fileEnding) := by
  have hlength : (task.label.toList ++ Adapter.fileEnding).length = task.label.toList.length + 10 :=
    List.length_append
  refine ⟨?_, fun h => ?_, fun h => ?_, fun h => ?_⟩
  · rw [List.mem_append, not_or]
    exact ⟨hw.slash_notMem_label, by decide⟩
  all_goals
    rw [h] at hlength
    simp at hlength

/-- The last component of a destination gives the label back. -/
theorem WellFormed.destination_eq_iff (ha : a.WellFormed request) (hb : b.WellFormed request) :
    a.destination settings = b.destination settings ↔ a.label = b.label := by
  rw [destination, destination, Adapter.destination, Adapter.destination, ha.fileName_eq, hb.fileName_eq]
  constructor
  · intro h
    have hbase := congrArg Path.base (String.ofList_injective h)
    rw [Path.base_normal_append _ ha.proper_fileName, Path.base_normal_append _ hb.proper_fileName] at hbase
    exact String.toList_injective (List.append_cancel_right hbase)
  · intro h
    rw [h]

end ServiceTask

namespace Request
variable {request : Request} {timestamp : Timestamp}

theorem response_names : (request.run (adapterRenderer timestamp)).response.files.map (·.name) =
    (request.tasks.filter fun task => task.WellFormed request).map (·.destination request.settings) := by
  have hnames : List.Forall₂ (fun task file => task.destination request.settings = file.name)
      (request.tasks.filter fun task => task.WellFormed request)
      (request.run (adapterRenderer timestamp)).response.files :=
    forall₂_response_files.imp fun _ _ hfile => (ServiceTask.name_of_produced hfile).symm
  have hrows := List.forall₂_map_left_iff.mpr (List.forall₂_map_right_iff.mpr hnames)
  rw [List.forall₂_eq_eq_eq] at hrows
  exact hrows.symm

/-- No two files of a response have one name exactly when the well-formed services have labels of their
own. Neither the directories of the root files nor the settings tell files apart. -/
theorem names_distinct_iff_labels_distinct (request : Request) (timestamp : Timestamp) :
    ((request.run (adapterRenderer timestamp)).response.files.map (·.name)).Nodup ↔
      (request.tasks.filter fun task => task.WellFormed request).Pairwise fun a b => a.label ≠ b.label := by
  rw [response_names, List.Nodup, List.pairwise_map]
  refine List.Pairwise.iff_of_mem fun {a b} hmema hmemb => not_congr ?_
  have ha := of_decide_eq_true (List.mem_filter.mp hmema).2
  have hb := of_decide_eq_true (List.mem_filter.mp hmemb).2
  exact ServiceTask.WellFormed.destination_eq_iff ha hb

/-- Two root files of one name in two directories. -/
def sameStem : Request where
  targets := ["a/x.proto", "b/x.proto"]
  files := [{ name := "a/x.proto", services := [{ name := "A" }] },
    { name := "b/x.proto", services := [{ name := "B" }] }]

/-- A root file with two services that are one name in lower case. -/
def sameWords : Request where
  targets := ["x.proto"]
  files := [{ name := "x.proto", services := [{ name := "FooBar" }, { name := "foo_bar" }] }]

/-- A root file whose stem is that of another with the name of one of its services. -/
def stemWithService : Request where
  targets := ["x.proto", "x_a.proto"]
  files := [{ name := "x.proto", services := [{ name := "A" }, { name := "B" }] },
    { name := "x_a.proto", services := [{ name := "A" }] }]

/-- Files of one name come from two roots, from one root, and from a suffix that meets a stem. -/
theorem names_repeat :
    ¬ ((sameStem.run (adapterRenderer ⟨2024, 5, 1, 12, 30, 0, 0, some 0⟩)).response.files.map (·.name)).Nodup ∧
    ¬ ((sameWords.run (adapterRenderer ⟨2024, 5, 1, 12, 30, 0, 0, some 0⟩)).response.files.map (·.name)).Nodup ∧
    ¬ ((stemWithService.run
      (adapterRenderer ⟨2024, 5, 1, 12, 30, 0, 0, some 0⟩)).response.files.map (·.name)).Nodup := by
  refine ⟨?_, ?_, ?_⟩
  all_goals
    rw [response_names]
    decide +kernel

end Request
end DispatchGen
