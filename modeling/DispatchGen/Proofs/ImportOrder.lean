import DispatchGen.Proofs.Assembly
import DispatchGen.Proofs.FirstMentions

/-! # Order of imports

The files behind the root's imports are those that define input types, each once. They are put in order
by the first place their directory has among the directories of the job, and then by name, so the
directories decide about the order and about nothing else.
-/
namespace DispatchGen
open Text

namespace RenderJob

/-- A file comes before another when its directory has the earlier first place among the directories;
at the same place, or with both directories outside, the lesser name comes first. -/
def Precedes (directories : List String) (a b : String) : Prop :=
  directories.idxOf (InterfaceFile.directory a) < directories.idxOf (InterfaceFile.directory b) ∨
    directories.idxOf (InterfaceFile.directory a) = directories.idxOf (InterfaceFile.directory b) ∧ a < b

section Arrange
variable {directories files : List String} {file : String}

/-- The files in one of the directories, directory by directory. -/
def listed (directories files : List String) : List String :=
  directories.flatMap fun directory => files.filter fun file => InterfaceFile.directory file = directory

theorem mem_listed : file ∈ listed directories files ↔
    file ∈ files ∧ InterfaceFile.directory file ∈ directories := by
  simp [listed, and_comm]

theorem arrange_eq (directories files : List String) : arrange directories files =
    listed directories files ++ files.filter fun file => !(listed directories files).contains file := rfl

theorem mem_arrange : file ∈ arrange directories files ↔ file ∈ files := by
  rw [arrange_eq, List.mem_append, List.mem_filter, mem_listed]
  by_cases hlisted : file ∈ listed directories files
  · have hfile := (mem_listed.mp hlisted).1
    simp [hfile, (mem_listed.mp hlisted).2]
  · simp [hlisted]
    exact fun h _ => h

theorem pairwise_listed (hfiles : files.Pairwise (· < ·)) :
    (listed directories.eraseDups files).Pairwise (Precedes directories) := by
  rw [listed, List.pairwise_flatMap]
  have hdirectory : ∀ {directory file : String},
      file ∈ files.filter (fun file => InterfaceFile.directory file = directory) →
        InterfaceFile.directory file = directory := by
    intro directory file hfile
    simpa using (List.mem_filter.mp hfile).2
  constructor
  · intro directory _
    refine (hfiles.filter _).imp_of_mem fun {a b} ha hb hlt => Or.inr ⟨?_, hlt⟩
    rw [hdirectory ha, hdirectory hb]
  · refine (pairwise_idxOf_eraseDups directories).imp fun {first second} hlt a ha b hb => Or.inl ?_
    rwa [hdirectory ha, hdirectory hb]

theorem pairwise_arrange (hfiles : files.Pairwise (· < ·)) :
    (arrange directories.eraseDups files).Pairwise (Precedes directories) := by
  have hrest : ∀ file ∈ files.filter (fun file => !(listed directories.eraseDups files).contains file),
      directories.idxOf (InterfaceFile.directory file) = directories.length := by
    intro file hfile
    obtain ⟨hmem, hnot⟩ := List.mem_filter.mp hfile
    have hout : file ∉ listed directories.eraseDups files := by simpa using hnot
    rw [mem_listed, List.mem_eraseDups] at hout
    exact List.idxOf_of_notMem fun h => hout ⟨hmem, h⟩
  rw [arrange_eq, List.pairwise_append]
  refine ⟨pairwise_listed hfiles, ?_, fun a ha b hb => Or.inl ?_⟩
  · refine (hfiles.filter _).imp_of_mem fun {a b} ha hb hlt => Or.inr ⟨?_, hlt⟩
    rw [hrest a ha, hrest b hb]
  · have hin := List.mem_eraseDups.mp (mem_listed.mp ha).2
    rw [hrest b hb]
    exact List.idxOf_lt_length_of_mem hin

end Arrange

theorem Precedes.ne {directories : List String} {a b : String} (h : Precedes directories a b) : a ≠ b := by
  rintro rfl
  rcases h with hlt | ⟨_, hlt⟩
  · exact Nat.lt_irrefl _ hlt
  · exact String.lt_irrefl a hlt

theorem Precedes.asymm {directories : List String} {a b : String} (h : Precedes directories a b) :
    ¬ Precedes directories b a := by
  rintro (hback | ⟨heq, hback⟩)
  · rcases h with hlt | ⟨heq, _⟩ <;> omega
  · rcases h with hlt | ⟨_, hlt⟩
    · omega
    · exact String.lt_asymm hlt hback

instance (directories : List String) : Std.Asymm (Precedes directories) := ⟨fun _ _ => Precedes.asymm⟩

instance (directories : List String) (a b : String) : Decidable (Precedes directories a b) :=
  inferInstanceAs (Decidable (_ ∨ _))

variable {job : RenderJob} {timestamp : Timestamp} {inputs : List (Method × TypeEntry)} {file : String}

/-- Some input type is defined in the file, which is not the root. -/
def Foreign (job : RenderJob) (file : String) : Prop :=
  file ≠ job.file ∧
    ∃ method ∈ job.service.methods, ∃ entry, job.types.resolve method.input = some entry ∧ entry.fileName = file

theorem Resolves.mem_foreignFiles (h : job.Resolves inputs) :
    file ∈ job.foreignFiles inputs ↔ job.Foreign file := by
  rw [foreignFiles, mem_sortedDistinct, List.mem_filter, List.mem_map, decide_eq_true_eq, and_comm]
  refine and_congr_right fun _ => ⟨?_, ?_⟩
  · rintro ⟨input, hinput, rfl⟩
    exact ⟨input.1, h.method_mem hinput, input.2, h.entries input hinput, rfl⟩
  · rintro ⟨method, hmethod, entry, hentry, rfl⟩
    obtain ⟨_, hinput, hresolve⟩ := h.exists_entry hmethod
    cases hresolve.symm.trans hentry
    exact ⟨_, hinput, rfl⟩

theorem Resolves.mem_importedFiles (h : job.Resolves inputs) :
    file ∈ (job.assembled timestamp inputs).importedFiles ↔ job.Foreign file :=
  mem_arrange.trans h.mem_foreignFiles

theorem pairwise_importedFiles (job : RenderJob) (timestamp : Timestamp) (inputs : List (Method × TypeEntry)) :
    (job.assembled timestamp inputs).importedFiles.Pairwise
      (Precedes (InterfaceFile.directory job.file :: job.directories)) :=
  pairwise_arrange (pairwise_sortedDistinct _)

theorem nodup_importedFiles (job : RenderJob) (timestamp : Timestamp) (inputs : List (Method × TypeEntry)) :
    (job.assembled timestamp inputs).importedFiles.Nodup :=
  (job.pairwise_importedFiles timestamp inputs).imp fun hbefore => hbefore.ne

/-- Other directories put the same files in another order. -/
theorem perm_importedFiles (job : RenderJob) (timestamp : Timestamp) (inputs : List (Method × TypeEntry))
    (directories : List String) :
    (RenderJob.assembled { job with directories } timestamp inputs).importedFiles.Perm
      (job.assembled timestamp inputs).importedFiles :=
  (List.perm_ext_iff_of_nodup (nodup_importedFiles _ _ _) (nodup_importedFiles _ _ _)).mpr fun _ =>
    mem_arrange.trans mem_arrange.symm

end RenderJob
end DispatchGen
