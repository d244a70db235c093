import DispatchGen.Proofs.FirstMentions

/-! # Root selection

The search for root files takes the last file of each wanted name and ends when no name is left. Both
come down to a filter: of the files that are the last of their name, the requested ones remain, in an
order that the files alone decide.
-/
namespace DispatchGen

namespace Root

/-- Of roots with one name the first. When the last file comes first, that is the last of its name. -/
def latest : List Root → List Root
  | [] => []
  | root :: rest => root :: (latest rest).filter fun other => other.file.name ≠ root.file.name

/-- A name that has its file is wanted no more, so it selects nothing further on. Stopping when no name
is wanted loses nothing for the same reason. -/
theorem pick_eq_filter {wanted : List String} (hw : wanted.Nodup) (roots : List Root) :
    pick wanted roots = (latest roots).filter fun root => root.file.name ∈ wanted := by
  induction roots generalizing wanted with
  | nil => rfl
  | cons root rest ih =>
    rw [pick, latest]
    by_cases hnil : wanted = []
    · simp [hnil]
    rw [if_neg hnil]
    by_cases hmem : root.file.name ∈ wanted
    · rw [if_pos hmem, List.filter_cons_of_pos (by simpa using hmem), List.filter_filter, ih (hw.erase _)]
      refine congrArg (root :: ·) (List.filter_congr fun other _ => ?_)
      simp [hw.mem_erase_iff, Bool.and_comm]
    · rw [if_neg hmem, List.filter_cons_of_neg (by simpa using hmem), List.filter_filter, ih hw]
      refine List.filter_congr fun other _ => ?_
      by_cases hother : other.file.name ∈ wanted
      · have hne : other.file.name ≠ root.file.name := fun heq => hmem (heq ▸ hother)
        simp [hother, hne]
      · simp [hother]

theorem find_eq_filter (requested : List String) (files : List SourceFile) :
    find requested files = (latest (fromLast files)).filter fun root => root.file.name ∈ requested := by
  rw [find, pick_eq_filter (Text.nodup_eraseDups requested)]
  simp only [List.mem_eraseDups]

theorem latest_of_nodup {roots : List Root} (h : (roots.map (·.file.name)).Nodup) : latest roots = roots := by
  induction roots with
  | nil => rfl
  | cons root rest ih =>
    obtain ⟨hroot, hrest⟩ := List.nodup_cons.mp h
    have hother : ∀ other ∈ rest, other.file.name ≠ root.file.name := by
      intro other ho heq
      exact hroot (List.mem_map.mpr ⟨other, ho, heq⟩)
    rw [latest, ih hrest, List.filter_eq_self.mpr fun other ho => decide_eq_true (hother other ho)]

theorem map_file_fromLast (files : List SourceFile) : (fromLast files).map (·.file) = files.reverse := by
  rw [fromLast, List.map_reverse, List.map_map]
  exact congrArg List.reverse (List.zipIdx_map_fst 0 files)

end Root

namespace Request

/-- A task for every service of every file that is the last of its name. -/
def candidates (files : List SourceFile) : List ServiceTask :=
  (Root.latest (Root.fromLast files)).flatMap fun root => root.file.services.map (ServiceTask.mk root.file)

/-- What is requested only selects among these tasks. -/
theorem tasks_eq_filter (request : Request) :
    request.tasks = (candidates request.files).filter fun task => task.root.name ∈ request.targets := by
  rw [tasks, rootFiles, roots, Root.find_eq_filter, candidates, List.filter_flatMap, List.flatMap_map]
  induction Root.latest (Root.fromLast request.files) with
  | nil => rfl
  | cons root rest ih =>
    rw [List.flatMap_cons, ← ih, List.filter_map]
    by_cases hmem : root.file.name ∈ request.targets
    · simp [hmem, Function.comp_def]
    · simp [hmem, Function.comp_def]

theorem candidates_of_nodup {files : List SourceFile} (h : (files.map (·.name)).Nodup) :
    candidates files = files.reverse.flatMap fun file => file.services.map (ServiceTask.mk file) := by
  have hroots : ((Root.fromLast files).map (·.file.name)).Nodup := by
    have hnames : (Root.fromLast files).map (·.file.name) = (files.map (·.name)).reverse := by
      rw [← List.map_reverse, ← Root.map_file_fromLast, List.map_map]
      rfl
    rw [hnames]
    exact List.nodup_reverse.mpr h
  rw [candidates, Root.latest_of_nodup hroots, ← Root.map_file_fromLast, List.flatMap_map]

end Request
end DispatchGen
