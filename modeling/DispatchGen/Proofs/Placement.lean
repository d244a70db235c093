import DispatchGen.Proofs.OutputDirectory
import Mathlib.Data.List.Forall2

/-! # Where adapters are placed

The name of an adapter's file has two parts. The last component is made of the stem of the root file and, where
it declares several services, the name of the service in lower case. What stands before it is the directory of
the settings in normal form, and nothing of a root file or of a service gets into that part.
-/
namespace DispatchGen

namespace Path
open Text
variable {p name part : List Char} {before : List (List Char)} {rooted : Bool}

/-! ## The normal form is its own normal form -/

/-- Components, nearest first, each of which stays when it is put on those before it. -/
inductive Settled (rooted : Bool) : List (List Char) → Prop
  | nil : Settled rooted []
  | cons {part : List Char} {before : List (List Char)} (hstays : push rooted before part = part :: before)
      (hbefore : Settled rooted before) : Settled rooted (part :: before)

theorem Settled.push (h : Settled rooted before) (part : List Char) : Settled rooted (push rooted before part) := by
  by_cases hdropped : part = [] ∨ part = ['.']
  · rwa [push_of_dropped hdropped]
  by_cases hup : part = ['.', '.']
  · -- A step up goes back to what is settled already, or stays where it would stay again.
    subst hup
    cases h with
    | nil =>
      cases rooted with
      | true => exact .nil
      | false => exact .cons rfl .nil
    | @cons nearest rest hstays hrest =>
      by_cases hnearest : nearest = ['.', '.']
      · subst hnearest
        exact .cons rfl (.cons hstays hrest)
      · have hback : Path.push rooted (nearest :: rest) ['.', '.'] = rest := if_neg hnearest
        rwa [hback]
  · rw [push_of_plain hdropped hup]
    exact .cons (push_of_plain hdropped hup rooted before) h

theorem Settled.foldl (h : Settled rooted before) (pieces : List (List Char)) :
    Settled rooted (pieces.foldl (Path.push rooted) before) := by
  induction pieces generalizing before with
  | nil => exact h
  | cons piece rest ih => exact ih (h.push piece)

theorem Settled.foldl_reverse (h : Settled rooted before) : before.reverse.foldl (Path.push rooted) [] = before := by
  induction h with
  | nil => rfl
  | cons hstays _ ih => rw [List.reverse_cons, List.foldl_append, ih, List.foldl_cons, List.foldl_nil, hstays]

/-- Empty components and dots may be left out beforehand. -/
theorem foldl_push_filter (pieces before : List (List Char)) :
    (pieces.filter fun piece => piece ≠ [] ∧ piece ≠ ['.']).foldl (push rooted) before =
      pieces.foldl (push rooted) before := by
  induction pieces generalizing before with
  | nil => rfl
  | cons piece rest ih =>
    rw [List.foldl_cons]
    by_cases hkept : piece ≠ [] ∧ piece ≠ ['.']
    · rw [List.filter_cons_of_pos (by simpa using hkept), List.foldl_cons, ih]
    · have hdropped : piece = [] ∨ piece = ['.'] := by simpa only [← not_or, not_not] using hkept
      rw [List.filter_cons_of_neg (by simpa using hkept), ih, push_of_dropped hdropped]

theorem parts_normal (p : List Char) : parts (normal p) = parts p := by
  have hsettled : Settled (rootSlashes p != 0) ((split '/' p).foldl (push (rootSlashes p != 0)) []) :=
    Settled.nil.foldl _
  rw [parts, rootSlashes_normal, ← foldl_push_filter, filter_split_normal, parts, hsettled.foldl_reverse]

theorem normal_normal (p : List Char) : normal (normal p) = normal p := by
  rw [normal, rootSlashes_normal, parts_normal, ← normal]

/-! ## The directory of a path in normal form -/

/-- The directory of a path; a dot stands for none. -/
def directoryOrDot (p : List Char) : List Char :=
  if directory p = [] then ['.'] else directory p

/-- Slashes alone are a directory as they stand. -/
theorem directory_replicate_append (count : Nat) (hn : '/' ∉ name) :
    directory (List.replicate count '/' ++ name) = List.replicate count '/' := by
  have hhead : head (List.replicate count '/' ++ name) = List.replicate count '/' := by
    rw [head_append hn, head, List.reverse_replicate]
    cases count with
    | zero => rfl
    | succ count => rw [List.replicate_succ, List.dropWhile_cons_of_neg (by simp), ← List.replicate_succ,
        List.reverse_replicate]
  rw [directory, hhead, if_pos (by simp)]

theorem directory_append_slash {front : List Char} {c : Char} (hc : c ≠ '/') (hn : '/' ∉ name) :
    directory (front ++ [c] ++ '/' :: name) = front ++ [c] := by
  have hsplit : front ++ [c] ++ '/' :: name = (front ++ [c] ++ ['/']) ++ name := by simp
  have hhead : head (front ++ [c] ++ '/' :: name) = front ++ [c] ++ ['/'] := by
    rw [hsplit, head_append hn]
    simp [head]
  rw [directory, hhead, if_neg (by simp [hc])]
  simp [hc]

theorem exists_last_of_parts (h : parts p ≠ []) : ∃ front c, c ≠ '/' ∧ normal p = front ++ [c] := by
  obtain ⟨before, last, hparts⟩ := (List.eq_nil_or_concat' (parts p)).resolve_left h
  have hmem : last ∈ parts p := by simp [hparts]
  have hlast := kept_of_mem_parts hmem
  obtain ⟨body, c, hbody⟩ := (List.eq_nil_or_concat' last).resolve_left hlast.ne_nil
  have hc : c ≠ '/' := fun hslash => hlast.noSlash (by simp [hbody, hslash])
  have htext : normal p = List.replicate (rootSlashes p) '/' ++ join ['/'] (parts p) :=
    (normal_cases p).resolve_left fun hdot => h hdot.2.2
  rw [htext, hparts]
  rcases endsIn_join before with hjoin | ⟨front, hjoin⟩
  · exact ⟨List.replicate (rootSlashes p) '/' ++ body, c, hc, by rw [hjoin, hbody, List.append_assoc]⟩
  · exact ⟨List.replicate (rootSlashes p) '/' ++ (front ++ '/' :: body), c, hc, by rw [hjoin, hbody]; simp⟩

/-- A proper name put into a directory has the normal form of the directory before it, whatever that is. -/
theorem directory_normal_append (directory : List Char) (hn : Proper name) :
    directoryOrDot (normal (append directory name)) = normal directory := by
  have hparts := parts_append_name directory hn
  have htext : normal (append directory name) =
      List.replicate (rootSlashes directory) '/' ++ join ['/'] (parts directory ++ [name]) := by
    rcases normal_cases (append directory name) with hdot | htext
    · rw [hparts] at hdot
      exact absurd hdot.2.2 (by simp)
    · rw [htext, rootSlashes_append_name directory hn, hparts]
  by_cases hempty : parts directory = []
  · have hfront : Path.directory (normal (append directory name)) = List.replicate (rootSlashes directory) '/' := by
      rw [htext, hempty, List.nil_append, join, directory_replicate_append _ hn.noSlash]
    rw [directoryOrDot, hfront, normal, hempty, join, List.append_nil]
    cases rootSlashes directory with
    | zero => rfl
    | succ count => rfl
  · obtain ⟨front, c, hc, hnormal⟩ := exists_last_of_parts hempty
    have hdirectory : normal directory = List.replicate (rootSlashes directory) '/' ++ join ['/'] (parts directory) :=
      (normal_cases directory).resolve_left fun hdot => hempty hdot.2.2
    have hsplit : normal (append directory name) = front ++ [c] ++ '/' :: name := by
      rw [htext, join_concat _ hempty, ← hnormal, hdirectory]
      simp
    have hfront : Path.directory (normal (append directory name)) = front ++ [c] := by
      rw [hsplit, directory_append_slash hc hn.noSlash]
    rw [directoryOrDot, if_neg (by simp [hfront]), hfront, hnormal]

/-- A directory that comes down to a step up is all that stands before the name. -/
example : directoryOrDot (normal (append "..//gen/../".toList "a_grpcer.py".toList)) = "..".toList := by
  decide

end Path

namespace ServiceTask
variable {request : Request} {task : ServiceTask}

/-- How the name of a file is made up from a service and the settings. -/
structure Placed (settings : Settings) (task : ServiceTask) (name : String) : Prop where
  base : String.ofList (Path.base name.toList) = InterfaceFile.stem task.root.name ++
    (if task.root.services.length > 1 then "_" ++ Text.snakeCase task.service.name else "") ++ "_grpcer.py"
  directory : Path.directoryOrDot name.toList = Path.normal settings.path.toList
  normal : Path.normal name.toList = name.toList
  child : (FilePath.ofString name).IsChildOf (FilePath.ofString (String.ofList (Path.normal settings.path.toList)))

theorem WellFormed.placed (hw : task.WellFormed request) (settings : Settings) :
    task.Placed settings (task.destination settings) := by
  have hn := hw.proper_fileName
  have hname : task.destination settings =
      String.ofList (Path.normal (Path.append settings.root (task.label.toList ++ Adapter.fileEnding))) := by
    rw [destination, Adapter.destination, hw.fileName_eq]
    rfl
  rw [hname]
  constructor
  · rw [String.toList_ofList, Path.base_normal_append _ hn, String.ofList_append, String.ofList_toList]
    rfl
  · rw [String.toList_ofList, Path.directory_normal_append _ hn, settings.normal_root]
  · rw [String.toList_ofList, Path.normal_normal]
  · refine ⟨String.ofList (task.label.toList ++ Adapter.fileEnding), ?_, ?_⟩
    · rwa [String.toList_ofList]
    · rw [FilePath.ofString_normal_append _ hn, settings.normal_root]

end ServiceTask

/-- Beside each file of a response stands the service it was made for. The last component of the file's name is
the stem of the root file, the service in lower case with underscores where the root file declares several, and
the common ending; its directory is that of the settings in normal form, so the name is its own normal form and
leads to a file directly in that directory. -/
theorem Request.files_placed (request : Request) (timestamp : Timestamp) :
    List.Forall₂ (fun task file => task.conclude request timestamp = .produced file ∧
        task.Placed request.settings file.name)
      (request.tasks.filter fun task => task.WellFormed request)
      (request.run (adapterRenderer timestamp)).response.files := by
  have hwell : ∀ task ∈ request.tasks.filter (fun task => task.WellFormed request), task.WellFormed request :=
    fun task htask => of_decide_eq_true (List.mem_filter.mp htask).2
  have hboth := (List.forall₂_and_left _ _).mpr ⟨hwell, @forall₂_response_files request timestamp⟩
  refine hboth.imp fun task file h => ⟨h.2, ?_⟩
  rw [ServiceTask.name_of_produced h.2]
  exact h.1.placed request.settings

end DispatchGen
