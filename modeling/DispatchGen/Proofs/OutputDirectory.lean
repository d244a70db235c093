import DispatchGen.Proofs.Destinations
import DispatchGen.Proofs.NormalPaths
import DispatchGen.Proofs.StoreFrames

/-! # The directory of a response

All files of a response are put in one directory, which only the settings choose. Two files of different
names never lead to one place, and what leads to the place of a file leads to its directory first.
-/
namespace DispatchGen
open Text

/-- What stands for the directory of the settings when adapters are placed. -/
def Settings.root (settings : Settings) : List Char :=
  if settings.path = "" then ['.'] else settings.path.toList

theorem Settings.normal_root (settings : Settings) :
    Path.normal settings.root = Path.normal settings.path.toList := by
  rw [root]
  split
  · next hempty =>
    rw [hempty]
    rfl
  · rfl

namespace Request
variable {request : Request} {timestamp : Timestamp} {file other : OutputFile}

/-- The directory of a response, seen from where the response is put. -/
def directory (request : Request) : FilePath :=
  FilePath.ofString (String.ofList (Path.normal request.settings.path.toList))

theorem exists_proper_name (h : file ∈ (request.run (adapterRenderer timestamp)).response.files) :
    ∃ name, Path.Proper name ∧ file.name = String.ofList (Path.normal (Path.append request.settings.root name)) := by
  have hname : file.name ∈ (request.run (adapterRenderer timestamp)).response.files.map OutputFile.name :=
    List.mem_map_of_mem h
  rw [response_names] at hname
  obtain ⟨task, htask, hdestination⟩ := List.mem_map.mp hname
  have hw : task.WellFormed request := of_decide_eq_true (List.mem_filter.mp htask).2
  refine ⟨_, hw.proper_fileName, ?_⟩
  rw [← hdestination, ServiceTask.destination, Adapter.destination, hw.fileName_eq]
  rfl

theorem ofString_of_proper {name : List Char} (hn : Path.Proper name) :
    FilePath.ofString (String.ofList (Path.normal (Path.append request.settings.root name))) =
      request.directory.child (String.ofList name) := by
  rw [FilePath.ofString_normal_append _ hn, Settings.normal_root]
  rfl

end Request

theorem Path.Proper.ne_up_text {name : String} (h : Proper name.toList) : name ≠ ".." := by
  rintro rfl
  exact h.ne_up rfl

namespace FileStore
variable {store : FileStore} {path : FilePath} {place : Place} {a b name : String}

theorem enter_eq_inner {outer : Place} (hn : name ≠ "..") (h : store.enter outer name = .ok place) :
    place = outer.inner name := by
  unfold enter at h
  split at h
  · cases h
  · cases h
  · rw [if_neg hn] at h
    split at h
    · cases h
    · exact (Except.ok.inj h).symm

/-- The way to a name in a directory leads through the directory. -/
theorem follow_child_eq_ok (hn : name ≠ "..") (h : store.follow (path.child name) = .ok place) : ∃ outer,
    path.names.foldlM store.enter (if path.root = "" then .working else ⟨.top, []⟩) = .ok outer ∧
      place = outer.inner name := by
  unfold follow at h
  split at h
  · cases h
  · split at h
    · cases h
    · rw [FilePath.child, List.foldlM_append] at h
      obtain ⟨outer, houter, hlast⟩ := exists_of_bind_eq_ok h
      rw [List.foldlM_cons] at hlast
      obtain ⟨last, hinner, hplace⟩ := exists_of_bind_eq_ok hlast
      obtain rfl : last = place := Except.ok.inj hplace
      exact ⟨outer, houter, enter_eq_inner hn hinner⟩

/-- Two names in one directory lead to two places. -/
theorem eq_of_follow_child (ha : a ≠ "..") (hb : b ≠ "..") (hfa : store.follow (path.child a) = .ok place)
    (hfb : store.follow (path.child b) = .ok place) : a = b := by
  obtain ⟨outer, houter, rfl⟩ := follow_child_eq_ok ha hfa
  obtain ⟨other, hother, hsame⟩ := follow_child_eq_ok hb hfb
  obtain rfl : outer = other := Except.ok.inj (houter.symm.trans hother)
  have hnames : outer.names ++ [a] = outer.names ++ [b] := congrArg Place.names hsame
  exact List.singleton_inj.mp (List.append_cancel_left hnames)

end FileStore

namespace DeliveryOrder
variable {order : DeliveryOrder} {request : Request} {timestamp : Timestamp} {file other : OutputFile}

/-- The path of a file of a response. -/
def target (order : DeliveryOrder) (file : OutputFile) : FilePath :=
  order.output.append (FilePath.ofString file.name)

theorem exists_target_eq_child (h : file ∈ (request.run (adapterRenderer timestamp)).response.files) :
    ∃ name, Path.Proper name.toList ∧ order.target file = (order.output.append request.directory).child name ∧
      file.name = String.ofList (Path.normal (Path.append request.settings.root name.toList)) := by
  obtain ⟨name, hn, hname⟩ := Request.exists_proper_name h
  refine ⟨String.ofList name, ?_, ?_, ?_⟩
  · rw [String.toList_ofList]
    exact hn
  · rw [target, hname, Request.ofString_of_proper hn, FilePath.append_child]
  · rw [String.toList_ofList, hname]

/-- Files of different names are put at different places. -/
theorem name_eq_of_follow {store : FileStore} {place : Place}
    (hfile : file ∈ (request.run (adapterRenderer timestamp)).response.files)
    (hother : other ∈ (request.run (adapterRenderer timestamp)).response.files)
    (hf : store.follow (order.target file) = .ok place) (ho : store.follow (order.target other) = .ok place) :
    file.name = other.name := by
  obtain ⟨a, ha, htarget, hname⟩ := @exists_target_eq_child order _ _ _ hfile
  obtain ⟨b, hb, htarget', hname'⟩ := @exists_target_eq_child order _ _ _ hother
  rw [htarget] at hf
  rw [htarget'] at ho
  rw [hname, hname', FileStore.eq_of_follow_child ha.ne_up_text hb.ne_up_text hf ho]

end DeliveryOrder
end DispatchGen
