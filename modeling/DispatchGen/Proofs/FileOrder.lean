import DispatchGen.Proofs.Destinations
import DispatchGen.Proofs.Independence
import DispatchGen.Proofs.RootSelection

/-! # The order of the known files

The order of the files decides between two files of one name and between two messages of one name, and
nothing else. Where all names are different the files of a request may stand in any order.
-/
namespace DispatchGen

section Lists
variable {α β : Type} {f : α → Option β}

theorem findSome?_perm {l l' : List α} (h : l.Perm l')
    (hsingle : l.Pairwise fun a b => f a = none ∨ f b = none) : l.findSome? f = l'.findSome? f := by
  induction h with
  | nil => rfl
  | cons a _ ih => rw [List.findSome?_cons, List.findSome?_cons, ih (List.pairwise_cons.mp hsingle).2]
  | swap a b l =>
    have hab := (List.pairwise_cons.mp hsingle).1 a (List.mem_cons_self ..)
    rw [List.findSome?_cons, List.findSome?_cons, List.findSome?_cons, List.findSome?_cons]
    rcases hab with hb | ha
    · rw [hb]
    · rw [ha]
  | trans hl _ ih ih' =>
    have hmiddle := (hl.pairwise_iff fun h => h.symm).mp hsingle
    exact (ih hsingle).trans (ih' hmiddle)

end Lists

/-- The qualified names of all messages of the files, as often as they are declared. -/
def SourceFile.messageNames (files : List SourceFile) : List String :=
  files.flatMap fun file => file.declarations.map file.nameOf

theorem Catalog.resolve_perm {files others : List SourceFile} (h : files.Perm others)
    (hmessages : (SourceFile.messageNames files).Nodup) (name : String) :
    (ofFiles files).resolve name = (ofFiles others).resolve name := by
  rw [resolve_ofFiles, resolve_ofFiles]
  refine findSome?_perm h ((List.nodup_flatMap.mp hmessages).2.imp fun {a b} hdisjoint => ?_)
  simp only [Option.map_eq_none_iff, SourceFile.lastNamed?_eq_none]
  by_contra hboth
  rw [not_or, not_not, not_not] at hboth
  have hmem : ∀ file : SourceFile, file.Declares name → name ∈ file.declarations.map file.nameOf :=
    fun file hfile => List.mem_map.mpr (SourceFile.declares_iff.mp hfile)
  exact hdisjoint (hmem a hboth.1) (hmem b hboth.2)

namespace Request
variable {a b : Request} {timestamp : Timestamp}

/-- Two requests that differ in the order of their files, which have names of their own. -/
structure Reordered (a b : Request) : Prop where
  parameter : a.parameter = b.parameter
  targets : a.targets = b.targets
  files : a.files.Perm b.files
  fileNames : (a.files.map (·.name)).Nodup
  messageNames : (SourceFile.messageNames a.files).Nodup

namespace Reordered

theorem tasks_perm (h : a.Reordered b) : a.tasks.Perm b.tasks := by
  have hnames := (h.files.map (·.name)).nodup_iff.mp h.fileNames
  rw [tasks_eq_filter, tasks_eq_filter, candidates_of_nodup h.fileNames, candidates_of_nodup hnames, h.targets]
  exact (((List.reverse_perm _).trans (h.files.trans (List.reverse_perm _).symm)).flatMap_right _).filter _

theorem conclude_eq (h : a.Reordered b) {task : ServiceTask} (ha : task ∈ a.tasks) :
    task.conclude a timestamp = task.conclude b timestamp :=
  ServiceTask.conclude_congr h.parameter (Catalog.resolve_perm h.files h.messageNames) ha
    (h.tasks_perm.mem_iff.mp ha) timestamp

end Reordered

/-- Where no name of a file or message is used twice, the order of the files has no part in which files
are given, nor in whether there is an error. Only the order of the files given follows it. -/
theorem response_of_reordered (h : a.Reordered b) (timestamp : Timestamp) :
    (a.run (adapterRenderer timestamp)).response.files.Perm (b.run (adapterRenderer timestamp)).response.files ∧
      ((a.run (adapterRenderer timestamp)).response.error = none ↔
        (b.run (adapterRenderer timestamp)).response.error = none) := by
  constructor
  · rw [response_files, response_files, List.filterMap_map, List.filterMap_map]
    have hsame : a.tasks.filterMap (Finished.file? ∘ fun task => (task, task.conclude a timestamp)) =
        a.tasks.filterMap (Finished.file? ∘ fun task => (task, task.conclude b timestamp)) := by
      refine List.filterMap_congr fun task ha => ?_
      rw [Function.comp_apply, Function.comp_apply, h.conclude_eq ha]
    rw [hsame]
    exact h.tasks_perm.filterMap _
  · rw [response_error, response_error, List.findSome?_eq_none_iff, List.findSome?_eq_none_iff]
    constructor
    · intro hnone task hb
      have ha := h.tasks_perm.mem_iff.mpr hb
      rw [← h.conclude_eq ha]
      exact hnone task ha
    · intro hnone task ha
      rw [h.conclude_eq ha]
      exact hnone task (h.tasks_perm.mem_iff.mp ha)

/-- A root whose service takes a message from inside another file's message. -/
def orders : SourceFile where
  name := "shop/orders.proto"
  package := "shop"
  dependencies := ["money.proto"]
  messages := [{ name := "Order", nested := [{ name := "Line" }] }]
  services := [{ name := "Desk", methods := [
    { name := "Pay", input := ".money.Sum.Part", output := ".shop.Order.Line" }] }]

def money : SourceFile where
  name := "money.proto"
  package := "money"
  messages := [{ name := "Sum", nested := [{ name := "Part" }] }]
  services := [{ name := "Bank" }, { name := "Mint", methods := [{ name := "Coin", input := ".money.Lost" }] }]

def shop : Request := { targets := ["money.proto", "shop/orders.proto"], files := [orders, money] }

def shopReversed : Request := { shop with files := [money, orders] }

def mint : ServiceTask := ⟨money, { name := "Mint", methods := [{ name := "Coin", input := ".money.Lost" }] }⟩

theorem firstViolation_mint (request : Request) (hknown : ¬ request.Knows ".money.Lost") :
    mint.FirstViolation request "money.proto: Mint: unresolved type reference(s): .money.Lost" := by
  have hnames : ∀ name, name ∈ [".money.Lost"] ↔
      name ≠ "" ∧ mint.service.Mentions name ∧ ¬ request.Knows name := by
    intro name
    constructor
    · intro hname
      obtain rfl := List.mem_singleton.mp hname
      exact ⟨by decide, ⟨_, List.mem_singleton_self _, Or.inl rfl⟩, hknown⟩
    · rintro ⟨hempty, ⟨method, hmethod, hname⟩, _⟩
      obtain rfl := List.mem_singleton.mp hmethod
      exact List.mem_singleton.mpr (hname.resolve_right hempty)
  exact .unresolvedTypes (by decide) (by decide) hnames

/-- One service of three fails, and the files of the other two come in the order of their roots. -/
theorem response_of_reordered_shop : shop.Reordered shopReversed ∧ ∀ timestamp,
    ((shop.run (adapterRenderer timestamp)).response.files.Perm
        (shopReversed.run (adapterRenderer timestamp)).response.files ∧
      ((shop.run (adapterRenderer timestamp)).response.error = none ↔
        (shopReversed.run (adapterRenderer timestamp)).response.error = none)) ∧
    (shop.run (adapterRenderer timestamp)).response.files.map (·.name) =
      ["money_bank_grpcer.py", "orders_grpcer.py"] ∧
    (shopReversed.run (adapterRenderer timestamp)).response.files.map (·.name) =
      ["orders_grpcer.py", "money_bank_grpcer.py"] ∧
    (shop.run (adapterRenderer timestamp)).response.error =
      some "money.proto: Mint: unresolved type reference(s): .money.Lost" ∧
    (shopReversed.run (adapterRenderer timestamp)).response.error =
      some "money.proto: Mint: unresolved type reference(s): .money.Lost" := by
  have hreordered : shop.Reordered shopReversed :=
    { parameter := rfl
      targets := rfl
      files := .swap _ _ _
      fileNames := by decide
      messageNames := by decide }
  refine ⟨hreordered, fun timestamp => ⟨response_of_reordered hreordered timestamp, ?_, ?_, ?_, ?_⟩⟩
  · rw [response_names]
    decide +kernel
  · rw [response_names]
    decide +kernel
  · rw [(shop.endsWith_run _).error_eq_some_iff, map_results]
    exact ⟨shop.tasks.take 1, mint, shop.tasks.drop 2, rfl, by decide +kernel, firstViolation_mint _ (by decide +kernel)⟩
  · rw [(shopReversed.endsWith_run _).error_eq_some_iff, map_results]
    exact ⟨shopReversed.tasks.take 2, mint, [], rfl, by decide +kernel, firstViolation_mint _ (by decide +kernel)⟩

end Request
end DispatchGen
