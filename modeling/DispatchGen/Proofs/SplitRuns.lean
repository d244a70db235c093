import DispatchGen.Proofs.Independence
import DispatchGen.Proofs.RootSelection

/-! # Split runs

The tasks of a run are those of its requested files, in an order that the known files alone decide. So a
run for two sets of names has the tasks of both runs, interleaved, and each ends as it does on its own.
-/
namespace DispatchGen

section Lists
variable {α β : Type} {p q : α → Bool} {l : List α}

theorem filter_filter_of_imp (h : ∀ a ∈ l, p a → q a) : (l.filter q).filter p = l.filter p := by
  rw [List.filter_filter]
  refine List.filter_congr fun a ha => ?_
  cases hp : p a with
  | false => rfl
  | true => exact h a ha hp

theorem filter_or_perm (h : ∀ a ∈ l, p a → ¬ q a) :
    (l.filter fun a => p a || q a).Perm (l.filter p ++ l.filter q) := by
  have hfirst : (l.filter fun a => p a || q a).filter p = l.filter p :=
    filter_filter_of_imp fun a _ hp => by simp [hp]
  have hsecond : ((l.filter fun a => p a || q a).filter fun a => !p a) = l.filter q := by
    rw [List.filter_filter]
    refine List.filter_congr fun a ha => ?_
    cases hp : p a with
    | false => rfl
    | true => simpa using h a ha hp
  have hsplit := List.filter_append_perm p (l.filter fun a => p a || q a)
  rw [hfirst, hsecond] at hsplit
  exact hsplit.symm

/-- What is found first in a list is found first in every part of the list that keeps it. -/
theorem exists_findSome?_filter {f : α → Option β} {b : β} (h : l.findSome? f = some b) :
    ∃ a ∈ l, ∀ p : α → Bool, p a → (l.filter p).findSome? f = some b := by
  obtain ⟨before, a, after, rfl, hb, hbefore⟩ := List.findSome?_eq_some_iff.mp h
  refine ⟨a, List.mem_append_right _ (List.mem_cons_self ..), fun p hp => ?_⟩
  rw [List.filter_append, List.filter_cons_of_pos hp]
  refine List.findSome?_eq_some_iff.mpr ⟨_, a, _, rfl, hb, fun other ho => ?_⟩
  exact hbefore other (List.mem_of_mem_filter ho)

end Lists

namespace Request
variable {a b : Request} {timestamp : Timestamp}

def askingFor (request : Request) (targets : List String) : Request := { request with targets }

/-- A request that asks for some of the files of another with the same settings and known files. -/
structure PartOf (a b : Request) : Prop where
  parameter : a.parameter = b.parameter
  files : a.files = b.files
  targets : a.targets ⊆ b.targets

namespace PartOf

theorem tasks_eq (h : a.PartOf b) : a.tasks = b.tasks.filter fun task => task.root.name ∈ a.targets := by
  rw [tasks_eq_filter, tasks_eq_filter, h.files, filter_filter_of_imp]
  intro task _ hname
  exact decide_eq_true (h.targets (of_decide_eq_true hname))

theorem conclude_eq (h : a.PartOf b) {task : ServiceTask} (ha : task ∈ a.tasks) :
    task.conclude a timestamp = task.conclude b timestamp := by
  have hcatalog : ∀ name, a.catalog.resolve name = b.catalog.resolve name := by
    intro name
    rw [catalog, catalog, h.files]
  exact ServiceTask.conclude_congr h.parameter hcatalog ha (List.mem_of_mem_filter (h.tasks_eq ▸ ha)) timestamp

/-- The results of the part, as the whole has them. -/
theorem results_eq (h : a.PartOf b) : a.results (adapterRenderer timestamp) =
    a.tasks.map fun task => (task, task.conclude b timestamp) := by
  refine List.map_congr_left fun task ha => ?_
  exact congrArg (Prod.mk task) (h.conclude_eq ha)

/-- The results of the part are those that the whole has for its targets. -/
theorem filter_results (h : a.PartOf b) :
    (b.results (adapterRenderer timestamp)).filter (fun entry => entry.1.root.name ∈ a.targets) =
      a.results (adapterRenderer timestamp) := by
  rw [h.results_eq, h.tasks_eq, results, List.filter_map]
  rfl

/-- A run of the part can go as it went inside the whole. -/
theorem endsWith_filter (h : a.PartOf b) {order : List Finished} {response : Response}
    (hb : b.EndsWith (adapterRenderer timestamp) order response) : ∃ part,
      a.EndsWith (adapterRenderer timestamp) (order.filter fun entry => entry.1.root.name ∈ a.targets) part := by
  refine ⟨_, endsWith_of_perm ?_⟩
  rw [← h.filter_results]
  exact hb.order_perm.filter _

end PartOf

section
variable {request : Request} {first second together : List String}

theorem partOf_askingFor (h : ∀ name ∈ first, name ∈ together) :
    (request.askingFor first).PartOf (request.askingFor together) := ⟨rfl, rfl, h⟩

theorem root_mem_targets {entry : Finished} {renderer : Renderer} (h : entry ∈ request.results renderer) :
    entry.1.root.name ∈ request.targets := by
  have htask := (mem_results.mp h).1
  rw [tasks_eq_filter] at htask
  exact of_decide_eq_true (List.mem_filter.mp htask).2

/-- The results of two disjoint parts make up the results of the whole. -/
theorem results_perm_of_join (hdisjoint : ∀ name ∈ first, name ∉ second)
    (htogether : ∀ name, name ∈ together ↔ name ∈ first ∨ name ∈ second) :
    ((request.askingFor together).results (adapterRenderer timestamp)).Perm
      ((request.askingFor first).results (adapterRenderer timestamp) ++
        (request.askingFor second).results (adapterRenderer timestamp)) := by
  have hfirst : (request.askingFor first).PartOf (request.askingFor together) :=
    partOf_askingFor fun name hname => (htogether name).mpr (Or.inl hname)
  have hsecond : (request.askingFor second).PartOf (request.askingFor together) :=
    partOf_askingFor fun name hname => (htogether name).mpr (Or.inr hname)
  rw [← hfirst.filter_results, ← hsecond.filter_results]
  have hall : ((request.askingFor together).results (adapterRenderer timestamp)).filter (fun entry =>
      decide (entry.1.root.name ∈ first) || decide (entry.1.root.name ∈ second)) =
        (request.askingFor together).results (adapterRenderer timestamp) := by
    refine List.filter_eq_self.mpr fun entry hentry => ?_
    simpa using (htogether _).mp (root_mem_targets hentry)
  have hsplit := filter_or_perm (p := fun entry : Finished => decide (entry.1.root.name ∈ first))
    (q := fun entry : Finished => decide (entry.1.root.name ∈ second))
    (l := (request.askingFor together).results (adapterRenderer timestamp)) fun entry _ hin => by
      simpa using hdisjoint _ (of_decide_eq_true hin)
  rw [hall] at hsplit
  exact hsplit

theorem results_askingFor_congr (h : ∀ name, name ∈ first ↔ name ∈ second) :
    (request.askingFor first).results (adapterRenderer timestamp) =
      (request.askingFor second).results (adapterRenderer timestamp) := by
  have hpart : (request.askingFor first).PartOf (request.askingFor second) :=
    partOf_askingFor fun name hname => (h name).mp hname
  rw [← hpart.filter_results]
  exact List.filter_eq_self.mpr fun entry hentry => decide_eq_true ((h _).mpr (root_mem_targets hentry))

theorem EndsWith.error_eq_none_iff_results {renderer : Renderer} {order : List Finished} {response : Response}
    (h : request.EndsWith renderer order response) :
    response.error = none ↔ ∀ entry ∈ request.results renderer, Finished.failure? entry = none := by
  rw [h.eq_response.2, List.findSome?_eq_none_iff]
  exact forall_congr' fun entry => imp_congr_left h.order_perm.mem_iff

end

/-- A run for two disjoint sets of names gives the files of both runs and fails exactly when one of them
does, whatever order the tasks finish in. Its error is that of one of the runs when these go as they go
inside it, as they do in task order. Order and repetition of the names change nothing. -/
theorem split_runs_agree (request : Request) (timestamp : Timestamp) :
    (∀ first second together : List String, (∀ name ∈ first, name ∉ second) →
      (∀ name, name ∈ together ↔ name ∈ first ∨ name ∈ second) →
      (∀ order response order₁ response₁ order₂ response₂,
        (request.askingFor together).EndsWith (adapterRenderer timestamp) order response →
        (request.askingFor first).EndsWith (adapterRenderer timestamp) order₁ response₁ →
        (request.askingFor second).EndsWith (adapterRenderer timestamp) order₂ response₂ →
        response.files.Perm (response₁.files ++ response₂.files) ∧
          (response.error = none ↔ response₁.error = none ∧ response₂.error = none)) ∧
      (∀ order response, (request.askingFor together).EndsWith (adapterRenderer timestamp) order response →
        ∃ response₁ response₂,
          (request.askingFor first).EndsWith (adapterRenderer timestamp)
            (order.filter fun entry => entry.1.root.name ∈ first) response₁ ∧
          (request.askingFor second).EndsWith (adapterRenderer timestamp)
            (order.filter fun entry => entry.1.root.name ∈ second) response₂ ∧
          ∀ message, response.error = some message →
            response₁.error = some message ∨ response₂.error = some message) ∧
      ((request.askingFor together).results (adapterRenderer timestamp)).filter
          (fun entry => entry.1.root.name ∈ first) = (request.askingFor first).results (adapterRenderer timestamp) ∧
      ((request.askingFor together).results (adapterRenderer timestamp)).filter
          (fun entry => entry.1.root.name ∈ second) =
        (request.askingFor second).results (adapterRenderer timestamp)) ∧
    ∀ targets others : List String, (∀ name, name ∈ targets ↔ name ∈ others) →
      ((request.askingFor targets).run (adapterRenderer timestamp)).response =
        ((request.askingFor others).run (adapterRenderer timestamp)).response ∧
      ∀ order response, (request.askingFor targets).EndsWith (adapterRenderer timestamp) order response ↔
        (request.askingFor others).EndsWith (adapterRenderer timestamp) order response := by
  refine ⟨fun first second together hdisjoint htogether => ?_, fun targets others hnames => ?_⟩
  · have hfirst : (request.askingFor first).PartOf (request.askingFor together) :=
      partOf_askingFor fun name hname => (htogether name).mpr (Or.inl hname)
    have hsecond : (request.askingFor second).PartOf (request.askingFor together) :=
      partOf_askingFor fun name hname => (htogether name).mpr (Or.inr hname)
    refine ⟨?_, fun order response h => ?_, hfirst.filter_results, hsecond.filter_results⟩
    · intro order response order₁ response₁ order₂ response₂ h h₁ h₂
      have hperm : ((request.askingFor together).results (adapterRenderer timestamp)).Perm _ :=
        results_perm_of_join hdisjoint htogether
      constructor
      · rw [h.eq_response.1, h₁.eq_response.1, h₂.eq_response.1, ← List.filterMap_append]
        exact (h.order_perm.trans (hperm.trans (h₁.order_perm.append h₂.order_perm).symm)).filterMap _
      · rw [h.error_eq_none_iff_results, h₁.error_eq_none_iff_results, h₂.error_eq_none_iff_results,
          ← List.forall_mem_append]
        exact forall_congr' fun entry => imp_congr_left hperm.mem_iff
    · obtain ⟨response₁, h₁⟩ := hfirst.endsWith_filter h
      obtain ⟨response₂, h₂⟩ := hsecond.endsWith_filter h
      refine ⟨response₁, response₂, h₁, h₂, fun message hmessage => ?_⟩
      -- The first failing task of the whole run is the first one in the part that asks for its root.
      rw [h.eq_response.2] at hmessage
      obtain ⟨entry, hentry, hpart⟩ := exists_findSome?_filter hmessage
      have htargets := (htogether _).mp (root_mem_targets (h.order_perm.subset hentry))
      rw [h₁.eq_response.2, h₂.eq_response.2]
      exact htargets.imp (fun hname => hpart _ (decide_eq_true hname)) fun hname => hpart _ (decide_eq_true hname)
  · have hresults : (request.askingFor targets).results (adapterRenderer timestamp) = _ :=
      results_askingFor_congr hnames
    refine ⟨congrArg (fun results => (Outcome.ofResults results).response) hresults, fun order response => ?_⟩
    rw [EndsWith, EndsWith, start, start, hresults]

def soloFile : SourceFile := { name := "y.proto", services := [{ name := "Solo" }] }

/-- A file with two failing services beside a file with a service that has an adapter. -/
def pair : Request := { files := [misnamedFile, soloFile] }

/-- Both runs at once, in an order in which the later of the failing services finishes first. -/
theorem split_runs_of_pair :
    (∀ name ∈ ["x.proto"], name ∉ ["y.proto"]) ∧
    (∀ name, name ∈ ["y.proto", "x.proto", "y.proto"] ↔ name ∈ ["x.proto"] ∨ name ∈ ["y.proto"]) ∧
    ∃ order response response₁ response₂,
      (pair.askingFor ["y.proto", "x.proto", "y.proto"]).EndsWith (adapterRenderer .sample) order response ∧
      (pair.askingFor ["x.proto"]).EndsWith (adapterRenderer .sample)
        (order.filter fun entry => entry.1.root.name ∈ ["x.proto"]) response₁ ∧
      (pair.askingFor ["y.proto"]).EndsWith (adapterRenderer .sample)
        (order.filter fun entry => entry.1.root.name ∈ ["y.proto"]) response₂ ∧
      response.files.Perm (response₁.files ++ response₂.files) ∧ response.files.length = 1 ∧
      response.error = some "x.proto: invalid service name 'b-'" ∧
      response₁.error = some "x.proto: invalid service name 'b-'" ∧ response₂.error = none := by
  have hdisjoint : ∀ name ∈ ["x.proto"], name ∉ ["y.proto"] := by decide
  have htogether : ∀ name, name ∈ ["y.proto", "x.proto", "y.proto"] ↔ name ∈ ["x.proto"] ∨ name ∈ ["y.proto"] := by
    intro name
    simp only [List.mem_cons, List.not_mem_nil, or_false]
    tauto
  obtain ⟨hruns, hparts, _⟩ := (split_runs_agree pair .sample).1 _ _ _ hdisjoint htogether
  obtain ⟨response, hends⟩ : ∃ response, (pair.askingFor ["y.proto", "x.proto", "y.proto"]).EndsWith
      (adapterRenderer .sample) _ response := ⟨_, endsWith_of_perm (List.reverse_perm _)⟩
  obtain ⟨response₁, response₂, h₁, h₂, herror⟩ := hparts _ _ hends
  obtain ⟨hfiles, _⟩ := hruns _ _ _ _ _ _ hends h₁ h₂
  have horder : (((pair.askingFor ["y.proto", "x.proto", "y.proto"]).results (adapterRenderer .sample)).reverse).map
      (·.1) = [] ++ ⟨misnamedFile, { name := "b-" }⟩ ::
        [⟨misnamedFile, { name := "a-" }⟩, ⟨soloFile, { name := "Solo" }⟩] := map_reverse_results _ _
  have hjoint : response.error = some "x.proto: invalid service name 'b-'" :=
    hends.error_eq_some_iff.mpr ⟨_, _, _, horder, nofun, firstViolation_later _⟩
  have hsecond : response₂.error = none := h₂.error_eq_none_iff.mpr (by decide +kernel)
  refine ⟨hdisjoint, htogether, _, response, response₁, response₂, hends, h₁, h₂, hfiles,
    hends.length_files.trans (by decide +kernel), hjoint, ?_, hsecond⟩
  refine (herror _ hjoint).resolve_right fun h => ?_
  rw [hsecond] at h
  cases h

/-- Runs that go their own ways need not agree on the error. -/
theorem error_of_neither_part : ¬ ∀ (request : Request) first second together order response order₁ response₁ order₂
    response₂, (∀ name ∈ first, name ∉ second) → (∀ name, name ∈ together ↔ name ∈ first ∨ name ∈ second) →
    (request.askingFor together).EndsWith (adapterRenderer .sample) order response →
    (request.askingFor first).EndsWith (adapterRenderer .sample) order₁ response₁ →
    (request.askingFor second).EndsWith (adapterRenderer .sample) order₂ response₂ →
    ∀ message, response.error = some message → response₁.error = some message ∨ response₂.error = some message := by
  intro hclaimed
  have hends := endsWith_of_perm (List.reverse_perm ((misnamed.askingFor ["x.proto"]).results (adapterRenderer .sample)))
  have hfirst := (misnamed.askingFor ["x.proto"]).endsWith_run (adapterRenderer .sample)
  have hsecond := (misnamed.askingFor []).endsWith_run (adapterRenderer .sample)
  have horder : (((misnamed.askingFor ["x.proto"]).results (adapterRenderer .sample)).reverse).map (·.1) =
      [] ++ ⟨misnamedFile, { name := "b-" }⟩ :: [⟨misnamedFile, { name := "a-" }⟩] := map_reverse_results _ _
  have htaskOrder : ((misnamed.askingFor ["x.proto"]).results (adapterRenderer .sample)).map (·.1) =
      [] ++ ⟨misnamedFile, { name := "a-" }⟩ :: [⟨misnamedFile, { name := "b-" }⟩] := map_results _ _
  rcases hclaimed misnamed ["x.proto"] [] ["x.proto"] _ _ _ _ _ _ (by decide) (by simp) hends hfirst hsecond _
    (hends.error_eq_some_iff.mpr ⟨_, _, _, horder, nofun, firstViolation_later _⟩) with h | h
  · rw [hfirst.error_eq_some_iff.mpr ⟨_, _, _, htaskOrder, nofun, firstViolation_earlier _⟩] at h
    exact absurd h (by decide +kernel)
  · rw [hsecond.error_eq_none_iff.mpr (by decide +kernel)] at h
    cases h

end Request
end DispatchGen
