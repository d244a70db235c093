import DispatchGen.Proofs.FirstMentions

/-! # Completion in any order

Tasks finish in whatever order they take the lock of the outcome, each with one step. The invariant of
such a run is that the outcome holds exactly the results recorded so far: their files in the order of
arrival and the first of their failures. Since a result depends on nothing but its own task, every
order ends with the same files, and only the choice of the reported failure is left to the order.
-/
namespace DispatchGen

abbrev Finished := ServiceTask × TaskResult

namespace Finished

def file? : Finished → Option OutputFile
  | (_, .produced file) => some file
  | (_, .failed _) => none
  | (_, .broken _ _) => none

def failure? : Finished → Option String
  | (_, .produced _) => none
  | (_, .failed message) => some message
  | (task, .broken kind text) => some (task.brokenMessage kind text)

end Finished

/-- The outcome is what the results make of it, taken in this order. -/
structure Outcome.Holds (outcome : Outcome) (done : List Finished) : Prop where
  files : outcome.files = done.filterMap Finished.file?
  firstError : outcome.firstError = (done.filterMap Finished.failure?).head?

theorem Outcome.holds_nil : Outcome.Holds {} [] := ⟨rfl, rfl⟩

theorem Outcome.Holds.record {outcome : Outcome} {done : List Finished} (h : outcome.Holds done)
    (entry : Finished) : (ServiceTask.record outcome entry).Holds (done ++ [entry]) := by
  obtain ⟨hfiles, herror⟩ := h
  obtain ⟨task, result⟩ := entry
  cases result with
  | produced file =>
    constructor
    · simp [ServiceTask.record, withFile, hfiles, Finished.file?]
    · simp [ServiceTask.record, withFile, herror, Finished.failure?]
  | failed message =>
    constructor
    · simp [ServiceTask.record, withError, hfiles, Finished.file?]
    · simp [ServiceTask.record, withError, herror, Finished.failure?]
  | broken kind text =>
    constructor
    · simp [ServiceTask.record, withError, hfiles, Finished.file?]
    · simp [ServiceTask.record, withError, herror, Finished.failure?]

theorem ServiceTask.firstError_record {outcome : Outcome} {message : String}
    (h : outcome.firstError = some message) (entry : Finished) :
    (ServiceTask.record outcome entry).firstError = some message := by
  obtain ⟨task, result⟩ := entry
  cases result <;> simp [ServiceTask.record, Outcome.withFile, Outcome.withError, h]

/-- The results that wait for the lock, and the outcome so far. -/
structure Progress where
  pending : List Finished
  outcome : Outcome

namespace Progress

/-- Any one of the waiting results takes the lock and is recorded. -/
inductive Step : Progress → Finished → Progress → Prop
  | take (before : List Finished) (entry : Finished) (after : List Finished) (outcome : Outcome) :
      Step ⟨before ++ entry :: after, outcome⟩ entry ⟨before ++ after, ServiceTask.record outcome entry⟩

/-- The results of the list take the lock in turn. -/
inductive Runs : Progress → List Finished → Progress → Prop
  | refl (p : Progress) : Runs p [] p
  | step {p q r : Progress} {entry : Finished} {order : List Finished} (h : Step p entry q)
      (hr : Runs q order r) : Runs p (entry :: order) r

variable {p q : Progress} {entry : Finished} {order done : List Finished}

theorem Step.holds (h : Step p entry q) (hp : p.outcome.Holds done) : q.outcome.Holds (done ++ [entry]) := by
  cases h
  exact hp.record entry

theorem Step.firstError {message : String} (h : Step p entry q)
    (hp : p.outcome.firstError = some message) : q.outcome.firstError = some message := by
  cases h
  exact ServiceTask.firstError_record hp entry

theorem Step.pending_perm (h : Step p entry q) : p.pending.Perm (entry :: q.pending) := by
  cases h
  exact List.perm_middle

theorem Runs.pending_perm (h : Runs p order q) : p.pending.Perm (order ++ q.pending) := by
  induction h with
  | refl => exact List.Perm.refl _
  | step h _ ih => exact h.pending_perm.trans (ih.cons _)

theorem Runs.holds (h : Runs p order q) (hp : p.outcome.Holds done) : q.outcome.Holds (done ++ order) := by
  induction h generalizing done with
  | refl => simpa using hp
  | step h _ ih => simpa using ih (h.holds hp)

theorem Runs.firstError {message : String} (h : Runs p order q)
    (hp : p.outcome.firstError = some message) : q.outcome.firstError = some message := by
  induction h with
  | refl => exact hp
  | step h _ ih => exact ih (h.firstError hp)

/-- No order gets stuck: each permutation of the waiting results is a run that leaves none. -/
theorem runs_of_perm {pending : List Finished} (h : order.Perm pending) (outcome : Outcome) :
    Runs ⟨pending, outcome⟩ order ⟨[], order.foldl ServiceTask.record outcome⟩ := by
  induction order generalizing pending outcome with
  | nil =>
    rw [List.nil_perm.mp h]
    exact .refl _
  | cons entry rest ih =>
    obtain ⟨before, after, rfl⟩ := List.append_of_mem (h.subset (List.mem_cons_self ..))
    have hrest : rest.Perm (before ++ after) := (h.trans List.perm_middle).cons_inv
    exact .step (.take before entry after outcome) (ih hrest (ServiceTask.record outcome entry))

end Progress

namespace ServiceTask

/-- Every type name in the signatures, unless empty, leads to a message of some file. -/
def TypesKnown (request : Request) (task : ServiceTask) : Prop :=
  ∀ method ∈ task.service.methods, (method.input ≠ "" → request.Knows method.input) ∧
    (method.output ≠ "" → request.Knows method.output)

instance (request : Request) : DecidablePred (TypesKnown request) := fun task =>
  inferInstanceAs (Decidable (∀ method ∈ task.service.methods, _))

theorem unresolved_eq_nil {request : Request} {task : ServiceTask} (ht : task ∈ request.tasks) :
    task.unresolved request.signatureTypes = [] ↔ task.TypesKnown request := by
  rw [List.eq_nil_iff_forall_not_mem]
  constructor
  · intro h method hmethod
    constructor
    · intro hne
      by_contra hk
      exact h _ ((mem_unresolved ht).mpr ⟨hne, ⟨method, hmethod, Or.inl rfl⟩, hk⟩)
    · intro hne
      by_contra hk
      exact h _ ((mem_unresolved ht).mpr ⟨hne, ⟨method, hmethod, Or.inr rfl⟩, hk⟩)
  · intro h name hname
    obtain ⟨hne, ⟨method, hmethod, rfl | rfl⟩, hk⟩ := (mem_unresolved ht).mp hname
    · exact hk ((h method hmethod).1 hne)
    · exact hk ((h method hmethod).2 hne)

/-- What a task contributes: the renderer's text at the task's path, or the message of its failure. The
renderer is only asked when every type is known. -/
def due (request : Request) (renderer : Renderer) (task : ServiceTask) : Except String OutputFile :=
  if task.TypesKnown request then
    match renderer (task.job request.settings request.signatureTypes) with
    | .content text => .ok ⟨task.destination request.settings, text⟩
    | .refused message => .error message
    | .broken kind text =>
      .error (task.root.name ++ ": " ++ task.service.name ++ ": " ++ kind ++ ": " ++ text)
  else
    .error (task.root.name ++ ": " ++ task.service.name ++ ": unresolved type reference(s): " ++
      ", ".intercalate (task.unresolved request.signatureTypes))

def dueFile? (request : Request) (renderer : Renderer) (task : ServiceTask) : Option OutputFile :=
  match task.due request renderer with
  | .ok file => some file
  | .error _ => none

def dueError? (request : Request) (renderer : Renderer) (task : ServiceTask) : Option String :=
  match task.due request renderer with
  | .ok _ => none
  | .error message => some message

section
variable {request : Request} {renderer : Renderer} {task : ServiceTask}

theorem dueFile?_eq_some {file : OutputFile} :
    task.dueFile? request renderer = some file ↔ task.due request renderer = .ok file := by
  unfold dueFile?
  cases task.due request renderer <;> simp

theorem dueFile?_eq_none :
    task.dueFile? request renderer = none ↔ ∃ message, task.due request renderer = .error message := by
  unfold dueFile?
  cases task.due request renderer <;> simp

theorem dueError?_eq_none :
    task.dueError? request renderer = none ↔ ∃ file, task.due request renderer = .ok file := by
  unfold dueError?
  cases task.due request renderer <;> simp

theorem dueError?_eq_some {message : String} :
    task.dueError? request renderer = some message ↔ task.due request renderer = .error message := by
  unfold dueError?
  cases task.due request renderer <;> simp

theorem length_due_add_countP (request : Request) (renderer : Renderer) (tasks : List ServiceTask) :
    (tasks.filterMap (dueFile? request renderer)).length +
      tasks.countP (fun task => (task.dueError? request renderer).isSome) = tasks.length := by
  induction tasks with
  | nil => rfl
  | cons task rest ih =>
    rw [List.countP_cons, List.length_cons]
    cases h : task.due request renderer with
    | ok file =>
      rw [List.filterMap_cons_some (dueFile?_eq_some.mpr h), dueError?_eq_none.mpr ⟨file, h⟩, List.length_cons]
      simp only [Option.isSome_none, Bool.false_eq_true, ↓reduceIte]
      omega
    | error message =>
      rw [List.filterMap_cons_none (dueFile?_eq_none.mpr ⟨message, h⟩), dueError?_eq_some.mpr h]
      simp only [Option.isSome_some, ↓reduceIte]
      omega

end
end ServiceTask

namespace Request
variable {request : Request} {renderer : Renderer}

theorem mem_results {entry : Finished} :
    entry ∈ request.results renderer ↔ entry.1 ∈ request.tasks ∧
      entry.2 = entry.1.run renderer request.settings request.signatureTypes := by
  obtain ⟨task, result⟩ := entry
  simp only [results, List.mem_map, Prod.mk.injEq]
  constructor
  · rintro ⟨_, ht, rfl, rfl⟩
    exact ⟨ht, rfl⟩
  · rintro ⟨ht, rfl⟩
    exact ⟨task, ht, rfl, rfl⟩

theorem finished_due {entry : Finished} (h : entry ∈ request.results renderer) :
    entry.file? = entry.1.dueFile? request renderer ∧
      entry.failure? = entry.1.dueError? request renderer := by
  obtain ⟨task, result⟩ := entry
  obtain ⟨ht, hresult⟩ := mem_results.mp h
  dsimp only at ht hresult
  subst hresult
  by_cases hk : task.TypesKnown request
  · have hnil := (ServiceTask.unresolved_eq_nil ht).mpr hk
    simp only [ServiceTask.run, ServiceTask.dueFile?, ServiceTask.dueError?, ServiceTask.due, hnil, if_pos hk]
    cases renderer (task.job request.settings request.signatureTypes) <;>
      exact ⟨rfl, rfl⟩
  · cases hnames : task.unresolved request.signatureTypes with
    | nil => exact absurd ((ServiceTask.unresolved_eq_nil ht).mp hnames) hk
    | cons name names =>
      simp only [ServiceTask.run, ServiceTask.dueFile?, ServiceTask.dueError?, ServiceTask.due, hnames, if_neg hk]
      exact ⟨rfl, rfl⟩

theorem filterMap_results {β : Type} (f : ServiceTask → Option β) :
    ((request.results renderer).filterMap fun entry => f entry.1) = request.tasks.filterMap f := by
  rw [results, List.filterMap_map]
  rfl

theorem filterMap_file?_results : (request.results renderer).filterMap Finished.file? =
    request.tasks.filterMap (ServiceTask.dueFile? request renderer) := by
  rw [← filterMap_results (ServiceTask.dueFile? request renderer)]
  exact List.filterMap_congr fun entry h => (finished_due h).1

theorem filterMap_failure?_results : (request.results renderer).filterMap Finished.failure? =
    request.tasks.filterMap (ServiceTask.dueError? request renderer) := by
  rw [← filterMap_results (ServiceTask.dueError? request renderer)]
  exact List.filterMap_congr fun entry h => (finished_due h).2

def start (request : Request) (renderer : Renderer) : Progress := ⟨request.results renderer, {}⟩

/-- When the results take the lock in this order, the run ends with the response. -/
def EndsWith (request : Request) (renderer : Renderer) (order : List Finished) (response : Response) : Prop :=
  ∃ outcome, (request.start renderer).Runs order ⟨[], outcome⟩ ∧ outcome.response = response

theorem endsWith_of_perm {order : List Finished} (h : order.Perm (request.results renderer)) :
    request.EndsWith renderer order (Outcome.ofResults order).response :=
  ⟨_, Progress.runs_of_perm h {}, rfl⟩

/-- Task order is one of the orders in which tasks may finish. -/
theorem endsWith_run (request : Request) (renderer : Renderer) :
    request.EndsWith renderer (request.results renderer) (request.run renderer).response :=
  endsWith_of_perm (List.Perm.refl _)

section
variable {order : List Finished} {outcome : Outcome}

theorem results_perm (h : (request.start renderer).Runs order ⟨[], outcome⟩) :
    order.Perm (request.results renderer) := by
  simpa [start] using h.pending_perm.symm

theorem files_perm_due (h : (request.start renderer).Runs order ⟨[], outcome⟩) :
    outcome.files.Perm (request.tasks.filterMap (ServiceTask.dueFile? request renderer)) := by
  obtain ⟨hfiles, _⟩ : outcome.Holds order := h.holds Outcome.holds_nil
  rw [hfiles, ← filterMap_file?_results]
  exact (results_perm h).filterMap Finished.file?

/-- All orders end with the same files. -/
theorem EndsWith.mem_files {response : Response} (h : request.EndsWith renderer order response) {file : OutputFile}
    (hfile : file ∈ response.files) : file ∈ (request.run renderer).response.files := by
  obtain ⟨_, hruns, rfl⟩ := h
  obtain ⟨_, htaskOrder, hsame⟩ := request.endsWith_run renderer
  rw [← hsame]
  exact ((files_perm_due hruns).trans (files_perm_due htaskOrder).symm).subset hfile

theorem failures_perm_due (h : (request.start renderer).Runs order ⟨[], outcome⟩) :
    (order.filterMap Finished.failure?).Perm
      (request.tasks.filterMap (ServiceTask.dueError? request renderer)) := by
  rw [← filterMap_failure?_results]
  exact (results_perm h).filterMap Finished.failure?

theorem firstError_eq_none_iff (h : (request.start renderer).Runs order ⟨[], outcome⟩) :
    outcome.firstError = none ↔ ∀ task ∈ request.tasks, ∃ file, task.due request renderer = .ok file := by
  obtain ⟨_, herror⟩ : outcome.Holds order := h.holds Outcome.holds_nil
  have hperm := failures_perm_due h
  rw [herror, List.head?_eq_none_iff]
  simp only [← ServiceTask.dueError?_eq_none, ← List.filterMap_eq_nil_iff]
  constructor
  · intro hnil
    exact List.nil_perm.mp (hnil ▸ hperm)
  · intro hnil
    exact List.perm_nil.mp (hnil ▸ hperm)

/-- The tasks before the first failing one leave the error unset, and its message stays. -/
theorem firstError_eq_some {before after : List Finished} {entry : Finished} {message : String}
    (h : (request.start renderer).Runs (before ++ entry :: after) ⟨[], outcome⟩)
    (hbefore : ∀ other ∈ before, ∃ file, other.1.due request renderer = .ok file)
    (hentry : entry.1.due request renderer = .error message) : outcome.firstError = some message := by
  obtain ⟨_, herror⟩ : outcome.Holds (before ++ entry :: after) := h.holds Outcome.holds_nil
  have hdue : ∀ other ∈ before ++ entry :: after, other.failure? = other.1.dueError? request renderer :=
    fun other ho => (finished_due ((results_perm h).subset ho)).2
  have hnone : before.filterMap Finished.failure? = [] := by
    rw [List.filterMap_eq_nil_iff]
    intro other ho
    rw [hdue other (List.mem_append_left _ ho)]
    exact ServiceTask.dueError?_eq_none.mpr (hbefore other ho)
  have hfirst : entry.failure? = some message := by
    rw [hdue entry (List.mem_append_right _ (List.mem_cons_self ..))]
    exact ServiceTask.dueError?_eq_some.mpr hentry
  rw [herror, List.filterMap_append, hnone, List.filterMap_cons_some hfirst]
  rfl

end

/-- Whatever order the results take the lock in, the run ends. Its files are those due to the tasks,
each failing task counts where a file is missing, and the error is the message of the first failing
task in that order, kept from the step that recorded it. -/
theorem completion_in_any_order (request : Request) (renderer : Renderer) :
    (∀ order, order.Perm (request.results renderer) →
      ∃ outcome, (request.start renderer).Runs order ⟨[], outcome⟩) ∧
    (∀ order middle, (request.start renderer).Runs order middle →
      ∃ rest outcome, middle.Runs rest ⟨[], outcome⟩) ∧
    (∃ outcome, (request.start renderer).Runs (request.results renderer) ⟨[], outcome⟩ ∧
      outcome.response = (request.run renderer).response) ∧
    ∀ order outcome, (request.start renderer).Runs order ⟨[], outcome⟩ →
      order.Perm (request.results renderer) ∧
      outcome.response.files.Perm
        (request.tasks.filterMap (ServiceTask.dueFile? request renderer)) ∧
      outcome.response.files.length +
        request.tasks.countP (fun task => (task.dueError? request renderer).isSome) =
          request.tasks.length ∧
      (outcome.response.error = none ↔
        ∀ task ∈ request.tasks, ∃ file, task.due request renderer = .ok file) ∧
      (∀ before task result after message, order = before ++ (task, result) :: after →
        (∀ other ∈ before, ∃ file, other.1.due request renderer = .ok file) →
        task.due request renderer = .error message → outcome.response.error = some message) ∧
      ∀ earlier later middle message, (request.start renderer).Runs earlier middle →
        middle.Runs later ⟨[], outcome⟩ → middle.outcome.firstError = some message →
        outcome.response.error = some message := by
  refine ⟨?_, ?_, ?_, ?_⟩
  · intro order h
    exact ⟨_, Progress.runs_of_perm h {}⟩
  · intro order middle _
    exact ⟨middle.pending, _, Progress.runs_of_perm (List.Perm.refl _) middle.outcome⟩
  · exact ⟨_, Progress.runs_of_perm (List.Perm.refl _) {}, rfl⟩
  · intro order outcome h
    refine ⟨results_perm h, files_perm_due h, ?_, firstError_eq_none_iff h, ?_, ?_⟩
    · rw [Outcome.response, (files_perm_due h).length_eq]
      exact ServiceTask.length_due_add_countP request renderer request.tasks
    · rintro before task result after message rfl hbefore htask
      exact firstError_eq_some h hbefore htask
    · intro earlier later middle message _ hlater hmiddle
      exact hlater.firstError hmiddle

end Request
end DispatchGen
