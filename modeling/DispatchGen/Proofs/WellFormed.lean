import DispatchGen.Proofs.Completion
import DispatchGen.Proofs.JobChecks

/-! # Well-formed services

A service is well formed when its types are known, its names are usable and its methods have input
types. The adapter renderer gives a file for exactly those services; for any other it reports the first
condition that is violated. Of several failing services the run reports the one that takes the lock first.
-/
namespace DispatchGen
open Text

namespace ServiceTask

structure WellFormed (request : Request) (task : ServiceTask) : Prop where
  typesKnown : task.TypesKnown request
  serviceUsable : isUsableName task.service.name
  methodsUsable : ∀ method ∈ task.service.methods, isUsableName method.name
  inputsGiven : ∀ method ∈ task.service.methods, method.input ≠ ""

instance (request : Request) : DecidablePred (WellFormed request) := fun task =>
  decidable_of_iff (task.TypesKnown request ∧ isUsableName task.service.name ∧
      (∀ method ∈ task.service.methods, isUsableName method.name) ∧
      ∀ method ∈ task.service.methods, method.input ≠ "")
    ⟨fun ⟨ht, hs, hm, hi⟩ => ⟨ht, hs, hm, hi⟩, fun ⟨ht, hs, hm, hi⟩ => ⟨ht, hs, hm, hi⟩⟩

/-- The first condition that a service violates, with what is said of it. All unresolved names are
named, and they come first whatever the other names are. -/
inductive FirstViolation (request : Request) (task : ServiceTask) : String → Prop
  | unresolvedTypes {names : List String} (hne : names ≠ []) (hsorted : names.Pairwise (· < ·))
      (hnames : ∀ name, name ∈ names ↔
        name ≠ "" ∧ task.service.Mentions name ∧ ¬ request.Knows name) :
      FirstViolation request task (task.root.name ++ ": " ++ task.service.name ++
        ": unresolved type reference(s): " ++ ", ".intercalate names)
  | serviceName (ht : task.TypesKnown request) (hs : ¬ isUsableName task.service.name) :
      FirstViolation request task (task.root.name ++ ": invalid service name " ++ quoted task.service.name)
  | methodName {before after : List Method} {method : Method} (ht : task.TypesKnown request)
      (hs : isUsableName task.service.name) (hsplit : task.service.methods = before ++ method :: after)
      (hb : ∀ m ∈ before, isUsableName m.name) (hm : ¬ isUsableName method.name) :
      FirstViolation request task (task.root.name ++ ": " ++ task.service.name ++
        " has invalid method name " ++ quoted method.name)
  | inputType {before after : List Method} {method : Method} (ht : task.TypesKnown request)
      (hs : isUsableName task.service.name)
      (hms : ∀ method ∈ task.service.methods, isUsableName method.name)
      (hsplit : task.service.methods = before ++ method :: after) (hb : ∀ m ∈ before, m.input ≠ "")
      (hm : method.input = "") :
      FirstViolation request task (task.root.name ++ ": " ++ task.service.name ++ "." ++ method.name ++
        ": unknown input type " ++ "''")

variable {request : Request} {task : ServiceTask} {timestamp : Timestamp}

def conclude (request : Request) (timestamp : Timestamp) (task : ServiceTask) : TaskResult :=
  task.run (adapterRenderer timestamp) request.settings request.signatureTypes

/-- Whatever the renderer gives, the file is put at the destination of the task. -/
theorem name_of_produced {file : OutputFile} (h : task.conclude request timestamp = .produced file) :
    file.name = task.destination request.settings := by
  rw [conclude, run] at h
  split at h
  · split at h
    · rw [← TaskResult.produced.inj h]
    · cases h
    · cases h
  · cases h

theorem FirstViolation.not_wellFormed {message : String} (h : task.FirstViolation request message) :
    ¬ task.WellFormed request := by
  intro hw
  cases h with
  | unresolvedTypes hne _ hnames =>
    obtain ⟨name, hname⟩ := List.exists_mem_of_ne_nil _ hne
    obtain ⟨hempty, ⟨method, hmethod, rfl | rfl⟩, hk⟩ := (hnames name).mp hname
    · exact hk ((hw.typesKnown method hmethod).1 hempty)
    · exact hk ((hw.typesKnown method hmethod).2 hempty)
  | serviceName _ hs => exact hs hw.serviceUsable
  | methodName _ _ hsplit _ hm => exact hm (hw.methodsUsable _ (by simp [hsplit]))
  | inputType _ _ _ hsplit _ hm => exact hw.inputsGiven _ (by simp [hsplit]) hm

theorem wellFormed_or_firstViolation (ht : task ∈ request.tasks) :
    task.WellFormed request ∨ ∃ message, task.FirstViolation request message := by
  by_cases htypes : task.TypesKnown request
  swap
  · have hne := fun hnil => htypes ((unresolved_eq_nil ht).mp hnil)
    exact Or.inr ⟨_, .unresolvedTypes hne (pairwise_sortedDistinct _) fun _ => mem_unresolved ht⟩
  by_cases hs : isUsableName task.service.name
  swap
  · exact Or.inr ⟨_, .serviceName htypes hs⟩
  cases hbad : task.service.methods.find? fun method => !isUsableName method.name with
  | some method =>
    obtain ⟨hm, before, after, hsplit, hb⟩ := List.find?_eq_some_iff_append.mp hbad
    exact Or.inr ⟨_, .methodName htypes hs hsplit (by simpa using hb) (by simpa using hm)⟩
  | none =>
    have hms : ∀ method ∈ task.service.methods, isUsableName method.name := by
      simpa using List.find?_eq_none.mp hbad
    cases hempty : task.service.methods.find? fun method => method.input = "" with
    | some method =>
      obtain ⟨hm, before, after, hsplit, hb⟩ := List.find?_eq_some_iff_append.mp hempty
      exact Or.inr ⟨_, .inputType htypes hs hms hsplit (by simpa using hb) (by simpa using hm)⟩
    | none => exact Or.inl ⟨htypes, hs, hms, by simpa using List.find?_eq_none.mp hempty⟩

/-- When all types are known the renderer decides, and it finds every input type but an empty one. -/
theorem isSome_resolve_input (ht : task ∈ request.tasks) (htypes : task.TypesKnown request)
    {method : Method} (hmethod : method ∈ task.service.methods) :
    (request.signatureTypes.resolve method.input).isSome ↔ method.input ≠ "" := by
  by_cases hempty : method.input = ""
  · simp [hempty, Request.resolve_signatureTypes_empty]
  · rw [Request.resolve_signatureTypes ht ⟨method, hmethod, Or.inl rfl⟩ hempty,
      Request.isSome_resolve_catalog]
    exact ⟨fun _ => hempty, (htypes method hmethod).1⟩

theorem conclude_of_adapter_error (ht : task ∈ request.tasks) (htypes : task.TypesKnown request)
    {refusal : Refusal}
    (h : (task.job request.settings request.signatureTypes).adapter timestamp = .error refusal) :
    task.conclude request timestamp = .failed refusal.message := by
  simp only [conclude, run, (unresolved_eq_nil ht).mpr htypes, adapterRenderer, h]

theorem conclude_of_adapter_ok (ht : task ∈ request.tasks) (htypes : task.TypesKnown request)
    {adapter : Adapter}
    (h : (task.job request.settings request.signatureTypes).adapter timestamp = .ok adapter) :
    task.conclude request timestamp = .produced ⟨task.destination request.settings, adapter.text⟩ := by
  simp only [conclude, run, (unresolved_eq_nil ht).mpr htypes, adapterRenderer, h]

theorem conclude_of_wellFormed (ht : task ∈ request.tasks) (hw : task.WellFormed request) :
    ∃ text, task.conclude request timestamp = .produced ⟨task.destination request.settings, text⟩ := by
  let job := task.job request.settings request.signatureTypes
  have hchecks : job.checkNames = .ok () := RenderJob.checkNames_eq_ok hw.serviceUsable hw.methodsUsable
  obtain ⟨inputs, hinputs⟩ : ∃ inputs, job.inputEntries = .ok inputs :=
    RenderJob.exists_inputEntries fun method hmethod =>
      (isSome_resolve_input ht hw.typesKnown hmethod).mpr (hw.inputsGiven method hmethod)
  obtain ⟨adapter, hadapter⟩ : ∃ adapter, job.adapter timestamp = .ok adapter :=
    RenderJob.exists_adapter hchecks hinputs
  exact ⟨adapter.text, conclude_of_adapter_ok ht hw.typesKnown hadapter⟩

/-- One case for each condition: those before it hold, so the check that meets it is the one that speaks. -/
theorem conclude_of_firstViolation (ht : task ∈ request.tasks) {message : String}
    (h : task.FirstViolation request message) : task.conclude request timestamp = .failed message := by
  let job := task.job request.settings request.signatureTypes
  cases h with
  | @unresolvedTypes names hne hsorted hnames =>
    have heq : task.unresolved request.signatureTypes = names :=
      (pairwise_sortedDistinct _).eq_of_mem_iff hsorted fun name =>
        (mem_unresolved ht).trans (hnames name).symm
    cases names with
    | nil => exact absurd rfl hne
    | cons name rest =>
      simp only [conclude, run, heq]
      rfl
  | serviceName htypes hs =>
    have hcheck : job.checkNames = _ := RenderJob.checkNames_eq_serviceName hs
    have hrefused : task.conclude request timestamp = _ :=
      conclude_of_adapter_error ht htypes (RenderJob.adapter_of_checkNames hcheck)
    exact hrefused
  | methodName htypes hs hsplit hb hm =>
    have hcheck : job.checkNames = _ := RenderJob.checkNames_eq_methodName hs hsplit hb hm
    have hrefused : task.conclude request timestamp = _ :=
      conclude_of_adapter_error ht htypes (RenderJob.adapter_of_checkNames hcheck)
    exact hrefused
  | @inputType before after method htypes hs hms hsplit hb hm =>
    have hbefore : ∀ m ∈ before, (job.types.resolve m.input).isSome := fun m hmem =>
      (isSome_resolve_input ht htypes (by simp [hsplit, hmem])).mpr (hb m hmem)
    have hmethod : job.types.resolve method.input = none := by
      rw [hm]
      exact Request.resolve_signatureTypes_empty
    have herror := RenderJob.inputEntries_eq_error hsplit hbefore hmethod
    have hempty : quoted method.input = "''" := by
      rw [hm]
      decide
    have hrefused : task.conclude request timestamp = _ := conclude_of_adapter_error ht htypes
      (RenderJob.adapter_of_inputEntries (RenderJob.checkNames_eq_ok hs hms) herror)
    rw [← hempty]
    exact hrefused

theorem failure?_of_wellFormed (ht : task ∈ request.tasks) (hw : task.WellFormed request) :
    Finished.failure? (task, task.conclude request timestamp) = none := by
  obtain ⟨text, h⟩ : ∃ text, task.conclude request timestamp = .produced ⟨_, text⟩ :=
    conclude_of_wellFormed ht hw
  rw [h]
  rfl

theorem failure?_of_firstViolation (ht : task ∈ request.tasks) {message : String}
    (h : task.FirstViolation request message) :
    Finished.failure? (task, task.conclude request timestamp) = some message := by
  rw [conclude_of_firstViolation ht h]
  rfl

theorem wellFormed_iff_failure? (ht : task ∈ request.tasks) :
    task.WellFormed request ↔ Finished.failure? (task, task.conclude request timestamp) = none := by
  refine ⟨failure?_of_wellFormed ht, fun hnone => ?_⟩
  rcases wellFormed_or_firstViolation ht with hw | ⟨message, hv⟩
  · exact hw
  · rw [failure?_of_firstViolation ht hv] at hnone
    cases hnone

theorem conclude_ne_broken (ht : task ∈ request.tasks) (kind text : String) :
    task.conclude request timestamp ≠ .broken kind text := by
  rcases wellFormed_or_firstViolation ht with hw | ⟨message, hv⟩
  · obtain ⟨_, h⟩ : ∃ content, task.conclude request timestamp = .produced ⟨_, content⟩ :=
      conclude_of_wellFormed ht hw
    rw [h]
    exact TaskResult.noConfusion
  · rw [conclude_of_firstViolation ht hv]
    exact TaskResult.noConfusion

end ServiceTask

namespace Request
variable {request : Request} {timestamp : Timestamp}

/-! ## Rows of tasks -/

section Rows
variable {tasks : List ServiceTask}

theorem findSome?_failure?_eq_none_iff (ht : ∀ task ∈ tasks, task ∈ request.tasks) :
    (tasks.findSome? fun task => Finished.failure? (task, task.conclude request timestamp)) = none ↔
      ∀ task ∈ tasks, task.WellFormed request := by
  rw [List.findSome?_eq_none_iff]
  exact forall₂_congr fun task htask => (ServiceTask.wellFormed_iff_failure? (ht task htask)).symm

/-- The first failure comes from the first task that is not well formed, and from its first violation. -/
theorem findSome?_failure?_eq_some_iff (ht : ∀ task ∈ tasks, task ∈ request.tasks) {message : String} :
    (tasks.findSome? fun task => Finished.failure? (task, task.conclude request timestamp)) = some message ↔
      ∃ before task after, tasks = before ++ task :: after ∧
        (∀ other ∈ before, other.WellFormed request) ∧ task.FirstViolation request message := by
  rw [List.findSome?_eq_some_iff]
  constructor
  · rintro ⟨before, task, after, hsplit, hmessage, hbefore⟩
    have htask : task ∈ request.tasks := ht task (by simp [hsplit])
    have hwell : ∀ other ∈ before, other.WellFormed request := fun other ho =>
      (ServiceTask.wellFormed_iff_failure? (ht other (by simp [hsplit, ho]))).mpr (hbefore other ho)
    rcases ServiceTask.wellFormed_or_firstViolation htask with hw | ⟨violated, hv⟩
    · rw [ServiceTask.failure?_of_wellFormed htask hw] at hmessage
      cases hmessage
    · rw [ServiceTask.failure?_of_firstViolation htask hv] at hmessage
      obtain rfl := Option.some.inj hmessage
      exact ⟨before, task, after, hsplit, hwell, hv⟩
  · rintro ⟨before, task, after, hsplit, hwell, hv⟩
    refine ⟨before, task, after, hsplit, ?_, fun other ho => ?_⟩
    · exact ServiceTask.failure?_of_firstViolation (ht task (by simp [hsplit])) hv
    · exact ServiceTask.failure?_of_wellFormed (ht other (by simp [hsplit, ho])) (hwell other ho)

/-- The well-formed tasks and the files stand in the same order, one beside the other. -/
theorem forall₂_files (ht : ∀ task ∈ tasks, task ∈ request.tasks) :
    List.Forall₂ (fun task file => task.conclude request timestamp = .produced file)
      (tasks.filter fun task => task.WellFormed request)
      ((tasks.map fun task => (task, task.conclude request timestamp)).filterMap Finished.file?) := by
  induction tasks with
  | nil => exact .nil
  | cons task rest ih =>
    have htask := ht task (List.mem_cons_self ..)
    have hrest := ih fun other ho => ht other (List.mem_cons_of_mem _ ho)
    rw [List.filter_cons, List.map_cons, List.filterMap_cons]
    rcases ServiceTask.wellFormed_or_firstViolation htask with hw | ⟨message, hv⟩
    · obtain ⟨text, h⟩ : ∃ text, task.conclude request timestamp = .produced ⟨_, text⟩ :=
        ServiceTask.conclude_of_wellFormed htask hw
      rw [if_pos (by simpa using hw), h]
      exact .cons h hrest
    · rw [if_neg (by simpa using hv.not_wellFormed), ServiceTask.conclude_of_firstViolation htask hv]
      exact hrest

end Rows

/-! ## Runs -/

theorem map_results (request : Request) (renderer : Renderer) : (request.results renderer).map (·.1) = request.tasks := by
  rw [results, List.map_map]
  exact List.map_id' _

theorem map_reverse_results (request : Request) (renderer : Renderer) :
    ((request.results renderer).reverse).map (·.1) = request.tasks.reverse := by
  rw [List.map_reverse, map_results]

namespace EndsWith
variable {renderer : Renderer} {order : List Finished} {response : Response}

theorem order_perm (h : request.EndsWith renderer order response) : order.Perm (request.results renderer) := by
  obtain ⟨_, hruns, _⟩ := h
  exact results_perm hruns

theorem tasks_perm (h : request.EndsWith renderer order response) : (order.map (·.1)).Perm request.tasks := by
  rw [← request.map_results renderer]
  exact h.order_perm.map _

theorem eq_response (h : request.EndsWith renderer order response) :
    response.files = order.filterMap Finished.file? ∧ response.error = order.findSome? Finished.failure? := by
  obtain ⟨outcome, hruns, rfl⟩ := h
  obtain ⟨hfiles, herror⟩ : outcome.Holds order := hruns.holds Outcome.holds_nil
  exact ⟨hfiles, herror.trans List.head?_filterMap⟩

variable (h : request.EndsWith (adapterRenderer timestamp) order response)
include h

/-- Every task has the result that it has on its own. -/
theorem order_eq : order = (order.map (·.1)).map fun task => (task, task.conclude request timestamp) := by
  rw [List.map_map]
  refine (List.map_id' order).symm.trans (List.map_congr_left fun entry hentry => ?_)
  exact Prod.ext rfl (mem_results.mp (h.order_perm.subset hentry)).2

theorem files_eq : response.files =
    ((order.map (·.1)).map fun task => (task, task.conclude request timestamp)).filterMap Finished.file? := by
  rw [← h.order_eq]
  exact h.eq_response.1

theorem error_eq : response.error =
    (order.map (·.1)).findSome? fun task => Finished.failure? (task, task.conclude request timestamp) := by
  have herror := h.eq_response.2
  rw [h.order_eq, List.findSome?_map] at herror
  exact herror

theorem error_eq_none_iff : response.error = none ↔ ∀ task ∈ request.tasks, task.WellFormed request := by
  rw [h.error_eq, findSome?_failure?_eq_none_iff fun _ ht => h.tasks_perm.subset ht]
  exact forall_congr' fun task => imp_congr_left h.tasks_perm.mem_iff

theorem error_eq_some_iff {message : String} : response.error = some message ↔
    ∃ before task after, order.map (·.1) = before ++ task :: after ∧
      (∀ other ∈ before, other.WellFormed request) ∧ task.FirstViolation request message := by
  rw [h.error_eq]
  exact findSome?_failure?_eq_some_iff fun _ ht => h.tasks_perm.subset ht

theorem forall₂_wellFormed :
    List.Forall₂ (fun task file => task.conclude request timestamp = .produced file)
      ((order.map (·.1)).filter fun task => task.WellFormed request) response.files := by
  rw [h.files_eq]
  exact forall₂_files fun _ ht => h.tasks_perm.subset ht

theorem length_files : response.files.length = request.tasks.countP (fun task => task.WellFormed request) := by
  rw [← h.forall₂_wellFormed.length_eq, ← List.countP_eq_length_filter]
  exact h.tasks_perm.countP_eq _

end EndsWith

theorem response_files : (request.run (adapterRenderer timestamp)).response.files =
    (request.tasks.map fun task => (task, task.conclude request timestamp)).filterMap Finished.file? := by
  rw [(request.endsWith_run _).files_eq, map_results]

theorem response_error : (request.run (adapterRenderer timestamp)).response.error =
    request.tasks.findSome? fun task => Finished.failure? (task, task.conclude request timestamp) := by
  rw [(request.endsWith_run _).error_eq, map_results]

theorem response_error_eq_none_iff : (request.run (adapterRenderer timestamp)).response.error = none ↔
    ∀ task ∈ request.tasks, task.WellFormed request :=
  (request.endsWith_run _).error_eq_none_iff

theorem forall₂_response_files :
    List.Forall₂ (fun task file => task.conclude request timestamp = .produced file)
      (request.tasks.filter fun task => task.WellFormed request)
      (request.run (adapterRenderer timestamp)).response.files := by
  rw [response_files]
  exact forall₂_files fun _ ht => ht

/-- What becomes of every service, and of the whole run, whatever order the tasks finish in: a file for each
well-formed service, and the message of the first one to finish that is not. No task breaks down. Task order
is one of the orders. -/
theorem adapters_of_wellFormed_services (request : Request) (timestamp : Timestamp) :
    (∀ task ∈ request.tasks,
      (task.WellFormed request ∧ ∃ text,
        task.conclude request timestamp = .produced ⟨task.destination request.settings, text⟩) ∨
      (¬ task.WellFormed request ∧ ∃ message, task.FirstViolation request message ∧
        task.conclude request timestamp = .failed message)) ∧
    (∀ task ∈ request.tasks, ∀ message, task.FirstViolation request message →
      task.conclude request timestamp = .failed message) ∧
    (∀ name : String, (∀ c ∈ name.toList, c ≠ '\'' ∧ c ≠ '\\' ∧ ¬ unprintable.has c.toNat) →
      quoted name = "'" ++ name ++ "'") ∧
    (∀ task ∈ request.tasks, ∀ kind text, task.conclude request timestamp ≠ .broken kind text) ∧
    (∀ order, order.Perm (request.results (adapterRenderer timestamp)) →
      ∃ response, request.EndsWith (adapterRenderer timestamp) order response) ∧
    (request.EndsWith (adapterRenderer timestamp) (request.results (adapterRenderer timestamp))
      (request.run (adapterRenderer timestamp)).response ∧
      (request.results (adapterRenderer timestamp)).map (·.1) = request.tasks) ∧
    ∀ order response, request.EndsWith (adapterRenderer timestamp) order response →
      (order.map (·.1)).Perm request.tasks ∧
      List.Forall₂ (fun task file => task.conclude request timestamp = .produced file)
        ((order.map (·.1)).filter fun task => task.WellFormed request) response.files ∧
      response.files.length = request.tasks.countP (fun task => task.WellFormed request) ∧
      (response.error = none ↔ ∀ task ∈ request.tasks, task.WellFormed request) ∧
      ∀ message, response.error = some message ↔
        ∃ before task after, order.map (·.1) = before ++ task :: after ∧
          (∀ other ∈ before, other.WellFormed request) ∧ task.FirstViolation request message := by
  refine ⟨?_, fun task ht message => ServiceTask.conclude_of_firstViolation ht, fun name => quoted_of_plain,
    fun task ht => ServiceTask.conclude_ne_broken ht, ?_, ⟨request.endsWith_run _, request.map_results _⟩, ?_⟩
  · intro task ht
    rcases ServiceTask.wellFormed_or_firstViolation ht with hw | ⟨message, hv⟩
    · exact Or.inl ⟨hw, ServiceTask.conclude_of_wellFormed ht hw⟩
    · exact Or.inr ⟨hv.not_wellFormed, message, hv, ServiceTask.conclude_of_firstViolation ht hv⟩
  · intro order horder
    exact ⟨_, endsWith_of_perm horder⟩
  · intro order response h
    exact ⟨h.tasks_perm, h.forall₂_wellFormed, h.length_files, h.error_eq_none_iff, fun _ => h.error_eq_some_iff⟩

/-! ## Failing services of one file -/

/-- A file with a service for each violation, behind one that is well formed. -/
def mixedFile : SourceFile where
  name := "x.proto"
  package := "p"
  messages := [{ name := "M" }]
  services := [
    { name := "Good", methods := [{ name := "Get", input := ".p.M", output := ".p.M" }] },
    { name := "Lost", methods := [{ name := "Get", input := ".p.B", output := ".p.A" }] },
    { name := "b-" },
    { name := "Odd", methods := [{ name := "get-", input := ".p.M" }] },
    { name := "Bare", methods := [{ name := "Get" }] }]

def mixed : Request := { targets := ["x.proto"], files := [mixedFile] }

theorem tasks_mixed : mixed.tasks = mixedFile.services.map fun service => ⟨mixedFile, service⟩ := rfl

def lost : ServiceTask := ⟨mixedFile, { name := "Lost", methods := [{ name := "Get", input := ".p.B", output := ".p.A" }] }⟩

def bare : ServiceTask := ⟨mixedFile, { name := "Bare", methods := [{ name := "Get" }] }⟩

theorem firstViolation_lost :
    lost.FirstViolation mixed "x.proto: Lost: unresolved type reference(s): .p.A, .p.B" := by
  have hnames : ∀ name, name ∈ [".p.A", ".p.B"] ↔
      name ≠ "" ∧ lost.service.Mentions name ∧ ¬ mixed.Knows name := by
    intro name
    constructor
    · intro hname
      rcases List.mem_pair.mp hname with rfl | rfl
      · exact ⟨by decide, ⟨_, List.mem_singleton_self _, Or.inr rfl⟩, by decide +kernel⟩
      · exact ⟨by decide, ⟨_, List.mem_singleton_self _, Or.inl rfl⟩, by decide +kernel⟩
    · rintro ⟨_, ⟨method, hmethod, hname⟩, _⟩
      obtain rfl := List.mem_singleton.mp hmethod
      exact List.mem_pair.mpr hname.symm
  exact .unresolvedTypes (by decide) (by decide) hnames

theorem firstViolation_bare : bare.FirstViolation mixed "x.proto: Bare.Get: unknown input type ''" :=
  @ServiceTask.FirstViolation.inputType mixed bare [] [] { name := "Get" } (by decide +kernel) (by decide +kernel)
    (by decide +kernel) rfl nofun rfl

/-- The first and the last of the failing services, each reported by the run in which it finishes first. -/
theorem adapters_of_mixed :
    (⟨mixedFile, { name := "b-" }⟩ : ServiceTask).conclude mixed .sample =
      .failed "x.proto: invalid service name 'b-'" ∧
    (⟨mixedFile, { name := "Odd", methods := [{ name := "get-", input := ".p.M" }] }⟩ : ServiceTask).conclude mixed
      .sample = .failed "x.proto: Odd has invalid method name 'get-'" ∧
    (mixed.run (adapterRenderer .sample)).response.files.length = 1 ∧
    (mixed.run (adapterRenderer .sample)).response.error =
      some "x.proto: Lost: unresolved type reference(s): .p.A, .p.B" ∧
    ∃ response, mixed.EndsWith (adapterRenderer .sample) (mixed.results (adapterRenderer .sample)).reverse response ∧
      response.files.length = 1 ∧ response.error = some "x.proto: Bare.Get: unknown input type ''" := by
  obtain ⟨_, hfailed, _, _, horders, ⟨hrun, htasks⟩, hends⟩ := adapters_of_wellFormed_services mixed .sample
  have hcount : mixed.tasks.countP (fun task => task.WellFormed mixed) = 1 := by decide +kernel
  obtain ⟨_, _, hlength, _, herror⟩ := hends _ _ hrun
  obtain ⟨response, hreversed⟩ := horders _ (List.reverse_perm _)
  obtain ⟨_, _, hlength', _, herror'⟩ := hends _ _ hreversed
  refine ⟨?_, ?_, hlength.trans hcount, ?_, response, hreversed, hlength'.trans hcount, ?_⟩
  · refine hfailed _ (by simp [tasks_mixed, mixedFile]) _ ?_
    exact .serviceName (by decide +kernel) (by decide +kernel)
  · refine hfailed _ (by simp [tasks_mixed, mixedFile]) _ ?_
    exact @ServiceTask.FirstViolation.methodName mixed _ [] [] { name := "get-", input := ".p.M" } (by decide +kernel)
      (by decide +kernel) rfl nofun (by decide +kernel)
  · refine (herror _).mpr ⟨[mixed.tasks.head (by decide)], lost, mixed.tasks.drop 2, ?_, by decide +kernel,
      firstViolation_lost⟩
    rw [htasks]
    rfl
  · exact (herror' _).mpr ⟨[], bare, mixed.tasks.reverse.tail, map_reverse_results _ _, nofun, firstViolation_bare⟩

/-- Two services whose names are no identifiers. -/
def misnamedFile : SourceFile := { name := "x.proto", services := [{ name := "a-" }, { name := "b-" }] }

def misnamed : Request := { targets := ["x.proto"], files := [misnamedFile] }

theorem firstViolation_earlier (request : Request) : (⟨misnamedFile, { name := "a-" }⟩ : ServiceTask).FirstViolation
    request "x.proto: invalid service name 'a-'" :=
  .serviceName nofun (by decide +kernel)

theorem firstViolation_later (request : Request) : (⟨misnamedFile, { name := "b-" }⟩ : ServiceTask).FirstViolation
    request "x.proto: invalid service name 'b-'" :=
  .serviceName nofun (by decide +kernel)

/-- A run need not report the first failing service of the request. -/
theorem error_not_of_first_task : ¬ ∀ (request : Request) order response before task after message,
    request.EndsWith (adapterRenderer .sample) order response → request.tasks = before ++ task :: after →
    (∀ other ∈ before, other.WellFormed request) → task.FirstViolation request message →
    response.error = some message := by
  intro hclaimed
  have hends := endsWith_of_perm (List.reverse_perm (misnamed.results (adapterRenderer .sample)))
  have herror := hclaimed misnamed _ _ [] _ _ _ hends rfl nofun (firstViolation_earlier misnamed)
  have horder : ((misnamed.results (adapterRenderer .sample)).reverse).map (·.1) =
      [] ++ ⟨misnamedFile, { name := "b-" }⟩ :: [⟨misnamedFile, { name := "a-" }⟩] := map_reverse_results _ _
  rw [hends.error_eq_some_iff.mpr ⟨_, _, _, horder, nofun, firstViolation_later misnamed⟩] at herror
  exact absurd herror (by decide +kernel)

end Request
end DispatchGen
