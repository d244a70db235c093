import DispatchGen.Adapter.Build

/-! # Checks of a job

What stops a job: a name that is not usable, the service's before the methods' and those in their
order, and then the first method whose input type has no entry. A job that nothing stops has an adapter.
-/
namespace DispatchGen
open Text

section Lists
variable {α β ε : Type} {f : α → Except ε β}

theorem exists_mapM_eq_ok {l : List α} (h : ∀ a ∈ l, ∃ b, f a = .ok b) : ∃ bs, l.mapM f = .ok bs := by
  induction l with
  | nil => exact ⟨[], rfl⟩
  | cons a rest ih =>
    obtain ⟨b, hb⟩ := h a (List.mem_cons_self ..)
    obtain ⟨bs, hbs⟩ := ih fun x hx => h x (List.mem_cons_of_mem _ hx)
    refine ⟨b :: bs, ?_⟩
    rw [List.mapM_cons, hb, hbs]
    rfl

theorem mapM_eq_error {before after : List α} {a : α} {e : ε} (hb : ∀ x ∈ before, ∃ b, f x = .ok b)
    (ha : f a = .error e) : (before ++ a :: after).mapM f = .error e := by
  obtain ⟨bs, hbs⟩ := exists_mapM_eq_ok hb
  rw [List.mapM_append, hbs, List.mapM_cons, ha]
  rfl

end Lists

namespace RenderJob
variable {job : RenderJob} {before after : List Method} {method : Method} {timestamp : Timestamp}

theorem checkNames_eq_ok (hs : isUsableName job.service.name)
    (hm : ∀ method ∈ job.service.methods, isUsableName method.name) : job.checkNames = .ok () := by
  have hnone : (job.service.methods.find? fun method => !isUsableName method.name) = none := by
    rw [List.find?_eq_none]
    intro method hmethod
    simp [hm method hmethod]
  simp [checkNames, hs, hnone]

theorem checkNames_eq_serviceName (hs : ¬ isUsableName job.service.name) :
    job.checkNames = .error (.serviceName job.file job.service.name) := by
  simp [checkNames, hs]

theorem checkNames_eq_methodName (hs : isUsableName job.service.name)
    (hsplit : job.service.methods = before ++ method :: after)
    (hb : ∀ m ∈ before, isUsableName m.name) (hm : ¬ isUsableName method.name) :
    job.checkNames = .error (.methodName job.file job.service.name method.name) := by
  have hfind : (job.service.methods.find? fun m => !isUsableName m.name) = some method := by
    rw [List.find?_eq_some_iff_append]
    refine ⟨by simpa using hm, before, after, hsplit, ?_⟩
    intro m hmem
    simp [hb m hmem]
  simp [checkNames, hs, hfind]

theorem inputEntry_eq_ok {entry : TypeEntry} (h : job.types.resolve method.input = some entry) :
    job.inputEntry method = .ok entry := by
  simp [inputEntry, h]

theorem exists_inputEntries (h : ∀ method ∈ job.service.methods, (job.types.resolve method.input).isSome) :
    ∃ inputs, job.inputEntries = .ok inputs := by
  apply exists_mapM_eq_ok
  intro method hmethod
  obtain ⟨entry, he⟩ := Option.isSome_iff_exists.mp (h method hmethod)
  exact ⟨(method, entry), by rw [inputEntry_eq_ok he]; rfl⟩

theorem inputEntries_eq_error (hsplit : job.service.methods = before ++ method :: after)
    (hb : ∀ m ∈ before, (job.types.resolve m.input).isSome) (hm : job.types.resolve method.input = none) :
    job.inputEntries = .error (.inputType job.file job.service.name method.name method.input) := by
  rw [inputEntries, hsplit]
  apply mapM_eq_error
  · intro m hmem
    obtain ⟨entry, he⟩ := Option.isSome_iff_exists.mp (hb m hmem)
    exact ⟨(m, entry), by rw [inputEntry_eq_ok he]; rfl⟩
  · simp [inputEntry, hm, Except.map]

theorem adapter_of_checkNames {refusal : Refusal} (h : job.checkNames = .error refusal) :
    job.adapter timestamp = .error refusal := by
  rw [adapter, h]
  rfl

theorem adapter_of_inputEntries {refusal : Refusal} (hc : job.checkNames = .ok ())
    (h : job.inputEntries = .error refusal) : job.adapter timestamp = .error refusal := by
  rw [adapter, hc, h]
  rfl

theorem exists_adapter {inputs : List (Method × TypeEntry)} (hc : job.checkNames = .ok ())
    (h : job.inputEntries = .ok inputs) : ∃ adapter, job.adapter timestamp = .ok adapter := by
  rw [adapter, hc, h]
  exact ⟨_, rfl⟩

end RenderJob
end DispatchGen
