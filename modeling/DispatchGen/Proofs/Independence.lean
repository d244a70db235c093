import DispatchGen.Proofs.Assembly
import DispatchGen.Proofs.WellFormed

/-! # Independence of tasks

What a task gives depends on its own service, the name and the dependencies of its root, whether the
service is the only one there, and what a reference shows of each input type. Of an output type it only
matters that it is known. Nothing else in a request has a part in it, and the time stands in one place.
-/
namespace DispatchGen
open Text

section Lists
variable {α β γ ε : Type}

theorem mapM_congr_of_mem {f g : α → Except ε β} {l : List α} (h : ∀ a ∈ l, f a = g a) :
    l.mapM f = l.mapM g := by
  induction l with
  | nil => rfl
  | cons a rest ih =>
    have hrest := ih fun x hx => h x (List.mem_cons_of_mem _ hx)
    rw [List.mapM_cons, List.mapM_cons, h a (List.mem_cons_self ..), hrest]

/-- A view of the results can be taken after the run or at each step. -/
theorem map_mapM (view : β → γ) (f : α → Except ε β) (l : List α) :
    (l.mapM f).map (List.map view) = l.mapM fun a => (f a).map view := by
  induction l with
  | nil => rfl
  | cons a rest ih =>
    rw [List.mapM_cons, List.mapM_cons, ← ih]
    cases f a with
    | error e => rfl
    | ok b => cases rest.mapM f <;> rfl

end Lists

/-- What a reference shows of an entry. -/
def TypeEntry.view (entry : TypeEntry) : String × String :=
  (entry.fileName, entry.relativeName)

namespace RenderJob

structure SameView (job other : RenderJob) : Prop where
  package : job.package = other.package
  file : job.file = other.file
  service : job.service = other.service
  directories : job.directories = other.directories
  inputs : ∀ method ∈ job.service.methods,
    (job.types.resolve method.input).map TypeEntry.view = (other.types.resolve method.input).map TypeEntry.view

namespace SameView
variable {job other : RenderJob} {timestamp : Timestamp}

theorem checkNames_eq (h : job.SameView other) : job.checkNames = other.checkNames := by
  rw [checkNames, checkNames, h.file, h.service]

theorem inputEntry_eq (h : job.SameView other) {method : Method} (hmethod : method ∈ job.service.methods) :
    (job.inputEntry method).map TypeEntry.view = (other.inputEntry method).map TypeEntry.view := by
  have hview := h.inputs method hmethod
  unfold inputEntry
  rw [h.file, h.service]
  cases hjob : job.types.resolve method.input with
  | none =>
    rw [hjob] at hview
    rw [Option.map_eq_none_iff.mp hview.symm]
  | some entry =>
    rw [hjob, Option.map_some] at hview
    obtain ⟨otherEntry, hother, hsame⟩ := Option.map_eq_some_iff.mp hview.symm
    rw [hother]
    exact congrArg Except.ok hsame.symm

theorem inputEntries_eq (h : job.SameView other) :
    job.inputEntries.map (List.map fun input => (input.1, input.2.view)) =
      other.inputEntries.map (List.map fun input => (input.1, input.2.view)) := by
  rw [inputEntries, inputEntries, map_mapM, map_mapM, ← h.service]
  refine mapM_congr_of_mem fun method hmethod => ?_
  have hpair : ∀ result : Except Refusal TypeEntry,
      (result.map fun entry => (method, entry)).map (fun input => (input.1, input.2.view)) =
        (result.map TypeEntry.view).map fun view => (method, view) := by
    intro result
    cases result <;> rfl
  rw [hpair, hpair, h.inputEntry_eq hmethod]

/-- The assembly sees of the entries what references show. -/
theorem assembled_eq (h : job.SameView other) {inputs others : List (Method × TypeEntry)}
    (hviews : inputs.map (fun input => (input.1, input.2.view)) =
      others.map fun input => (input.1, input.2.view)) :
    job.assembled timestamp inputs = other.assembled timestamp others := by
  have hfiles : inputs.map (·.2.fileName) = others.map (·.2.fileName) := by
    have hmap := congrArg (List.map fun input : Method × String × String => input.2.1) hviews
    simpa [Function.comp_def, TypeEntry.view] using hmap
  have hbranches : (inputs.map fun input => (⟨input.1, Reference.ofEntry other.file input.2⟩ : Branch)) =
      others.map fun input => ⟨input.1, Reference.ofEntry other.file input.2⟩ := by
    have hmap := congrArg (List.map fun input : Method × String × String =>
      (⟨input.1, if input.2.1 = other.file then Reference.rootModule else InterfaceFile.boundName input.2.1,
        input.2.2⟩ : Branch)) hviews
    simpa [Function.comp_def, TypeEntry.view, Reference.ofEntry] using hmap
  rw [assembled, assembled, directoryOrder, directoryOrder, foreignFiles, foreignFiles, h.package, h.file,
    h.service, h.directories, hfiles]
  exact congrArg (Adapter.mk _ _ _ _ _) hbranches

theorem adapter_eq (h : job.SameView other) : job.adapter timestamp = other.adapter timestamp := by
  have hinputs := h.inputEntries_eq
  rw [RenderJob.adapter, RenderJob.adapter, h.checkNames_eq]
  cases other.checkNames with
  | error refusal => rfl
  | ok _ =>
    cases hjob : job.inputEntries with
    | error refusal =>
      cases hother : other.inputEntries with
      | error otherRefusal =>
        rw [hjob, hother] at hinputs
        cases hinputs
        rfl
      | ok others =>
        rw [hjob, hother] at hinputs
        cases hinputs
    | ok inputs =>
      cases hother : other.inputEntries with
      | error otherRefusal =>
        rw [hjob, hother] at hinputs
        cases hinputs
      | ok others =>
        rw [hjob, hother] at hinputs
        exact congrArg Except.ok (h.assembled_eq (Except.ok.inj hinputs))

end SameView
end RenderJob

namespace Adapter

theorem lines_drop (adapter : Adapter) : adapter.lines.drop 3 =
    adapter.headerLines.drop 3 ++ [""] ++ adapter.importLines ++ adapter.bodyLines := by
  rw [lines_eq, headerLines]
  simp only [List.cons_append, List.drop_succ_cons, List.drop_zero]

/-- What stands behind the time. -/
def afterTimestamp (adapter : Adapter) : String :=
  "\n" ++ "\n".intercalate (adapter.lines.drop 3)

theorem text_eq_header (adapter : Adapter) : adapter.text =
    "# Generated with protoc-gen-grpcer\n#\tfrom \"" ++ adapter.file ++ "\"\n#\tat   " ++
      adapter.timestamp.text ++ adapter.afterTimestamp := by
  have hlines : adapter.lines = ("# Generated with " ++ generatorName) :: ("#\tfrom \"" ++ adapter.file ++ "\"") ::
      ("#\tat   " ++ adapter.timestamp.text) :: adapter.lines.drop 3 := rfl
  obtain ⟨next, rest, hrest⟩ : ∃ next rest, adapter.lines.drop 3 = next :: rest := ⟨_, _, rfl⟩
  have hgenerator : "# Generated with protoc-gen-grpcer\n#\tfrom \"" =
      "# Generated with " ++ generatorName ++ "\n" ++ "#\tfrom \"" := by decide
  have hfile : "\"\n#\tat   " = "\"" ++ "\n" ++ "#\tat   " := by decide
  rw [text, afterTimestamp, hlines, hrest, hgenerator, hfile, List.drop_succ_cons, List.drop_succ_cons,
    List.drop_succ_cons, List.drop_zero]
  simp only [String.intercalate_cons_cons, String.append_assoc]

end Adapter

namespace RenderJob

theorem afterTimestamp_assembled (job : RenderJob) (inputs : List (Method × TypeEntry)) (t u : Timestamp) :
    (job.assembled t inputs).afterTimestamp = (job.assembled u inputs).afterTimestamp := by
  have hheader : (job.assembled t inputs).headerLines.drop 3 = (job.assembled u inputs).headerLines.drop 3 := by
    simp only [Adapter.headerLines, List.drop_succ_cons, List.drop_zero]
    rfl
  have himports : (job.assembled t inputs).importLines = (job.assembled u inputs).importLines := rfl
  have hbody : (job.assembled t inputs).bodyLines = (job.assembled u inputs).bodyLines := rfl
  rw [Adapter.afterTimestamp, Adapter.afterTimestamp, Adapter.lines_drop, Adapter.lines_drop, hheader, himports,
    hbody]

/-- The time does not decide whether a job is refused, nor what its adapter is put together from. -/
theorem refused_or_content (job : RenderJob) :
    (∃ message, ∀ timestamp, adapterRenderer timestamp job = .refused message) ∨
      ∃ inputs, ∀ timestamp, adapterRenderer timestamp job = .content (job.assembled timestamp inputs).text := by
  cases hchecks : job.checkNames with
  | error refusal =>
    refine Or.inl ⟨refusal.message, fun timestamp => ?_⟩
    rw [adapterRenderer, adapter_of_checkNames hchecks]
  | ok _ =>
    cases hentries : job.inputEntries with
    | error refusal =>
      refine Or.inl ⟨refusal.message, fun timestamp => ?_⟩
      rw [adapterRenderer, adapter_of_inputEntries hchecks hentries]
    | ok inputs =>
      exact Or.inr ⟨inputs, fun timestamp => adapterRenderer_eq_content_iff.mpr ⟨hchecks, inputs, hentries, rfl⟩⟩

end RenderJob

theorem Request.resolve_input {request : Request} {task : ServiceTask} (ht : task ∈ request.tasks)
    {method : Method} (hmethod : method ∈ task.service.methods) : request.signatureTypes.resolve method.input =
      if method.input = "" then none else request.catalog.resolve method.input := by
  split
  next hempty =>
    rw [hempty]
    exact resolve_signatureTypes_empty
  next hne => exact resolve_signatureTypes ht ⟨method, hmethod, Or.inl rfl⟩ hne

namespace ServiceTask

/-- What a task of one request has in common with a task of another. -/
structure SameView (a b : Request) (s t : ServiceTask) : Prop where
  parameter : a.parameter = b.parameter
  rootName : s.root.name = t.root.name
  dependencies : s.root.dependencies = t.root.dependencies
  several : 1 < s.root.services.length ↔ 1 < t.root.services.length
  service : s.service = t.service
  inputs : ∀ method ∈ s.service.methods, method.input ≠ "" →
    (a.catalog.resolve method.input).map (fun entry => (entry.fileName, entry.relativeName)) =
      (b.catalog.resolve method.input).map fun entry => (entry.fileName, entry.relativeName)
  outputs : ∀ method ∈ s.service.methods, method.output ≠ "" →
    ((a.catalog.resolve method.output).isSome ↔ (b.catalog.resolve method.output).isSome)

variable {a b request : Request} {s t task : ServiceTask}

theorem SameView.knows_iff (h : SameView a b s t) {name : String} (hne : name ≠ "")
    (hname : s.service.Mentions name) : a.Knows name ↔ b.Knows name := by
  rw [← Request.isSome_resolve_catalog, ← Request.isSome_resolve_catalog]
  obtain ⟨method, hmethod, rfl | rfl⟩ := hname
  · have hsome := congrArg Option.isSome (h.inputs method hmethod hne)
    rw [Option.isSome_map, Option.isSome_map] at hsome
    rw [hsome]
  · exact h.outputs method hmethod hne

theorem SameView.unresolved_eq (h : SameView a b s t) (hs : s ∈ a.tasks) (ht : t ∈ b.tasks) :
    s.unresolved a.signatureTypes = t.unresolved b.signatureTypes := by
  refine (pairwise_sortedDistinct _).eq_of_mem_iff (pairwise_sortedDistinct _) fun name => ?_
  refine (mem_unresolved hs).trans (Iff.trans ?_ (mem_unresolved ht).symm)
  rw [← h.service]
  refine and_congr_right fun hne => and_congr_right fun hname => ?_
  rw [h.knows_iff hne hname]

theorem SameView.job (h : SameView a b s t) (hs : s ∈ a.tasks) (ht : t ∈ b.tasks) :
    (s.job a.settings a.signatureTypes).SameView (t.job b.settings b.signatureTypes) where
  package := by rw [ServiceTask.job, ServiceTask.job, Request.settings, Request.settings, h.parameter]
  file := h.rootName
  service := h.service
  directories := by rw [ServiceTask.job, ServiceTask.job, h.service, h.dependencies]
  inputs method hmethod := by
    have hsmethod : method ∈ s.service.methods := hmethod
    have htmethod : method ∈ t.service.methods := h.service ▸ hsmethod
    have hresolve := h.inputs method hsmethod
    simp only [ServiceTask.job]
    rw [Request.resolve_input hs hsmethod, Request.resolve_input ht htmethod]
    split
    next => rfl
    next hne => exact hresolve hne

theorem SameView.destination_eq (h : SameView a b s t) : s.destination a.settings = t.destination b.settings := by
  rw [destination, destination, Request.settings, Request.settings, h.parameter, h.rootName, h.service,
    if_congr h.several rfl rfl]

theorem SameView.conclude_eq (h : SameView a b s t) (hs : s ∈ a.tasks) (ht : t ∈ b.tasks) (timestamp : Timestamp) :
    s.conclude a timestamp = t.conclude b timestamp := by
  have hrenderer : adapterRenderer timestamp (s.job a.settings a.signatureTypes) =
      adapterRenderer timestamp (t.job b.settings b.signatureTypes) := by
    rw [adapterRenderer, adapterRenderer, (h.job hs ht).adapter_eq]
  rw [conclude, conclude, run, run, h.unresolved_eq hs ht, hrenderer, h.destination_eq, h.rootName, h.service]

/-- A task of two requests ends alike in both when their settings and their catalogs agree. -/
theorem conclude_congr (hparameter : a.parameter = b.parameter)
    (hcatalog : ∀ name, a.catalog.resolve name = b.catalog.resolve name) (ha : task ∈ a.tasks)
    (hb : task ∈ b.tasks) (timestamp : Timestamp) : task.conclude a timestamp = task.conclude b timestamp := by
  have hview : SameView a b task task :=
    { parameter := hparameter
      rootName := rfl
      dependencies := rfl
      several := Iff.rfl
      service := rfl
      inputs := fun method _ _ => by rw [hcatalog]
      outputs := fun method _ _ => by rw [hcatalog] }
  exact hview.conclude_eq ha hb timestamp

/-- The time decides neither whether a task fails nor what is written before or behind it. -/
theorem conclude_of_timestamps (request : Request) (task : ServiceTask) :
    (∃ message, ∀ timestamp, task.conclude request timestamp = .failed message) ∨
      ∃ name after, ∀ timestamp : Timestamp, task.conclude request timestamp = .produced
        ⟨name, "# Generated with protoc-gen-grpcer\n#\tfrom \"" ++ task.root.name ++ "\"\n#\tat   " ++
          timestamp.text ++ after⟩ := by
  let job := task.job request.settings request.signatureTypes
  unfold conclude run
  cases task.unresolved request.signatureTypes with
  | cons name rest => exact Or.inl ⟨_, fun _ => rfl⟩
  | nil =>
    rcases job.refused_or_content with ⟨message, hrefused⟩ | ⟨inputs, hcontent⟩
    · refine Or.inl ⟨message, fun timestamp => ?_⟩
      simp only [hrefused timestamp, job]
    · refine Or.inr ⟨task.destination request.settings, (job.assembled default inputs).afterTimestamp,
        fun timestamp => ?_⟩
      have htext := hcontent timestamp
      rw [Adapter.text_eq_header, job.afterTimestamp_assembled inputs timestamp default] at htext
      simp only [htext, job]
      rfl

/-- Two tasks with the same view end alike whatever else their requests hold: both fail with one message,
or both give a file of one name and text. Other times change nothing but the time in the header. -/
theorem conclude_of_sameView (hs : s ∈ a.tasks) (ht : t ∈ b.tasks) (h : SameView a b s t) :
    (∃ message, ∀ timestamp, s.conclude a timestamp = .failed message ∧ t.conclude b timestamp = .failed message) ∨
      ∃ name after, ∀ timestamp : Timestamp,
        s.conclude a timestamp = .produced ⟨name, "# Generated with protoc-gen-grpcer\n#\tfrom \"" ++ s.root.name ++
          "\"\n#\tat   " ++ timestamp.text ++ after⟩ ∧
        t.conclude b timestamp = .produced ⟨name, "# Generated with protoc-gen-grpcer\n#\tfrom \"" ++ s.root.name ++
          "\"\n#\tat   " ++ timestamp.text ++ after⟩ := by
  have hsame := h.conclude_eq hs ht
  rcases conclude_of_timestamps a s with ⟨message, hfailed⟩ | ⟨name, after, hproduced⟩
  · exact Or.inl ⟨message, fun timestamp => ⟨hfailed timestamp, (hsame timestamp).symm.trans (hfailed timestamp)⟩⟩
  · exact Or.inr ⟨name, after, fun timestamp =>
      ⟨hproduced timestamp, (hsame timestamp).symm.trans (hproduced timestamp)⟩⟩

def feed : Service where
  name := "Feed"
  methods := [{ name := "Get", input := ".q.M", output := ".p.N" }]

/-- A root with two services that has the output type of one of them itself. -/
def quietRoot : SourceFile where
  name := "d/x.proto"
  package := "p"
  dependencies := ["y.proto"]
  messages := [{ name := "N" }]
  services := [feed, { name := "Other" }]

def quiet : Request where
  targets := ["d/x.proto"]
  files := [{ name := "y.proto", package := "q", messages := [{ name := "M" }] }, quietRoot]

/-- A root of the same name with other services around the same one. -/
def busyRoot : SourceFile where
  name := "d/x.proto"
  package := "p"
  dependencies := ["y.proto"]
  services := [{ name := "Else", methods := [{ name := "Put", input := ".u.V", output := ".u.V" }] }, feed,
    { name := "More" }]

/-- Another root, messages with fields, other places of the files, and the output type elsewhere. -/
def busy : Request where
  targets := ["z.proto", "d/x.proto"]
  files := [busyRoot, { name := "z.proto", package := "z", services := [feed] },
    { name := "n.proto", package := "p", messages := [{ name := "N", fields := ["a"] }] },
    { name := "y.proto", package := "q", messages := [{ name := "L" }, { name := "M", fields := ["b", "c"] }] }]

theorem conclude_of_feed :
    ⟨quietRoot, feed⟩ ∈ quiet.tasks ∧ ⟨busyRoot, feed⟩ ∈ busy.tasks ∧
      SameView quiet busy ⟨quietRoot, feed⟩ ⟨busyRoot, feed⟩ ∧
      ∃ after, ∀ timestamp : Timestamp,
        conclude quiet timestamp ⟨quietRoot, feed⟩ = .produced ⟨"x_feed_grpcer.py",
          "# Generated with protoc-gen-grpcer\n#\tfrom \"d/x.proto\"\n#\tat   " ++ timestamp.text ++ after⟩ ∧
        conclude busy timestamp ⟨busyRoot, feed⟩ = .produced ⟨"x_feed_grpcer.py",
          "# Generated with protoc-gen-grpcer\n#\tfrom \"d/x.proto\"\n#\tat   " ++ timestamp.text ++ after⟩ := by
  have hquiet : (⟨quietRoot, feed⟩ : ServiceTask) ∈ quiet.tasks := by
    have htasks : quiet.tasks = [⟨quietRoot, feed⟩, ⟨quietRoot, { name := "Other" }⟩] := rfl
    simp [htasks]
  have hbusy : (⟨busyRoot, feed⟩ : ServiceTask) ∈ busy.tasks := by
    have hroots : busyRoot ∈ busy.rootFiles := by
      have h : busy.rootFiles = [{ name := "z.proto", package := "z", services := [feed] }, busyRoot] := rfl
      simp [h]
    exact List.mem_flatMap.mpr ⟨busyRoot, hroots, List.mem_map.mpr ⟨feed, by simp [busyRoot], rfl⟩⟩
  have hview : SameView quiet busy ⟨quietRoot, feed⟩ ⟨busyRoot, feed⟩ :=
    { parameter := rfl
      rootName := rfl
      dependencies := rfl
      several := by decide
      service := rfl
      inputs := by decide
      outputs := by decide }
  have hw : WellFormed quiet ⟨quietRoot, feed⟩ := by decide
  have hname : destination ⟨quietRoot, feed⟩ quiet.settings = "x_feed_grpcer.py" := by decide
  obtain ⟨text, hgiven⟩ : ∃ text, conclude quiet ⟨2024, 5, 1, 12, 30, 0, 0, some 0⟩ ⟨quietRoot, feed⟩ =
      .produced ⟨destination ⟨quietRoot, feed⟩ quiet.settings, text⟩ := conclude_of_wellFormed hquiet hw
  rcases conclude_of_sameView hquiet hbusy hview with ⟨message, hfailed⟩ | ⟨name, after, hproduced⟩
  · cases (hfailed _).1.symm.trans hgiven
  · have hsame := (hproduced _).1.symm.trans hgiven
    rw [TaskResult.produced.injEq, OutputFile.mk.injEq, hname] at hsame
    rw [hsame.1] at hproduced
    exact ⟨hquiet, hbusy, hview, after, hproduced⟩

end ServiceTask
end DispatchGen
