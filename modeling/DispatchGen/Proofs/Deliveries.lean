import DispatchGen.CommandLine.Run
import DispatchGen.Proofs.OrderSettings
import DispatchGen.Proofs.OutputDirectory
import DispatchGen.Proofs.RoundTrip

/-! # What a delivery leaves behind

Where no file operation fails, every file of the response is written, nothing else changes, and a failure
of the generator is told only afterwards, with all paths that were written. The response is the one that
the plugin gives for the same files, and the command prints the paths whether the generator has failed or
not.
-/
namespace DispatchGen
open Text Wire

/-! ## The settings of an order -/

namespace DeliveryOrder
variable {order : DeliveryOrder} {store : FileStore} {timestamp : Timestamp} {files : List SourceFile}
variable {finishing : List Finished} {run : Run}

/-- Without a path, and with no comma in the package, the settings name no directory. -/
theorem settings_path (hpath : order.path = none ∨ order.path = some "")
    (hpackage : ∀ package, order.package = some package → ',' ∉ package.toList) :
    (order.request files).settings.path = "." := by
  have hsettings : (order.request files).settings = Settings.ofParameter order.parameter := rfl
  have hnone : wanted order.path = none := by
    rcases hpath with h | h
    · rw [h, wanted]
    · rw [h, wanted, if_pos rfl]
  have hfree : CommaFree order.path := by
    rintro text htext
    rcases hpath with h | h
    · cases h.symm.trans htext
    · obtain rfl : "" = text := Option.some.inj (h.symm.trans htext)
      exact List.not_mem_nil
  rw [hsettings, ofParameter_of_commaFree hpackage hfree, hnone]
  rfl

/-! ## The files of a response on disk -/

def ordered (response : Response) : List OutputFile :=
  response.files.mergeSort fun a b => decide (a.name ≤ b.name)

theorem mem_ordered {response : Response} {file : OutputFile} : file ∈ ordered response ↔ file ∈ response.files :=
  List.mem_mergeSort

theorem pairwise_ordered (response : Response) : (ordered response).Pairwise fun a b => a.name ≤ b.name := by
  have h := @List.pairwise_mergeSort _ (fun a b : OutputFile => decide (a.name ≤ b.name))
    (fun a b c => by simpa using String.le_trans)
    (fun a b => by simpa using String.le_total a.name b.name) response.files
  simpa only [ordered, decide_eq_true_eq] using h

theorem writes_eq (order : DeliveryOrder) (response : Response) :
    order.writes response = (ordered response).map fun file => (order.target file, file.content) := rfl

theorem paths_writes (order : DeliveryOrder) (response : Response) :
    (order.writes response).map (·.1) = (ordered response).map order.target := by
  rw [writes_eq, List.map_map]
  rfl

/-- What an order leaves behind that is carried out, for a response and the paths that were written. -/
structure CarriedOut (order : DeliveryOrder) (response : Response) (store : FileStore) (delivery : Delivery)
    (paths : List FilePath) : Prop where
  ascending : ∃ files : List OutputFile, files.Perm response.files ∧
    files.Pairwise (fun a b => a.name ≤ b.name) ∧ paths = files.map order.target
  result : delivery.result = match response.error with
    | none => .ok paths
    | some message => .error (.generation message paths)
  content : ∀ file ∈ response.files, (∀ other ∈ response.files, other.name = file.name → other = file) →
    delivery.store.read (order.target file) = .ok file.content.toUTF8.data.toList
  frame : FileStore.Frame (fun place => ∃ path ∈ paths, delivery.store.follow path = .ok place) store
    delivery.store

/-- When nothing goes wrong with the files, all writing is done before the end. -/
theorem carryOut_eq {plan : DeliveryPlan} (hfiles : ∀ error, (plan.carryOut store).result ≠ .error (.file error)) :
    Delivery.writeAll store plan.writes = ((plan.carryOut store).store, none) ∧
      (plan.carryOut store).result = plan.conclusion := by
  unfold DeliveryPlan.carryOut at hfiles ⊢
  cases hwrites : Delivery.writeAll store plan.writes with
  | mk result error =>
    simp only [hwrites] at hfiles ⊢
    cases error with
    | some error => exact absurd rfl (hfiles error)
    | none => exact ⟨rfl, rfl⟩

theorem carriedOut (hrun : (order.request files).EndsWith (adapterRenderer timestamp) finishing run.response)
    (hfiles : ∀ error, ((order.plan run).carryOut store).result ≠ .error (.file error)) :
    CarriedOut order run.response store ((order.plan run).carryOut store)
      ((ordered run.response).map order.target) := by
  obtain ⟨hwrites, hresult⟩ := carryOut_eq hfiles
  have hwrote := Delivery.wroteAll_of_writeAll hwrites
  have hpaths : (order.plan run).writes.map (·.1) = (ordered run.response).map order.target := paths_writes ..
  rw [DeliveryPlan.conclusion, hpaths] at hresult
  refine ⟨⟨_, List.mergeSort_perm _ _, pairwise_ordered _, rfl⟩, ?_, fun file hfile hshared => ?_, ?_⟩
  · rw [hresult, DeliveryOrder.plan]
    cases run.response.error with
    | none => rfl
    | some message => rfl
  · have hrow : (order.target file, file.content) ∈ (order.plan run).writes :=
      List.mem_map_of_mem (mem_ordered.mpr hfile)
    -- The text at the place is that of a file that leads there, and so of a file of the same name.
    obtain ⟨place, hplace, row, hother, hsame, hentry⟩ := hwrote.entry _ hrow
    obtain ⟨other, hmem, rfl⟩ := List.mem_map.mp hother
    have hname := name_eq_of_follow (hrun.mem_files (mem_ordered.mp hmem)) (hrun.mem_files hfile) hsame hplace
    rw [← hshared other (mem_ordered.mp hmem) hname]
    exact FileStore.read_eq hsame hentry
  · refine hwrote.frame.mono ?_
    rintro place ⟨row, hrow, hleads⟩
    obtain ⟨file, hfile, rfl⟩ := List.mem_map.mp hrow
    exact ⟨_, List.mem_map_of_mem hfile, hleads⟩

/-! ## Where the files are -/

/-- A delivery puts its files directly in the output directory exactly when the settings lead nowhere else. -/
theorem isChildOf_output_iff
    (hrun : (order.request files).EndsWith (adapterRenderer timestamp) finishing run.response) :
    (∀ path ∈ (ordered run.response).map order.target, path.IsChildOf order.output) ↔
      (ordered run.response).map order.target = [] ∨
        order.output.append (order.request files).directory = order.output := by
  constructor
  · intro hall
    rw [or_iff_not_imp_left]
    intro hne
    obtain ⟨path, hpath⟩ := List.exists_mem_of_ne_nil _ hne
    obtain ⟨other, _, hchild⟩ := hall path hpath
    obtain ⟨file, hfile, rfl⟩ := List.mem_map.mp hpath
    obtain ⟨name, _, htarget, _⟩ := exists_target_eq_child (hrun.mem_files (mem_ordered.mp hfile))
    exact FilePath.child_inj (htarget.symm.trans hchild)
  · rintro (hnone | hsame) path hpath
    · rw [hnone] at hpath
      exact absurd hpath List.not_mem_nil
    · obtain ⟨file, hfile, rfl⟩ := List.mem_map.mp hpath
      obtain ⟨name, hn, htarget, _⟩ := exists_target_eq_child (hrun.mem_files (mem_ordered.mp hfile))
      exact ⟨name, hn, by rw [htarget, hsame]⟩

theorem append_directory (hpath : (order.request files).settings.path = ".") :
    order.output.append (order.request files).directory = order.output := by
  have hdirectory : (order.request files).directory = ⟨"", []⟩ := by
    rw [Request.directory, hpath]
    decide
  rw [hdirectory, FilePath.append, if_pos rfl, List.append_nil]

/-! ## The command -/

/-- The command has printed the paths, and its code tells whether the generator has failed. What it says of
a failure stands behind the log. -/
structure Reported (ending : CommandLine.Ending) (response : Response) (paths : List FilePath) (log : String) :
    Prop where
  output : ending.output = String.join (paths.map fun path => path.text ++ "\n")
  code : ending.code = if response.error = none then 0 else 1
  errors : ending.errors = log ++ match response.error with
    | none => ""
    | some message => "error: " ++ message ++ "\n"
  raised : ending.raised = none

theorem CarriedOut.reported {response : Response} {delivery : Delivery} {paths : List FilePath}
    (h : CarriedOut order response store delivery paths) (log : String) :
    Reported (CommandLine.conclude delivery.result log) response paths log := by
  have hresult := h.result
  cases herror : response.error with
  | none =>
    rw [herror] at hresult
    rw [hresult]
    exact ⟨rfl, by rw [herror]; rfl, by rw [herror]; exact (String.append_empty).symm, rfl⟩
  | some message =>
    rw [herror] at hresult
    have hassoc : log ++ "error: " ++ message ++ "\n" = log ++ ("error: " ++ message ++ "\n") := by
      rw [String.append_assoc, String.append_assoc, String.append_assoc]
    rw [hresult]
    exact ⟨rfl, by rw [herror]; rfl, by rw [herror]; exact hassoc, rfl⟩

theorem run_of_readSet (hset : Delivery.readSet store order.source = .ok (some files)) :
    Delivery.run store order timestamp =
      some ((order.plan ((order.request files).run (adapterRenderer timestamp))).carryOut store) := by
  rw [Delivery.run, hset]

theorem deliver_eq {command : CommandLine.Command} {output : String} (houtput : command.output = some output)
    (htargets : none ∉ command.targets) :
    command.deliver store timestamp = Delivery.run store (command.order output) timestamp := by
  have hgiven : ¬ command.targets.contains none := by simpa using htargets
  have hplan : ∀ files, command.plan output timestamp files =
      .ok ((command.order output).plan (((command.order output).request files).run (adapterRenderer timestamp))) :=
    fun _ => if_neg hgiven
  have hsource : (command.order output).source = FilePath.ofString command.source := rfl
  rw [CommandLine.Command.deliver, houtput, Delivery.run, hsource]
  rcases Delivery.readSet store (FilePath.ofString command.source) with error | (_ | files)
  · rfl
  · rfl
  · dsimp only
    rw [hplan]

theorem exists_commandLine_run {command : CommandLine.Command} {words : List String}
    {delivery : Delivery} (environment : Option String) (hread : CommandLine.read words = .ok (some command))
    (hdelivery : command.deliver store timestamp = some delivery) :
    ∃ log, CommandLine.run store environment timestamp words =
      some ⟨CommandLine.conclude delivery.result log, delivery.store⟩ := by
  refine ⟨Verbosity.lines (Verbosity.chosenLevel command.verbose environment) delivery.diagnostics, ?_⟩
  rw [CommandLine.run, hread]
  simp only [hdelivery, Option.map_some]

/-! ## A set with one service -/

def oneService : List SourceFile := [{ name := "x.proto", services := [{ name := "A" }] }]

def storeOf (files : List SourceFile) : FileStore :=
  ⟨[(⟨.above 0, ["set.pb"]⟩, .file (Field.writeAll (SourceFile.writtenSet files)))]⟩

theorem readSet_oneService : Delivery.readSet (storeOf oneService) ⟨"", ["set.pb"]⟩ = .ok (some oneService) := by
  have hbytes : (storeOf oneService).read ⟨"", ["set.pb"]⟩ =
      .ok (Field.writeAll (SourceFile.writtenSet oneService)) := rfl
  have hdepth : Field.nestingOf (SourceFile.writtenSet oneService) ≤ messageDepth := by decide
  have hlength : (Field.writeAll (SourceFile.writtenSet oneService)).length < 0x80000000 := by decide +kernel
  rw [Delivery.readSet, hbytes]
  simp only [Delivery.filesOfBytes, readFileSet_writeAll hdepth hlength]
  rfl

def runOfOneService (order : DeliveryOrder) : Run := (order.request oneService).run (adapterRenderer .sample)

/-- The one file of the set is written when nothing stands in the way of its path. -/
theorem result_oneService {name : String} {path : FilePath}
    (hnames : ((order.request oneService).tasks.filter fun task => task.WellFormed (order.request oneService)).map
      (·.destination (order.request oneService).settings) = [name])
    (herror : ∀ task ∈ (order.request oneService).tasks, task.WellFormed (order.request oneService))
    (hpath : order.output.append (FilePath.ofString name) = path)
    (hdeliver : ∀ content, ∃ result, (storeOf oneService).deliver path content = .ok result) :
    ((order.plan (runOfOneService order)).carryOut (storeOf oneService)).result = .ok [path] := by
  have hsame : (runOfOneService order).response.files.map (·.name) = [name] :=
    Request.response_names.trans hnames
  obtain ⟨file, hfile, rfl⟩ := List.map_eq_singleton_iff.mp hsame
  obtain ⟨result, hresult⟩ := hdeliver (utf8 file.content)
  have htarget : order.target file = path := hpath
  have hwrites : (order.plan (runOfOneService order)).writes = [(path, file.content)] := by
    rw [plan, writes_eq, ordered, hfile, List.mergeSort_singleton, List.map_singleton, htarget]
  have hwritten : Delivery.writeAll (storeOf oneService) [(path, file.content)] = (result, none) := by
    rw [Delivery.writeAll, hresult]
    rfl
  have hnone : (order.plan (runOfOneService order)).error = none := Request.response_error_eq_none_iff.mpr herror
  simp only [DeliveryPlan.carryOut, hwrites, hwritten, DeliveryPlan.conclusion, hnone, List.map_cons, List.map_nil]

/-- A delivery for a set that can be read, whatever order the tasks finish in, as long as the files
themselves make no trouble. All files are directly in the output directory unless the settings lead
elsewhere, which without a path they do only through a comma in the package. -/
theorem carried_out_as_plugin (store : FileStore) (order : DeliveryOrder) (timestamp : Timestamp)
    (files : List SourceFile) (hset : Delivery.readSet store order.source = .ok (some files))
    (finishing : List Finished) (run : Run)
    (hrun : (order.request files).EndsWith (adapterRenderer timestamp) finishing run.response)
    (hfiles : ∀ error, ((order.plan run).carryOut store).result ≠ .error (.file error)) :
    ∃ paths, CarriedOut order run.response store ((order.plan run).carryOut store) paths ∧
      (∀ level, Exchange.Answers (Exchange.answer level run) run.response) ∧
      (∀ log, Reported (CommandLine.conclude ((order.plan run).carryOut store).result log) run.response paths log) ∧
      (run = (order.request files).run (adapterRenderer timestamp) →
        Delivery.run store order timestamp = some ((order.plan run).carryOut store) ∧
        (∀ environment input, readRequest input = .ok (some
            { targets := if order.targets = [] then files.map (·.name) else order.targets,
              parameter := order.parameter, files := files }) →
          ∃ exit, Exchange.run environment timestamp input = some exit ∧ Exchange.Answers exit run.response) ∧
        ∀ environment words command output, CommandLine.read words = .ok (some command) →
          command.output = some output → none ∉ command.targets → command.order output = order →
          ∃ exit log, CommandLine.run store environment timestamp words = some exit ∧
            exit.store = ((order.plan run).carryOut store).store ∧ Reported exit.toEnding run.response paths log) ∧
      ((∀ path ∈ paths, path.IsChildOf order.output) ↔
        paths = [] ∨ order.output.append (order.request files).directory = order.output) ∧
      ((order.path = none ∨ order.path = some "") →
        (∀ package, order.package = some package → ',' ∉ package.toList) →
        ∀ path ∈ paths, path.IsChildOf order.output) := by
  have hcarried := carriedOut hrun hfiles
  refine ⟨_, hcarried, fun level => Exchange.answers_answer hrun level run.diagnostics run.workers,
    fun log => hcarried.reported log, ?_, isChildOf_output_iff hrun, ?_⟩
  · rintro rfl
    refine ⟨run_of_readSet hset, fun environment input hread => Exchange.exists_answers hread, ?_⟩
    rintro environment words command output hread houtput htargets rfl
    obtain ⟨log, hlog⟩ := exists_commandLine_run environment hread
      ((deliver_eq houtput htargets).trans (run_of_readSet hset))
    exact ⟨_, log, hlog, rfl, hcarried.reported log⟩
  · intro hpath hpackage
    exact (isChildOf_output_iff hrun).mpr (Or.inr (append_directory (settings_path hpath hpackage)))

def plainOrder : DeliveryOrder := { source := ⟨"", ["set.pb"]⟩, output := ⟨"", ["out"]⟩ }

def plainCommand : CommandLine.Command := { source := "set.pb", output := some "out" }

theorem order_plainCommand : plainCommand.order "out" = plainOrder := by
  have hsource : FilePath.ofString "set.pb" = ⟨"", ["set.pb"]⟩ := by decide
  have houtput : FilePath.ofString "out" = ⟨"", ["out"]⟩ := by decide
  show DeliveryOrder.mk (FilePath.ofString "set.pb") [] (FilePath.ofString "out") none none = plainOrder
  rw [hsource, houtput]
  rfl

theorem result_plainOrder : ((plainOrder.plan (runOfOneService plainOrder)).carryOut (storeOf oneService)).result =
    .ok [⟨"", ["out", "x_grpcer.py"]⟩] :=
  result_oneService (by decide +kernel) (by decide +kernel)
    (by decide : plainOrder.output.append (FilePath.ofString "x_grpcer.py") = ⟨"", ["out", "x_grpcer.py"]⟩)
    fun content => ⟨_, rfl⟩

/-- One file is written, and the command prints its path and nothing else on its output. -/
theorem carried_out_plainOrder :
    Delivery.readSet (storeOf oneService) plainOrder.source = .ok (some oneService) ∧
    (plainOrder.request oneService).EndsWith (adapterRenderer .sample)
      ((plainOrder.request oneService).results (adapterRenderer .sample))
      (runOfOneService plainOrder).response ∧
    (∀ error, ((plainOrder.plan (runOfOneService plainOrder)).carryOut (storeOf oneService)).result ≠
      .error (.file error)) ∧
    CarriedOut plainOrder (runOfOneService plainOrder).response (storeOf oneService)
      ((plainOrder.plan (runOfOneService plainOrder)).carryOut (storeOf oneService))
      [⟨"", ["out", "x_grpcer.py"]⟩] ∧
    (⟨"", ["out", "x_grpcer.py"]⟩ : FilePath).IsChildOf plainOrder.output ∧
    ∃ exit, CommandLine.run (storeOf oneService) none .sample ["set.pb", "--out", "out"] = some exit ∧
      exit.code = 0 ∧ exit.output = "out/x_grpcer.py\n" ∧
      exit.store = ((plainOrder.plan (runOfOneService plainOrder)).carryOut (storeOf oneService)).store := by
  have hends : (plainOrder.request oneService).EndsWith (adapterRenderer .sample) _
      (runOfOneService plainOrder).response := (plainOrder.request oneService).endsWith_run _
  have hnofault : ∀ error, ((plainOrder.plan (runOfOneService plainOrder)).carryOut (storeOf oneService)).result ≠
      .error (.file error) := by
    rw [result_plainOrder]
    exact nofun
  have hread : CommandLine.read ["set.pb", "--out", "out"] = .ok (some plainCommand) := rfl
  obtain ⟨paths, hcarried, _, _, hrun, _, hchild⟩ := carried_out_as_plugin (storeOf oneService) plainOrder .sample
    oneService readSet_oneService _ (runOfOneService plainOrder) hends hnofault
  obtain ⟨_, _, hcommand⟩ := hrun rfl
  obtain ⟨exit, log, hexit, hstore, hreported⟩ := hcommand none _ _ "out" hread rfl List.not_mem_nil order_plainCommand
  have herror : (runOfOneService plainOrder).response.error = none :=
    Request.response_error_eq_none_iff.mpr (by decide +kernel)
  have hpaths : paths = [⟨"", ["out", "x_grpcer.py"]⟩] := by
    have hresult := hcarried.result
    rw [herror, result_plainOrder] at hresult
    exact (Except.ok.inj hresult).symm
  subst hpaths
  refine ⟨readSet_oneService, hends, hnofault, hcarried, ?_, exit, hexit, ?_, ?_, hstore⟩
  · exact hchild (Or.inl rfl) nofun _ (List.mem_singleton_self _)
  · rw [hreported.code, herror]
    rfl
  · rw [hreported.output]
    decide +kernel

/-- The same order with a package that holds a comma and, behind it, what reads as a path. -/
def commaOrder : DeliveryOrder := { plainOrder with package := some "p,path=sub" }

/-- The order names no path, and its one file is not put directly in the output directory. -/
theorem commaOrder_leaves_output :
    Delivery.readSet (storeOf oneService) commaOrder.source = .ok (some oneService) ∧ commaOrder.path = none ∧
    (∃ delivery, Delivery.run (storeOf oneService) commaOrder .sample = some delivery ∧
      delivery.result = .ok [⟨"", ["out", "sub", "x_grpcer.py"]⟩]) ∧
    ¬ (⟨"", ["out", "sub", "x_grpcer.py"]⟩ : FilePath).IsChildOf commaOrder.output := by
  have hpath : commaOrder.output.append (FilePath.ofString "sub/x_grpcer.py") =
      ⟨"", ["out", "sub", "x_grpcer.py"]⟩ := by decide
  -- Directly in the output directory a path has two names.
  refine ⟨readSet_oneService, rfl, ⟨_, run_of_readSet readSet_oneService, ?_⟩, ?_⟩
  · exact result_oneService (by decide +kernel) (by decide +kernel) hpath fun content => ⟨_, rfl⟩
  · rintro ⟨name, _, hchild⟩
    have houtput : commaOrder.output.child name = ⟨"", ["out", name]⟩ := rfl
    rw [houtput] at hchild
    cases hchild

end DeliveryOrder
end DispatchGen
