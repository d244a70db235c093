import DispatchGen.Exchange
import DispatchGen.Proofs.Completion
import DispatchGen.Proofs.ResponseReader

/-! # What the compiler gets back

The plugin ends in one of two ways. For bytes that are no request it writes nothing and says why on one
line; for a request it writes the response of the generator, and reading the output gives the response
again. Which messages are logged has no part in either.
-/
namespace DispatchGen

theorem Verbosity.output_critical (chosen : Level) (message : String) :
    output chosen .critical message = line .critical message := by
  cases chosen <;> rfl

namespace Exchange
open Wire

/-- The process has written nothing but one critical line, which says what is wrong with its input. -/
structure Refuses (exit : Exit) (damage : Damage) : Prop where
  code : exit.code = 1
  output : exit.output = []
  errors : exit.errors = "[protoc-gen-grpcer] CRITICAL " ++ "cannot parse CodeGeneratorRequest: " ++
    "Error parsing message with type '" ++ "google.protobuf.compiler.CodeGeneratorRequest" ++ "': " ++
    (match damage with
      | .corrupt => "Wire format was corrupt"
      | .tooDeep => "Exceeded upb_DecodeOptions_MaxDepth") ++ "\n"
  oneLine : exit.errors.toList.count '\n' = 1

/-- The process has succeeded, and reading its output gives the response. -/
structure Answers (exit : Exit) (response : Response) : Prop where
  code : exit.code = 0
  output : exit.output.length < 0x80000000 → readResponse exit.output = .ok (some response)

theorem line_cannotParse (damage : Damage) :
    Verbosity.line .critical ("cannot parse CodeGeneratorRequest: " ++ damage.message requestType) =
      "[protoc-gen-grpcer] CRITICAL " ++ "cannot parse CodeGeneratorRequest: " ++
        "Error parsing message with type '" ++ "google.protobuf.compiler.CodeGeneratorRequest" ++ "': " ++
        (match damage with
          | .corrupt => "Wire format was corrupt"
          | .tooDeep => "Exceeded upb_DecodeOptions_MaxDepth") ++ "\n" := by
  have hopening : "[protoc-gen-grpcer] " ++ Level.critical.name ++ " " = "[protoc-gen-grpcer] CRITICAL " := by
    decide +kernel
  have hassoc : ∀ a b c d e reason g : String,
      a ++ (b ++ (c ++ d ++ e ++ reason)) ++ g = a ++ b ++ c ++ d ++ e ++ reason ++ g := by
    intro a b c d e reason g
    simp only [String.append_assoc]
  refine Eq.trans ?_ (hassoc _ _ _ _ _ _ _)
  rw [← hopening]
  cases damage with
  | corrupt => rfl
  | tooDeep => rfl

theorem count_lineFeed_cannotParse (damage : Damage) :
    (Verbosity.line .critical ("cannot parse CodeGeneratorRequest: " ++ damage.message requestType)).toList.count
      '\n' = 1 := by
  have hcount : ∀ {a b : String}, (a ++ b).toList.count '\n' = a.toList.count '\n' + b.toList.count '\n' := by
    intro a b
    rw [String.toList_append, List.count_append]
  have hname : "google.protobuf.compiler.CodeGeneratorRequest".toList.count '\n' = 0 := by decide +kernel
  rw [line_cannotParse]
  cases damage with
  | corrupt => simp only [hcount, hname]; decide +kernel
  | tooDeep => simp only [hcount, hname]; decide +kernel

section Endings
variable {environment : Option String} {timestamp : Timestamp} {input : Bytes}

theorem exists_refuses {damage : Damage} (h : readRequest input = .error damage) :
    ∃ exit, run environment timestamp input = some exit ∧ Refuses exit damage := by
  rw [run, h]
  refine ⟨_, rfl, ?_⟩
  rw [Verbosity.output_critical]
  exact ⟨rfl, rfl, line_cannotParse damage, count_lineFeed_cannotParse damage⟩

theorem answers_answer {request : Request} {order : List Finished} {response : Response}
    (h : request.EndsWith (adapterRenderer timestamp) order response) (level : Level)
    (diagnostics : List Diagnostic) (workers : Option Nat) :
    Answers (answer level ⟨response, diagnostics, workers⟩) response := by
  obtain ⟨outcome, _, rfl⟩ := h
  have hfeatures : outcome.response.supportedFeatures < 0x10000000000000000 :=
    show 1 < 0x10000000000000000 by omega
  exact ⟨rfl, Response.readResponse_writeResponse hfeatures⟩

theorem exists_answers {request : Request} (h : readRequest input = .ok (some request)) :
    ∃ exit, run environment timestamp input = some exit ∧
      Answers exit (request.run (adapterRenderer timestamp)).response := by
  rw [run, h]
  exact ⟨_, rfl, answers_answer (request.endsWith_run _) _ _ _⟩

theorem run_of_environments (other : Option String) :
    (run environment timestamp input).map (fun exit => (exit.code, exit.output)) =
      (run other timestamp input).map fun exit => (exit.code, exit.output) := by
  rw [run, run]
  cases readRequest input with
  | error damage => rfl
  | ok request =>
    cases request with
    | none => rfl
    | some request => rfl

theorem answers_or_refuses_of_writtenAs {request : Request} {fields : List Field} (h : request.WrittenAs fields)
    (hlength : (Field.writeAll fields).length < 0x80000000) :
    ∃ exit, run environment timestamp (Field.writeAll fields) = some exit ∧
      if Field.nestingOf fields ≤ messageDepth then Answers exit (request.run (adapterRenderer timestamp)).response
      else Refuses exit .tooDeep := by
  have hread := h.readRequest_eq hlength
  split
  · next hn =>
    rw [if_pos hn] at hread
    exact exists_answers hread
  · next hn =>
    rw [if_neg hn] at hread
    exact exists_refuses hread

end Endings

/-- How the plugin ends for every input that is damaged or has all its texts in UTF-8, and for every
request as it is written: only a request whose messages stand too deep in each other is refused. What it
answers is read back whatever order the tasks finish in. -/
theorem answers_or_refuses (timestamp : Timestamp) :
    (∀ environment input damage, readRequest input = .error damage →
      ∃ exit, run environment timestamp input = some exit ∧ Refuses exit damage) ∧
    (∀ environment input request, readRequest input = .ok (some request) →
      ∃ exit, run environment timestamp input = some exit ∧
        Answers exit (request.run (adapterRenderer timestamp)).response) ∧
    (∀ environment other input,
      (run environment timestamp input).map (fun exit => (exit.code, exit.output)) =
        (run other timestamp input).map fun exit => (exit.code, exit.output)) ∧
    (∀ (request : Request) (fields : List Field), request.WrittenAs fields →
      (Field.writeAll fields).length < 0x80000000 → ∀ environment,
        ∃ exit, run environment timestamp (Field.writeAll fields) = some exit ∧
          if Field.nestingOf fields ≤ messageDepth then
            Answers exit (request.run (adapterRenderer timestamp)).response
          else Refuses exit .tooDeep) ∧
    (∀ request : Request, request.WrittenAs request.written) ∧
    ∀ (request : Request) order response, request.EndsWith (adapterRenderer timestamp) order response →
      ∀ level diagnostics workers, Answers (answer level ⟨response, diagnostics, workers⟩) response := by
  refine ⟨?_, ?_, ?_, ?_, Request.writtenAs_written, ?_⟩
  · intro environment input damage h
    exact exists_refuses h
  · intro environment input request h
    exact exists_answers h
  · intro environment other input
    exact run_of_environments other
  · intro request fields h hlength environment
    exact answers_or_refuses_of_writtenAs h hlength
  · intro request order response h level diagnostics workers
    exact answers_answer h level diagnostics workers

/-! ## A request that is refused -/

/-- A message with the given number of messages inside it, each in the one before. -/
def chain : Nat → Message
  | 0 => { name := "M" }
  | n + 1 => { name := "M", nested := [chain n] }

theorem written_chain (n : Nat) : (chain (n + 1)).written = [.text 1 "M", .message 3 (chain n).written] := rfl

theorem nestingOf_chain (n : Nat) : Field.nestingOf (chain n).written = n := by
  induction n with
  | zero => rfl
  | succ n ih =>
    simp only [written_chain, Field.nestingOf, Field.nesting, ih]
    omega

theorem length_writeVarint_le {limit n : Nat} (h : n < 128 ^ (limit + 1)) :
    (writeVarint n).length ≤ limit + 1 := by
  induction limit generalizing n with
  | zero =>
    have hsmall : n < 128 := by simpa using h
    rw [writeVarint, if_pos hsmall]
    exact Nat.le_refl 1
  | succ limit ih =>
    rw [writeVarint]
    split
    · rw [List.length_singleton]
      omega
    · have hrest : n / 128 < 128 ^ (limit + 1) := by
        rw [Nat.pow_succ] at h
        exact Nat.div_lt_of_lt_mul (by omega)
      rw [List.length_cons]
      exact Nat.succ_le_succ (ih hrest)

/-- What stands in front of a payload takes at most ten bytes. -/
theorem length_writeDelimited_le {key bound : Nat} {content : Bytes} (hk : Field.IsKey key)
    (hc : content.length ≤ bound) (hbound : bound < 0x80000000) :
    (writeDelimited key content).length ≤ bound + 10 := by
  obtain ⟨_, hkey⟩ := hk
  have htag : (writeVarint (key * 8 + 2)).length ≤ 5 := length_writeVarint_le (by omega)
  have hsize : (writeVarint content.length).length ≤ 5 := length_writeVarint_le (by omega)
  rw [writeDelimited, List.length_append, List.length_append]
  omega

theorem length_chain_le {n : Nat} (hn : n ≤ 100) : (Field.writeAll (chain n).written).length ≤ 11 + 21 * n := by
  have hname : (writeDelimited 1 (utf8 "M")).length ≤ 1 + 10 :=
    length_writeDelimited_le (by decide) (by decide) (by omega)
  induction n with
  | zero =>
    have hwritten : Field.writeAll (chain 0).written = writeDelimited 1 (utf8 "M") ++ [] := rfl
    rw [hwritten, List.append_nil]
    omega
  | succ n ih =>
    have hinner := length_writeDelimited_le (show Field.IsKey 3 by decide) (ih (by omega)) (by omega)
    simp only [written_chain, Field.writeAll, Field.write, writeText, List.length_append, List.length_nil]
    omega

/-- A request for nothing, with one file that declares one message. -/
def requestAbout (message : Message) : Request := { files := [{ name := "x.proto", messages := [message] }] }

theorem written_requestAbout (message : Message) : (requestAbout message).written =
    [.text 2 "", .message 15 [.text 1 "x.proto", .text 2 "", .message 4 message.written]] := rfl

theorem length_requestAbout_lt {message : Message} (h : (Field.writeAll message.written).length ≤ 3000) :
    (Field.writeAll (requestAbout message).written).length < 0x80000000 := by
  have hempty : (writeDelimited 2 (utf8 "")).length ≤ 0 + 10 :=
    length_writeDelimited_le (by decide) (by decide) (by omega)
  have hname : (writeDelimited 1 (utf8 "x.proto")).length ≤ 7 + 10 :=
    length_writeDelimited_le (by decide) (by decide) (by omega)
  have hmessage := length_writeDelimited_le (show Field.IsKey 4 by decide) h (by omega)
  have hfields : (Field.writeAll [.text 1 "x.proto", .text 2 "", .message 4 message.written]).length ≤ 3037 := by
    simp only [Field.writeAll, Field.write, writeText, List.length_append, List.length_nil]
    omega
  have hfile := length_writeDelimited_le (show Field.IsKey 15 by decide) hfields (by omega)
  rw [written_requestAbout, Field.writeAll, Field.writeAll, Field.writeAll, Field.write, Field.write, writeText,
    List.length_append, List.length_append, List.length_nil]
  omega

theorem nestingOf_requestAbout (message : Message) :
    Field.nestingOf (requestAbout message).written = Field.nestingOf message.written + 2 := by
  simp only [written_requestAbout, Field.nestingOf, Field.nesting]
  omega

/-- Its innermost message stands at level 101. -/
def deepRequest : Request := requestAbout (chain 99)

theorem length_deepRequest_lt : (Field.writeAll deepRequest.written).length < 0x80000000 :=
  length_requestAbout_lt (Nat.le_trans (length_chain_le (by omega)) (by omega))

theorem nestingOf_deepRequest : Field.nestingOf deepRequest.written = 101 := by
  rw [deepRequest, nestingOf_requestAbout, nestingOf_chain]

theorem refuses_deepRequest : deepRequest.WrittenAs deepRequest.written ∧
    (Field.writeAll deepRequest.written).length < 0x80000000 ∧
    ∃ exit, run none .sample (Field.writeAll deepRequest.written) = some exit ∧ Refuses exit .tooDeep ∧
      ¬ Answers exit (deepRequest.run (adapterRenderer .sample)).response := by
  have hread : readRequest (Field.writeAll deepRequest.written) = .error .tooDeep := by
    rw [deepRequest.writtenAs_written.readRequest_eq length_deepRequest_lt, nestingOf_deepRequest,
      if_neg (by decide)]
  obtain ⟨exit, hrun, hrefuses⟩ := @exists_refuses none .sample _ _ hread
  refine ⟨deepRequest.writtenAs_written, length_deepRequest_lt, exit, hrun, hrefuses, fun hanswers => ?_⟩
  have hcode : (0 : Nat) = 1 := hanswers.code.symm.trans hrefuses.code
  omega

end Exchange
end DispatchGen
