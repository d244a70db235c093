import DispatchGen.Receiver
import Mathlib.Data.List.Basic
import Mathlib.Data.List.Induction

/-! # Receivers that are shared

The code of an iterator is a loop: it asks the call for a response, hands it out, and is held there until the next
step. It is compared here with the flags of a receiver. The code runs over a call that keeps its answers, so it
can be seen what each move of each consumer has asked for. A history of moves tells all: from it follow the
iterators that are live, and from these what a further move asks for and shows.
-/
namespace DispatchGen.Receiver
variable {α : Type}

/-! ## The code of iterators -/

/-- A call that keeps the answers it has given. -/
structure RecordedCall (α : Type) where
  script : List (Event α)
  answers : List (Event α) := []

def RecordedCall.ask (call : RecordedCall α) : Event α × RecordedCall α :=
  let answer := call.script.headD .exhausted
  (answer, ⟨call.script.tail, call.answers ++ [answer]⟩)

/-- Where the code of an iterator is held. -/
inductive CodePlace where
  | entry
  | handingOut
  | left
  deriving Repr, DecidableEq

inductive CodeStop (α : Type) where
  | handsOut (response : α)
  | returns
  | breaksOff (error : Event α)

namespace CodeStop

def place : CodeStop α → CodePlace
  | handsOut _ => .handingOut
  | _ => .left

/-- What whoever made the step is shown. Code that returns gives the stop signal, so a stop signal that comes out
of the code is turned into a failure. -/
def shown : CodeStop α → Event α
  | handsOut response => .value response
  | returns => .stopped
  | breaksOff .stopped => .failed stopText
  | breaksOff error => error

end CodeStop

/-- One round of the loop. Exhaustion is caught, and the code returns; nothing else is caught. -/
def RecordedCall.round (call : RecordedCall α) : CodeStop α × RecordedCall α :=
  match call.ask with
  | (.value response, call) => (.handsOut response, call)
  | (.exhausted, call) => (.returns, call)
  | (error, call) => (.breaksOff error, call)

/-- Lets the code run on. From its entry and from where it hands out a response it comes to the next round. -/
def CodePlace.resume : CodePlace → RecordedCall α → CodeStop α × RecordedCall α
  | .entry, call => call.round
  | .handingOut, call => call.round
  | .left, call => (.returns, call)

/-! ## Moves and histories -/

inductive Move where
  | receive
  | iterate
  | step (which : Nat)
  deriving Repr, DecidableEq

/-- A move, what the call answered in it, and what it showed. -/
structure Turn (α : Type) where
  move : Move
  asked : List (Event α)
  shown : Option (Event α)

structure Session (α : Type) where
  call : RecordedCall α
  places : List CodePlace := []

namespace Session

def ofScript (script : List (Event α)) : Session α :=
  { call := { script } }

def perform (session : Session α) : Move → Option (Event α) × Session α
  | .receive => (some session.call.ask.1, { session with call := session.call.ask.2 })
  | .iterate => (none, { session with places := session.places ++ [.entry] })
  | .step which =>
    match session.places[which]? with
    | none => (some .stopped, session)
    | some place =>
      let (stop, call) := place.resume session.call
      (some stop.shown, ⟨call, session.places.set which stop.place⟩)

def turn (session : Session α) (move : Move) : Turn α :=
  ⟨move, (session.perform move).2.call.answers.drop session.call.answers.length, (session.perform move).1⟩

def run (session : Session α) : List Move → List (Turn α) × Session α
  | [] => ([], session)
  | move :: moves =>
    let (history, last) := (session.perform move).2.run moves
    (session.turn move :: history, last)

theorem moves_run (session : Session α) (moves : List Move) : (session.run moves).1.map (·.move) = moves := by
  induction moves generalizing session with
  | nil => rfl
  | cons move moves ih => rw [run, List.map_cons, ih, turn]

/-- What the receiver knows of a session: of each iterator only whether it can run on. -/
def receiver (session : Session α) : Receiver α :=
  ⟨session.call.script, session.places.map (· ≠ .left)⟩

end Session

def perform (r : Receiver α) : Move → Option (Event α) × Receiver α
  | .receive => (some r.receive.1, r.receive.2)
  | .iterate => (none, r.iterate)
  | .step which => (some (r.step which).1, (r.step which).2)

def run (r : Receiver α) : List Move → List (Option (Event α)) × Receiver α
  | [] => ([], r)
  | move :: moves =>
    let (shown, last) := (r.perform move).2.run moves
    ((r.perform move).1 :: shown, last)

/-! ## The code and the flags -/

namespace RecordedCall
variable {call : RecordedCall α}

theorem receive_eq (call : RecordedCall α) (live : List Bool) :
    (Receiver.mk call.script live).receive = (call.ask.1, ⟨call.ask.2.script, live⟩) := by
  rcases call with ⟨_ | ⟨event, rest⟩, answers⟩ <;> rfl

theorem round_eq (call : RecordedCall α) : call.round.2 = call.ask.2 ∧
    call.round.1.shown = passedOn call.ask.1 ∧
    (call.round.1.place ≠ .left ↔ keepsLive call.ask.1) := by
  unfold round
  rcases call.ask with ⟨_ | _ | _ | _, _⟩ <;>
    simp [CodeStop.shown, CodeStop.place, passedOn, keepsLive]

end RecordedCall

theorem CodePlace.resume_of_ne_left {place : CodePlace} (h : place ≠ .left) (call : RecordedCall α) :
    place.resume call = call.round := by
  cases place with
  | entry => rfl
  | handingOut => rfl
  | left => exact absurd rfl h

namespace Session
variable {session : Session α} {which other : Nat} {place : CodePlace}

/-- The code of the iterator can run on. -/
def Runs (session : Session α) (which : Nat) : Prop :=
  ∃ place, session.places[which]? = some place ∧ place ≠ .left

theorem perform_step_of_runs (h : session.Runs which) : session.perform (.step which) =
    (some (passedOn session.call.ask.1),
      ⟨session.call.ask.2, session.places.set which session.call.round.1.place⟩) := by
  obtain ⟨place, hplace, hleft⟩ := h
  obtain ⟨hcall, hshown, _⟩ := session.call.round_eq
  simp only [perform, hplace, CodePlace.resume_of_ne_left hleft, hcall, hshown]

theorem perform_step_of_not_runs (h : ¬ session.Runs which) :
    session.perform (.step which) = (some .stopped, session) := by
  rw [perform]
  cases hplace : session.places[which]? with
  | none => rfl
  | some place =>
    have hleft : place = .left := by
      by_contra hne
      exact h ⟨place, hplace, hne⟩
    obtain ⟨hbound, hget⟩ := List.getElem?_eq_some_iff.mp hplace
    have hset : session.places.set which .left = session.places := by
      rw [← hleft, ← hget, List.set_getElem_self]
    subst hleft
    simp [CodePlace.resume, CodeStop.shown, CodeStop.place, hset]

theorem live_receiver_iff : session.receiver.live.getD which false ↔ session.Runs which := by
  have hflag : session.receiver.live.getD which false =
      (session.places[which]?.map fun place => decide (place ≠ .left)).getD false := by
    simp [receiver, List.getD_eq_getElem?_getD]
  rw [hflag, Runs]
  cases session.places[which]? <;> simp

/-- What code does that is held at its places, the receiver does with its flags. -/
theorem receiver_perform (session : Session α) (move : Move) :
    session.receiver.perform move = ((session.perform move).1, (session.perform move).2.receiver) := by
  cases move with
  | receive =>
    rw [Receiver.perform, receiver, RecordedCall.receive_eq]
    rfl
  | iterate => simp [Receiver.perform, Receiver.iterate, perform, receiver]
  | step which =>
    rw [Receiver.perform, Receiver.step]
    by_cases h : session.Runs which
    · have hflag : decide (session.call.round.1.place ≠ .left) = keepsLive session.call.ask.1 := by
        rw [Bool.eq_iff_iff, decide_eq_true_iff, session.call.round_eq.2.2]
      rw [if_pos (live_receiver_iff.mpr h), perform_step_of_runs h, receiver, RecordedCall.receive_eq]
      simp only [receiver, List.map_set, hflag]
    · rw [if_neg (fun hlive => h (live_receiver_iff.mp hlive)), perform_step_of_not_runs h]

theorem receiver_run (session : Session α) (moves : List Move) : session.receiver.run moves =
    ((session.run moves).1.map (·.shown), (session.run moves).2.receiver) := by
  induction moves generalizing session with
  | nil => rfl
  | cons move moves ih =>
    rw [Receiver.run, receiver_perform, ih, run]
    rfl

end Session

/-! ## What histories tell -/

def made (past : List (Turn α)) : Nat :=
  past.countP (·.move = .iterate)

def asked (past : List (Turn α)) : List (Event α) :=
  past.flatMap (·.asked)

/-- The iterator has been made, and all its steps since then have shown responses. -/
def Lives (past : List (Turn α)) (which : Nat) : Prop :=
  ∃ before making after, past = before ++ making :: after ∧ making.move = .iterate ∧ made before = which ∧
    ∀ turn ∈ after, turn.move = .step which → ∃ response, turn.shown = some (.value response)

/-- How a turn follows on a history. Only what is asked of the call is open. -/
inductive Follows (past : List (Turn α)) : Turn α → Prop
  | received (event : Event α) : Follows past ⟨.receive, [event], some event⟩
  | made : Follows past ⟨.iterate, [], none⟩
  | handedOut {which : Nat} (h : Lives past which) (response : α) :
      Follows past ⟨.step which, [.value response], some (.value response)⟩
  | ended {which : Nat} (h : Lives past which) : Follows past ⟨.step which, [.exhausted], some .stopped⟩
  | signalled {which : Nat} (h : Lives past which) :
      Follows past ⟨.step which, [.stopped], some (.failed stopText)⟩
  | failed {which : Nat} (h : Lives past which) (text : String) :
      Follows past ⟨.step which, [.failed text], some (.failed text)⟩
  | silent {which : Nat} (h : ¬ Lives past which) : Follows past ⟨.step which, [], some .stopped⟩

/-- The first outcomes of a script, which is followed by exhaustion without end. -/
def outcomes (script : List (Event α)) (count : Nat) : List (Event α) :=
  (List.range count).map fun n => script.getD n .exhausted

def responseOf : Event α → Option α
  | .value response => some response
  | _ => none

def Turn.response? (turn : Turn α) : Option α :=
  turn.shown.bind responseOf

section Histories
variable {past rest : List (Turn α)} {turn : Turn α} {which : Nat} {script : List (Event α)}

theorem made_concat (past : List (Turn α)) (turn : Turn α) :
    made (past ++ [turn]) = made past + if turn.move = .iterate then 1 else 0 := by
  simp [made, List.countP_append, List.countP_cons]

theorem asked_concat (past : List (Turn α)) (turn : Turn α) : asked (past ++ [turn]) = asked past ++ turn.asked := by
  simp [asked]

theorem lives_concat : Lives (past ++ [turn]) which ↔ (turn.move = .iterate ∧ made past = which) ∨
    (Lives past which ∧ (turn.move = .step which → ∃ response, turn.shown = some (.value response))) := by
  constructor
  · rintro ⟨before, making, after, hsplit, hmaking, hmade, hafter⟩
    -- The last turn is the one that made the iterator, or comes behind it.
    rcases List.eq_nil_or_concat' after with rfl | ⟨between, last, rfl⟩
    · obtain ⟨rfl, rfl⟩ : past = before ∧ turn = making := by simpa using List.append_inj' hsplit rfl
      exact Or.inl ⟨hmaking, hmade⟩
    · rw [← List.cons_append, ← List.append_assoc] at hsplit
      obtain ⟨rfl, rfl⟩ : past = before ++ making :: between ∧ turn = last := by
        simpa using List.append_inj' hsplit rfl
      rw [List.forall_mem_append, List.forall_mem_singleton] at hafter
      exact Or.inr ⟨⟨before, making, between, rfl, hmaking, hmade, hafter.1⟩, hafter.2⟩
  · rintro (⟨hmaking, hmade⟩ | ⟨⟨before, making, after, rfl, hmaking, hmade, hafter⟩, hturn⟩)
    · exact ⟨past, turn, [], rfl, hmaking, hmade, List.forall_mem_nil _⟩
    · refine ⟨before, making, after ++ [turn], by simp, hmaking, hmade, ?_⟩
      rw [List.forall_mem_append, List.forall_mem_singleton]
      exact ⟨hafter, hturn⟩

/-- What has been made and lives no more does not come to life again. -/
theorem not_lives_append (hmade : which < made past) (h : ¬ Lives past which) (rest : List (Turn α)) :
    ¬ Lives (past ++ rest) which := by
  induction rest using List.reverseRecOn with
  | nil => rwa [List.append_nil]
  | append_singleton rest turn ih =>
    have hfewer : made past ≤ made (past ++ rest) := by
      rw [made, made, List.countP_append]
      exact Nat.le_add_right _ _
    rw [← List.append_assoc, lives_concat]
    rintro (⟨_, hnew⟩ | ⟨hlives, _⟩)
    · omega
    · exact ih hlives

theorem not_lives_concat (hturn : turn.move = .step which)
    (hnone : ∀ response, turn.shown ≠ some (.value response)) : ¬ Lives (past ++ [turn]) which := by
  rw [lives_concat]
  rintro (⟨hiterate, _⟩ | ⟨_, hresponse⟩)
  · cases hturn.symm.trans hiterate
  · obtain ⟨response, hshown⟩ := hresponse hturn
    exact hnone response hshown

/-- A step of one iterator leaves the others as they are. -/
theorem lives_concat_of_ne {other : Nat} (hturn : turn.move = .step which) (hother : other ≠ which) :
    Lives (past ++ [turn]) other ↔ Lives past other := by
  simp [lives_concat, hturn, hother.symm]

theorem Follows.eq_of_not_lives (h : Follows past turn) (hturn : turn.move = .step which)
    (hover : ¬ Lives past which) : turn = ⟨.step which, [], some .stopped⟩ := by
  cases h <;> cases hturn
  case silent => rfl
  all_goals exact absurd ‹_› hover

theorem outcomes_succ (script : List (Event α)) (count : Nat) :
    outcomes script (count + 1) = outcomes script count ++ [script.getD count .exhausted] := by
  simp [outcomes, List.range_succ]

/-- Beyond the script there are no responses. -/
theorem responses_outcomes (script : List (Event α)) (count : Nat) :
    (outcomes script count).filterMap responseOf = (script.take count).filterMap responseOf := by
  induction count with
  | zero => simp [outcomes]
  | succ count ih =>
    rw [outcomes_succ, List.filterMap_append, ih, List.take_add_one, List.filterMap_append]
    congr 1
    rw [List.getD_eq_getElem?_getD]
    cases script[count]? <;> rfl

/-- A turn shows the responses that it has asked for. -/
theorem Follows.response?_eq (h : Follows past turn) :
    turn.response?.toList = turn.asked.filterMap responseOf := by
  cases h with
  | received event => cases event <;> rfl
  | _ => rfl

theorem responses_of_follows {history : List (Turn α)}
    (h : ∀ before turn after, history = before ++ turn :: after → Follows before turn) :
    history.filterMap Turn.response? = (asked history).filterMap responseOf := by
  have hturn : ∀ turn ∈ history, turn.response?.toList = turn.asked.filterMap responseOf := by
    intro turn hmem
    obtain ⟨before, after, hsplit⟩ := List.append_of_mem hmem
    exact (h before turn after hsplit).response?_eq
  rw [List.filterMap_eq_flatMap_toList, asked, List.filterMap_flatMap]
  exact List.flatMap_congr hturn

/-- Once an iterator has not shown a response, all its later turns are over before anything is asked. -/
theorem over_of_follows {history before after : List (Turn α)}
    (h : ∀ before turn after, history = before ++ turn :: after → Follows before turn)
    (hsplit : history = before ++ turn :: after) (hturn : turn.move = .step which) (hmade : which < made before)
    (hnone : ∀ response, turn.shown ≠ some (.value response)) :
    ∀ later ∈ after, later.move = .step which → later = ⟨.step which, [], some .stopped⟩ := by
  intro later hlater hmove
  obtain ⟨between, rest, rfl⟩ := List.append_of_mem hlater
  have hlonger : history = before ++ [turn] ++ between ++ later :: rest := by simp [hsplit]
  have hmade' : which < made (before ++ [turn]) := by
    rw [made_concat]
    omega
  exact (h _ later rest hlonger).eq_of_not_lives hmove
    (not_lives_append hmade' (not_lives_concat hturn hnone) between)

end Histories

/-! ## Sessions and their histories -/

/-- A call that has answered by the script from its beginning. -/
structure RecordedCall.Reads (script : List (Event α)) (call : RecordedCall α) : Prop where
  answers : call.answers = outcomes script call.answers.length
  rest : call.script = script.drop call.answers.length

theorem RecordedCall.Reads.ask {script : List (Event α)} {call : RecordedCall α} (h : call.Reads script) :
    call.ask.2.Reads script := by
  have hlength : call.ask.2.answers.length = call.answers.length + 1 := List.length_append
  constructor
  · rw [hlength, outcomes_succ, ← h.answers, RecordedCall.ask, h.rest]
    simp [List.headD_eq_head?_getD, List.getD_eq_getElem?_getD]
  · rw [hlength, ← List.drop_drop, ← h.rest, List.drop_one]
    rfl

namespace Session
variable {script : List (Event α)} {past : List (Turn α)} {session : Session α} {which : Nat}

theorem turn_receive (session : Session α) :
    session.turn .receive = ⟨.receive, [session.call.ask.1], some session.call.ask.1⟩ := by
  simp [turn, perform, RecordedCall.ask]

theorem turn_iterate (session : Session α) : session.turn .iterate = ⟨.iterate, [], none⟩ := by
  simp [turn, perform]

theorem turn_step_of_runs (h : session.Runs which) : session.turn (.step which) =
    ⟨.step which, [session.call.ask.1], some (passedOn session.call.ask.1)⟩ := by
  rw [turn, perform_step_of_runs h]
  simp [RecordedCall.ask]

theorem turn_step_of_not_runs (h : ¬ session.Runs which) :
    session.turn (.step which) = ⟨.step which, [], some .stopped⟩ := by
  rw [turn, perform_step_of_not_runs h]
  simp

structure Tracks (script : List (Event α)) (past : List (Turn α)) (session : Session α) : Prop where
  reads : session.call.Reads script
  answers : session.call.answers = asked past
  places : session.places.length = made past
  runs : ∀ which, session.Runs which ↔ Lives past which

theorem Tracks.follows (h : session.Tracks script past) (move : Move) : Follows past (session.turn move) := by
  cases move with
  | receive => exact turn_receive session ▸ .received _
  | iterate => exact turn_iterate session ▸ .made
  | step which =>
    by_cases hruns : session.Runs which
    · have hlives := (h.runs which).mp hruns
      rw [turn_step_of_runs hruns]
      cases session.call.ask.1 with
      | value response => exact .handedOut hlives response
      | exhausted => exact .ended hlives
      | stopped => exact .signalled hlives
      | failed text => exact .failed hlives text
    · rw [turn_step_of_not_runs hruns]
      exact .silent fun hlives => hruns ((h.runs which).mpr hlives)

theorem tracks_ofScript (script : List (Event α)) : (ofScript script).Tracks script [] where
  reads := ⟨rfl, rfl⟩
  answers := rfl
  places := rfl
  runs which := by simp [Runs, ofScript, Lives]

theorem runs_concat (call : RecordedCall α) (places : List CodePlace) :
    Runs ⟨call, places ++ [.entry]⟩ which ↔ places.length = which ∨ Runs ⟨call, places⟩ which := by
  unfold Runs
  rcases Nat.lt_trichotomy which places.length with hlt | rfl | hgt
  · simp [List.getElem?_append_left hlt, Nat.ne_of_gt hlt]
  · simp
  · have hmissing : (places ++ [.entry])[which]? = none := List.getElem?_eq_none (by simp; omega)
    have hmissing' : places[which]? = none := List.getElem?_eq_none (Nat.le_of_lt hgt)
    simp [hmissing, hmissing', Nat.ne_of_lt hgt]

theorem runs_set (h : session.Runs which) (call : RecordedCall α) (place : CodePlace) (other : Nat) :
    Runs ⟨call, session.places.set which place⟩ other ↔
      session.Runs other ∧ (which = other → place ≠ .left) := by
  obtain ⟨held, hheld, hleft⟩ := h
  have hbound : which < session.places.length := (List.getElem?_eq_some_iff.mp hheld).1
  unfold Runs
  by_cases hother : which = other
  · subst hother
    simp [List.getElem?_set_self hbound, hheld, hleft]
  · simp [List.getElem?_set_ne hother, hother]

theorem exists_passedOn_eq_value_iff {event : Event α} :
    (∃ response, passedOn event = .value response) ↔ keepsLive event := by
  cases event <;> simp [passedOn, keepsLive]

/-- A move leads on from what its history is to what the history is with its turn. -/
theorem Tracks.perform (h : session.Tracks script past) (move : Move) :
    (session.perform move).2.Tracks script (past ++ [session.turn move]) := by
  cases move with
  | receive =>
    rw [turn_receive]
    refine ⟨h.reads.ask, ?_, ?_, fun which => ?_⟩
    · rw [asked_concat, ← h.answers]
      rfl
    · rw [made_concat]
      exact h.places
    · have hsame : (session.perform .receive).2.Runs which ↔ session.Runs which := Iff.rfl
      rw [hsame, h.runs, lives_concat]
      simp
  | iterate =>
    rw [turn_iterate]
    refine ⟨h.reads, ?_, ?_, fun which => ?_⟩
    · rw [asked_concat, List.append_nil, ← h.answers]
      rfl
    · simp [Session.perform, made_concat, h.places]
    · rw [lives_concat, ← h.runs, Session.perform, runs_concat, h.places]
      simp
  | step which =>
    by_cases hruns : session.Runs which
    · -- The place the code is left at and what is shown both tell whether a response was handed out.
      rw [turn_step_of_runs hruns, perform_step_of_runs hruns]
      refine ⟨h.reads.ask, ?_, ?_, fun other => ?_⟩
      · rw [asked_concat, ← h.answers]
        rfl
      · rw [made_concat, List.length_set]
        exact h.places
      · rw [lives_concat, ← h.runs, runs_set hruns, session.call.round_eq.2.2, ← exists_passedOn_eq_value_iff]
        simp
    · rw [turn_step_of_not_runs hruns, perform_step_of_not_runs hruns]
      refine ⟨h.reads, ?_, ?_, fun other => ?_⟩
      · rw [asked_concat, List.append_nil, h.answers]
      · rw [made_concat]
        exact h.places
      · have hover : which = other → ¬ Lives past other := fun heq hlives => hruns (heq ▸ (h.runs other).mpr hlives)
        rw [lives_concat, h.runs]
        constructor
        · exact fun hlives => Or.inr ⟨hlives, fun hsame => absurd hlives (hover (Move.step.inj hsame))⟩
        · rintro (⟨hiterate, _⟩ | ⟨hlives, _⟩)
          · cases hiterate
          · exact hlives

theorem Tracks.run (h : session.Tracks script past) (moves : List Move) :
    (session.run moves).2.Tracks script (past ++ (session.run moves).1) ∧
      ∀ before turn after, (session.run moves).1 = before ++ turn :: after → Follows (past ++ before) turn := by
  induction moves generalizing past session with
  | nil => exact ⟨by simpa [Session.run] using h, fun before turn after heq => by simp [Session.run] at heq⟩
  | cons move moves ih =>
    obtain ⟨hlast, hturns⟩ := ih (h.perform move)
    rw [List.append_assoc] at hlast
    refine ⟨hlast, fun before turn after heq => ?_⟩
    cases before with
    | nil =>
      obtain ⟨rfl, _⟩ := List.cons.inj heq
      rw [List.append_nil]
      exact h.follows move
    | cons first before =>
      obtain ⟨rfl, hrest⟩ := List.cons.inj heq
      have hturn := hturns before turn after hrest
      rwa [List.append_assoc] at hturn

end Session

/-- Whatever is done with a receiver and the iterators over it, and in whichever order, it shows what the code of
the iterators shows over a call that answers by the script. The call is asked once in each direct call and in each
step of a live iterator, and not when an iterator is made or is over. Its answers are the outcomes of the script in
order, so every response comes out once. An iterator that has not shown a response in a step gives nothing but the
stop signal from then on and asks for nothing, while all others go on. -/
theorem run_shared (script : List (Event α)) (moves : List Move) : ∃ history last,
    (Session.ofScript script).run moves = (history, last) ∧ history.map (·.move) = moves ∧
    run ⟨script, []⟩ moves = (history.map (·.shown), last.receiver) ∧
    last.receiver.script = script.drop (asked history).length ∧
    (∀ which, last.receiver.live.getD which false ↔ Lives history which) ∧
    last.call.answers = asked history ∧ asked history = outcomes script (asked history).length ∧
    history.filterMap Turn.response? = (script.take (asked history).length).filterMap responseOf ∧
    (∀ before turn after, history = before ++ turn :: after → Follows before turn) ∧
    ∀ before turn after which, history = before ++ turn :: after → turn.move = .step which → which < made before →
      (∀ response, turn.shown ≠ some (.value response)) →
      (∀ later ∈ after, later.move = .step which → later = ⟨.step which, [], some .stopped⟩) ∧
        ∀ other, other ≠ which → (Lives (before ++ [turn]) other ↔ Lives before other) := by
  obtain ⟨hlast, hturns⟩ := (Session.tracks_ofScript script).run moves
  simp only [List.nil_append] at hlast hturns
  have hinOrder := hlast.reads.answers
  rw [hlast.answers] at hinOrder
  refine ⟨_, _, rfl, Session.moves_run _ moves, Session.receiver_run (.ofScript script) moves, ?_, ?_,
    hlast.answers, hinOrder, ?_, hturns, ?_⟩
  · rw [← hlast.answers]
    exact hlast.reads.rest
  · intro which
    rw [Session.live_receiver_iff, hlast.runs]
  · rw [← responses_outcomes, ← hinOrder]
    exact responses_of_follows hturns
  · intro before turn after which hsplit hturn hmade hnone
    exact ⟨over_of_follows hturns hsplit hturn hmade hnone, fun other hother => lives_concat_of_ne hturn hother⟩

example : (run ⟨[.value 1, .stopped, .value 2, .failed "rpc"], []⟩
    [.iterate, .step 0, .iterate, .step 1, .step 1, .receive, .step 0, .step 0, .receive]).1 =
    [none, some (.value 1), none, some (.failed stopText), some .stopped, some (.value 2), some (.failed "rpc"),
      some .stopped, some .exhausted] := by decide

end DispatchGen.Receiver
