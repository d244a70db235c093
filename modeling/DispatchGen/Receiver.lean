import DispatchGen.Text.Quoted

/-! # Receivers

A receiver hands out the responses of one call. Its source is a script of events, one for every step
that asks for a response. Any number of iterators may draw on one receiver: a step of a live iterator
uses up one event, and an iterator that has ended never asks again.
-/
namespace DispatchGen

inductive Event (α : Type) where
  | value (response : α)
  | exhausted
  | stopped
  | failed (text : String)
  deriving Repr, DecidableEq

structure Receiver (α : Type) where
  script : List (Event α)
  live : List Bool := []

namespace Receiver
variable {α : Type}

/-- Asks for the next response. Beyond its script the call is exhausted. -/
def receive (r : Receiver α) : Event α × Receiver α :=
  match r.script with
  | [] => (.exhausted, r)
  | event :: rest => (event, { r with script := rest })

/-- Makes an iterator; nothing is asked for yet. -/
def iterate (r : Receiver α) : Receiver α :=
  { r with live := r.live ++ [true] }

def stopText : String := "generator raised StopIteration"

/-- What an iterator passes on of an event: exhaustion ends it, a stop signal is an error. -/
def passedOn : Event α → Event α
  | .value response => .value response
  | .exhausted => .stopped
  | .stopped => .failed stopText
  | .failed text => .failed text

/-- Only a value leaves an iterator live. -/
def keepsLive : Event α → Bool
  | .value _ => true
  | _ => false

def step (r : Receiver α) (which : Nat) : Event α × Receiver α :=
  if r.live.getD which false then
    let (event, r) := r.receive
    (passedOn event, { r with live := r.live.set which (keepsLive event) })
  else (.stopped, r)

/-- The values up to the event that ends an iterator, that event, and the script behind it. -/
def drainScript : List (Event α) → List α × Event α × List (Event α)
  | [] => ([], .exhausted, [])
  | .value response :: rest =>
    let (values, last, rest) := drainScript rest
    (response :: values, last, rest)
  | event :: rest => ([], event, rest)

def drain (r : Receiver α) : List α × Event α × Receiver α :=
  let (values, last, rest) := drainScript r.script
  (values, passedOn last, { r with script := rest })

end Receiver

def unknownMethodText (name : String) : String :=
  "name " ++ Text.quoted name ++ " not found"

end DispatchGen
