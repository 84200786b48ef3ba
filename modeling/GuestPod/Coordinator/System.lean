/-
This file lets any number of calls run at once over one pair of stores.  Every move is one step
of one call or of one of its tasks, an answer to it, or a direct access to a store.
-/

import GuestPod.Coordinator.Call

namespace GuestPod

/-- An event belongs to a call unless a store was accessed directly. -/
structure Occurrence where
  source : Option Nat
  event : Event
  deriving DecidableEq, Repr

/-- The calls have numbers.  What happened last stands first in the history and the journal. -/
structure System where
  stores : Stores
  calls : Table Nat Call
  history : List Occurrence
  journal : List Log.Entry
  deriving DecidableEq, Repr

/-- An answer comes with the move that delivers it. -/
inductive Move where
  | create (id : Nat) (coordinator : Coordinator) (request : CreateRequest)
  | remove (id : Nat) (request : RemoveRequest)
  | forget (id : Nat) (sandbox : String)
  | proceed (id : Nat)
  | startPlaceholder (id : Nat)
  | startBoot (id : Nat)
  | receive (id : Nat) (reply : Reply)
  | publish (sandbox : String) (endpoint : Endpoint)
  | take (sandbox : String)
  | register (container : String) (vm : Vm)
  | drop (container : String)
  deriving DecidableEq, Repr

namespace System

def empty : System := ⟨.empty, .empty, [], []⟩

def occurrences (source : Option Nat) (events : List Event) : List Occurrence :=
  events.map (⟨source, ·⟩)

/-- A turn replaces the call and adds to the records. -/
def record (s : System) (id : Nat) (turn : Turn Call) : System where
  stores := turn.stores
  calls := s.calls.put id turn.next
  history := (occurrences (some id) turn.events).reverse ++ s.history
  journal := turn.entries.reverse ++ s.journal

/-- A number is given to one call only. -/
def begin (s : System) (id : Nat) (call : Stores → Turn Call) : Option System :=
  if s.calls.contains id then none else some (s.record id (call s.stores))

def advance (s : System) (id : Nat) (step : Stores → Call → Option (Turn Call)) :
    Option System := do
  let call ← s.calls.get? id
  let turn ← step s.stores call
  return s.record id turn

def access (s : System) (event : Event) (stores : Stores) : System :=
  { s with stores := stores, history := ⟨none, event⟩ :: s.history }

/-- A move that is not possible has no successor. -/
def apply (s : System) : Move → Option System
  | .create id coordinator request => s.begin id (Call.create coordinator request)
  | .remove id request => s.begin id (Call.remove request)
  | .forget id sandbox => s.begin id (Call.forget sandbox)
  | .proceed id => s.advance id Call.proceed
  | .startPlaceholder id => s.advance id Call.startPlaceholder
  | .startBoot id => s.advance id Call.startBoot
  | .receive id reply => s.advance id (Call.receive reply)
  | .publish sandbox endpoint =>
      let (event, stores) := s.stores.publish sandbox endpoint
      some (s.access event stores)
  | .take sandbox =>
      let (_, event, stores) := s.stores.take sandbox
      some (s.access event stores)
  | .register container vm =>
      let (_, event, stores) := s.stores.register container vm
      some (s.access event stores)
  | .drop container =>
      let (event, stores) := s.stores.drop container
      some (s.access event stores)

def run (s : System) (moves : List Move) : Option System :=
  moves.foldlM apply s

@[simp] theorem run_nil (s : System) : s.run [] = some s := rfl

@[simp] theorem run_cons (s : System) (move : Move) (moves : List Move) :
    s.run (move :: moves) = (s.apply move).bind fun next => next.run moves := rfl

theorem run_append (s : System) (first second : List Move) :
    s.run (first ++ second) = (s.run first).bind fun next => next.run second := by
  induction first generalizing s with
  | nil => rfl
  | cons move rest ih =>
      simp only [List.cons_append, run_cons, Option.bind_assoc, ih]

end System

end GuestPod
