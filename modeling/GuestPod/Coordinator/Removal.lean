/-
This file removes a container.  A machine behind it is stopped and dropped first.
-/

import GuestPod.Coordinator.Event
import GuestPod.Coordinator.Note

namespace GuestPod

inductive Removal.Stage where
  | finding
  | stopping (vm : Vm)
  | awaitingStop (vm : Vm)
  | dropping (vm : Vm)
  | removing
  | awaitingRemoval
  | finished (outcome : Outcome Unit)
  deriving DecidableEq, Repr

structure Removal where
  request : RemoveRequest
  stage : Removal.Stage
  deriving DecidableEq, Repr

namespace Removal

def container (r : Removal) : String := r.request.container

def move (r : Removal) (stage : Stage) (stores : Stores) (events : List Event)
    (entries : List Log.Entry) : Turn Removal :=
  ⟨{ r with stage := stage }, stores, events, entries⟩

def find (r : Removal) (stores : Stores) : Turn Removal :=
  match stores.find r.container with
  | (some vm, event) => r.move (.stopping vm) stores [event] []
  | (none, event) => r.move .removing stores [event] []

/-- The entry is dropped by its container, whatever machine is registered by now. -/
def drop (r : Removal) (vm : Vm) (stores : Stores) : Turn Removal :=
  let (event, stores) := stores.drop r.container
  r.move .removing stores [event] [Note.stopped r.container vm]

def proceed (r : Removal) (stores : Stores) : Option (Turn Removal) :=
  match r.stage with
  | .finding => some (r.find stores)
  | .stopping vm => some (r.move (.awaitingStop vm) stores [.asked (.stop vm)] [])
  | .dropping vm => some (r.drop vm stores)
  | .removing => some (r.move .awaitingRemoval stores [.asked (.remove r.request)] [])
  | _ => none

/-- A machine that does not stop keeps its container. -/
def afterStop (r : Removal) (vm : Vm) (stores : Stores) (outcome : Outcome Unit) :
    Turn Removal :=
  let answer : Event := .answered (.stopped outcome)
  match outcome with
  | .ok () => r.move (.dropping vm) stores [answer] []
  | .error e =>
      r.move (.finished (.error e)) stores [answer, .finished (.removed (.error e))]
        [Note.stopFailed r.container vm e]
  | .panic text =>
      r.move (.finished (.panic text)) stores [answer, .finished (.removed (.panic text))] []

def receive (r : Removal) (stores : Stores) : Reply → Option (Turn Removal)
  | .stopped outcome =>
      match r.stage with
      | .awaitingStop vm => some (r.afterStop vm stores outcome)
      | _ => none
  | .removed outcome =>
      match r.stage with
      | .awaitingRemoval => some (r.move (.finished outcome) stores
          [.answered (.removed outcome), .finished (.removed outcome)] [])
      | _ => none
  | _ => none

end Removal

end GuestPod
