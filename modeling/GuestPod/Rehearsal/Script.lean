/-
This file holds a script from which collaborators play their parts.
-/

import GuestPod.Collaborator
import GuestPod.Table

namespace GuestPod

/-- What a cue leaves open is filled in from the question and its number. -/
structure Cue where
  gate : Option String
  panic : Option String
  error : Option Error
  container : Option String
  extra : Json.Members
  vm : Option String
  address : Option String
  revision : Option String
  image : Option String
  deriving DecidableEq, Repr

namespace Cue

def standard : Cue := ⟨none, none, none, none, [], none, none, none, none⟩

/-- A panic comes before an error, and an error before a success. -/
def outcome {α : Type} (cue : Cue) (value : α) : Outcome α :=
  match cue.panic, cue.error with
  | some text, _ => .panic text
  | none, some e => .error e
  | none, none => .ok value

/-- Questions to a service are numbered from one. -/
def reply (cue : Cue) (number : Nat) : Request → Reply
  | .create _ =>
      .created (cue.outcome ⟨cue.container.getD ("ctr-" ++ toString number), cue.extra⟩)
  | .remove _ => .removed (cue.outcome ())
  | .boot boot =>
      .booted (cue.outcome {
        id := cue.vm.getD ("vm-" ++ toString number)
        address := cue.address.getD ("10.0.0." ++ toString (number + 1))
        revision := cue.revision.getD boot.revision
        image := cue.image.getD boot.image
        startedAt := Time.DateTime.epoch })
  | .stop _ => .stopped (cue.outcome ())

end Cue

/-- Every service has a queue of cues and a count of the questions put to it. -/
structure Script where
  queues : Table Service (List Cue)
  counts : Table Service Nat
  deriving DecidableEq, Repr

namespace Script

def empty : Script := ⟨.empty, .empty⟩

def queue (script : Script) (service : Service) : List Cue :=
  (script.queues.get? service).getD []

def count (script : Script) (service : Service) : Nat :=
  (script.counts.get? service).getD 0

def append (script : Script) (service : Service) (cues : List Cue) : Script :=
  { script with queues := script.queues.put service (script.queue service ++ cues) }

/-- An empty queue gives the standard cue. -/
def next (script : Script) (service : Service) : Nat × Cue × Script :=
  let number := script.count service + 1
  let queue := script.queue service
  (number, queue.head?.getD .standard,
    ⟨script.queues.put service (queue.drop 1), script.counts.put service number⟩)

end Script

end GuestPod
