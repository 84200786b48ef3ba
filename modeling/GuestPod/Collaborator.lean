/-
This file holds what a coordinator asks of the stock runtime and of the machine supervisor, and
what they answer.
-/

import GuestPod.Container
import GuestPod.Error
import GuestPod.Vm

namespace GuestPod

/-- A panic has a text but no kind.  A panic whose payload is no text, of which no message is shown,
is left out. -/
inductive Outcome (α : Type) where
  | ok (value : α)
  | error (error : Error)
  | panic (text : String)
  deriving DecidableEq, Repr

/-- The stock runtime creates and removes containers; the supervisor boots and stops machines. -/
inductive Service where
  | create
  | remove
  | boot
  | stop
  deriving DecidableEq, Repr

inductive Request where
  | create (request : CreateRequest)
  | remove (request : RemoveRequest)
  | boot (request : BootRequest)
  | stop (vm : Vm)
  deriving DecidableEq, Repr

def Request.service : Request → Service
  | .create _ => .create
  | .remove _ => .remove
  | .boot _ => .boot
  | .stop _ => .stop

inductive Reply where
  | created (outcome : Outcome CreateResponse)
  | removed (outcome : Outcome Unit)
  | booted (outcome : Outcome Vm)
  | stopped (outcome : Outcome Unit)
  deriving DecidableEq, Repr

def Reply.service : Reply → Service
  | .created _ => .create
  | .removed _ => .remove
  | .booted _ => .boot
  | .stopped _ => .stop

end GuestPod
