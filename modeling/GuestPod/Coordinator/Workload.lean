/-
This file creates a workload.  Two tasks run on their own: one creates a placeholder container
and the other boots a machine.  The call waits for the boot first.
-/

import GuestPod.Coordinator.Event
import GuestPod.Coordinator.Note
import GuestPod.Settings
import GuestPod.Text.Quoted

namespace GuestPod

/-- A task runs to its outcome, whether or not anyone waits for it. -/
inductive Task (α : Type) where
  | ready
  | running
  | done (outcome : Outcome α)
  deriving DecidableEq, Repr

/-- A call that reaps has its error already. -/
inductive Workload.Stage where
  | awaitingBoot
  | awaitingPlaceholder (vm : Vm)
  | reaping (vm : Vm) (error : Error)
  | finished (outcome : Outcome CreateResponse)
  deriving DecidableEq, Repr

structure Workload where
  settings : Settings
  request : CreateRequest
  boot : BootRequest
  placeholder : Task CreateResponse
  machine : Task Vm
  stage : Workload.Stage
  deriving DecidableEq, Repr

namespace Workload

def start (settings : Settings) (request : CreateRequest) (boot : BootRequest) : Workload :=
  ⟨settings, request, boot, .ready, .ready, .awaitingBoot⟩

def sandbox (w : Workload) : String := w.request.sandbox

/-- The reason does not tell the number of the task. -/
def panicReason (text : String) : String :=
  "task <id> panicked with message " ++ Text.quoted text

def finish (w : Workload) (stores : Stores) (outcome : Outcome CreateResponse)
    (events : List Event) (entries : List Log.Entry) : Turn Workload where
  next := { w with stage := .finished outcome }
  stores := stores
  events := events ++ [.finished (.created outcome)]
  entries := entries

/-- The endpoint is published before the placeholder is awaited. -/
def afterBoot (w : Workload) (stores : Stores) : Outcome Vm → Turn Workload
  | .ok vm =>
      let (event, stores) := stores.publish w.sandbox ⟨vm.address, w.settings.guestPort⟩
      { next := { w with stage := .awaitingPlaceholder vm }
        stores := stores
        events := [event]
        entries := [Note.booted w.sandbox vm] }
  | .error e => w.finish stores (.error e) [] [Note.bootFailed w.sandbox e]
  | .panic text =>
      let reason := panicReason text
      w.finish stores (.error (.taskFailed "VM boot" reason)) []
        [Note.taskFailed "VM boot" reason]

/-- A machine without a container is stopped or left running, as the settings say. -/
def release (w : Workload) (stores : Stores) (vm : Vm) (error : Error)
    (entries : List Log.Entry) : Turn Workload :=
  if w.settings.reapOrphanedVms then
    { next := { w with stage := .reaping vm error }
      stores := stores
      events := [.asked (.stop vm)]
      entries := entries }
  else w.finish stores (.error error) [] (entries ++ [Note.orphanLeft w.sandbox vm])

/-- Nothing is awaited between the registration and the return of the call, so that both are one
turn. -/
def afterPlaceholder (w : Workload) (stores : Stores) (vm : Vm) :
    Outcome CreateResponse → Turn Workload
  | .ok response =>
      match stores.register response.container vm with
      | (.ok (), event, stores) =>
          w.finish stores (.ok response) [event]
            [Note.workloadCreated w.sandbox response.container vm]
      | (.error e, event, stores) =>
          w.finish stores (.error e) [event] [Note.notRegistered w.sandbox e]
  | .error e => w.release stores vm e [Note.placeholderFailed w.sandbox e]
  | .panic text =>
      let reason := panicReason text
      w.release stores vm (.taskFailed "placeholder container" reason)
        [Note.taskFailed "placeholder container" reason]

/-- An error of the stop is logged, and the call keeps the error it has. -/
def afterReaping (w : Workload) (stores : Stores) (vm : Vm) (error : Error)
    (outcome : Outcome Unit) : Turn Workload :=
  let answer : Event := .answered (.stopped outcome)
  match outcome with
  | .ok () => w.finish stores (.error error) [answer] [Note.orphanStopped w.sandbox vm]
  | .error e => w.finish stores (.error error) [answer] [Note.orphanNotStopped w.sandbox vm e]
  | .panic text => w.finish stores (.panic text) [answer] []

/-- The call goes on when the task it waits for is done. -/
def proceed (w : Workload) (stores : Stores) : Option (Turn Workload) :=
  match w.stage with
  | .awaitingBoot =>
      match w.machine with
      | .done outcome => some (w.afterBoot stores outcome)
      | _ => none
  | .awaitingPlaceholder vm =>
      match w.placeholder with
      | .done outcome => some (w.afterPlaceholder stores vm outcome)
      | _ => none
  | _ => none

def startPlaceholder (w : Workload) (stores : Stores) : Option (Turn Workload) :=
  match w.placeholder with
  | .ready => some {
      next := { w with placeholder := .running }
      stores := stores
      events := [.asked (.create w.request)]
      entries := [] }
  | _ => none

def startBoot (w : Workload) (stores : Stores) : Option (Turn Workload) :=
  match w.machine with
  | .ready => some {
      next := { w with machine := .running }
      stores := stores
      events := [.asked (.boot w.boot)]
      entries := [] }
  | _ => none

/-- An answer goes to the task that asked, and an answer to a stop to the call itself. -/
def receive (w : Workload) (stores : Stores) : Reply → Option (Turn Workload)
  | .created outcome =>
      match w.placeholder with
      | .running => some {
          next := { w with placeholder := .done outcome }
          stores := stores
          events := [.answered (.created outcome)]
          entries := [] }
      | _ => none
  | .booted outcome =>
      match w.machine with
      | .running => some {
          next := { w with machine := .done outcome }
          stores := stores
          events := [.answered (.booted outcome)]
          entries := [] }
      | _ => none
  | .stopped outcome =>
      match w.stage with
      | .reaping vm error => some (w.afterReaping stores vm error outcome)
      | _ => none
  | .removed _ => none

end Workload

end GuestPod
