/-
This file holds the calls that a coordinator serves.
-/

import GuestPod.Coordinator.Relay
import GuestPod.Coordinator.Removal
import GuestPod.Coordinator.Workload
import GuestPod.Launch

namespace GuestPod

/-- A coordinator knows its settings and the name of the stock runtime. -/
structure Coordinator where
  settings : Settings
  runtime : String
  deriving DecidableEq, Repr

/-- A workload that cannot be booted is refused at once, and forgetting takes one step. -/
inductive Call where
  | workload (w : Workload)
  | relay (r : Relay)
  | removal (r : Removal)
  | refusal (request : CreateRequest) (error : Error)
  | forgetting (sandbox : String) (present : Bool)
  deriving DecidableEq, Repr

namespace Call

/-- The role of a container decides how it is created. -/
def create (coordinator : Coordinator) (request : CreateRequest) (stores : Stores) : Turn Call :=
  let note := Note.creation coordinator.runtime request
  match Role.classify request.containerName with
  | .workload =>
      match Launch.extract request.config coordinator.settings with
      | .ok boot =>
          ⟨.workload (.start coordinator.settings request boot), stores, [],
            [note, Note.booting request.sandbox boot]⟩
      | .error e =>
          ⟨.refusal request e, stores, [.finished (.created (.error e))],
            [note, Note.invalidWorkload request.sandbox e]⟩
  | .sidecar => ⟨.relay ⟨request, .taking⟩, stores, [], [note]⟩
  | .other => ⟨.relay ⟨request, .forwarding none⟩, stores, [], [note]⟩

def remove (request : RemoveRequest) (stores : Stores) : Turn Call :=
  ⟨.removal ⟨request, .finding⟩, stores, [], []⟩

def forget (sandbox : String) (stores : Stores) : Turn Call :=
  let (present, event, stores) := stores.forget sandbox
  ⟨.forgetting sandbox present, stores, [event, .finished (.forgotten present)],
    if present then [Note.endpointDropped sandbox] else []⟩

/-- The call itself takes its next step, unless it waits or is finished. -/
def proceed (stores : Stores) : Call → Option (Turn Call)
  | .workload w => (w.proceed stores).map (·.map .workload)
  | .relay r => (r.proceed stores).map (·.map .relay)
  | .removal r => (r.proceed stores).map (·.map .removal)
  | _ => none

def startPlaceholder (stores : Stores) : Call → Option (Turn Call)
  | .workload w => (w.startPlaceholder stores).map (·.map .workload)
  | _ => none

def startBoot (stores : Stores) : Call → Option (Turn Call)
  | .workload w => (w.startBoot stores).map (·.map .workload)
  | _ => none

def receive (reply : Reply) (stores : Stores) : Call → Option (Turn Call)
  | .workload w => (w.receive stores reply).map (·.map .workload)
  | .relay r => (r.receive stores reply).map (·.map .relay)
  | .removal r => (r.receive stores reply).map (·.map .removal)
  | _ => none

/-- The result of a call that is finished. -/
def result? : Call → Option Result
  | .workload w =>
      match w.stage with
      | .finished outcome => some (.created outcome)
      | _ => none
  | .relay r =>
      match r.stage with
      | .finished outcome => some (.created outcome)
      | _ => none
  | .removal r =>
      match r.stage with
      | .finished outcome => some (.removed outcome)
      | _ => none
  | .refusal _ e => some (.created (.error e))
  | .forgetting _ present => some (.forgotten present)

end Call

end GuestPod
