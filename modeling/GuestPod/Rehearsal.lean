/-
This file runs systems with scripted collaborators.  After every cue from outside all calls go on
until each of them is finished or waits at a closed gate.
-/

import GuestPod.Coordinator.System
import GuestPod.Rehearsal.Script

namespace GuestPod

/-- An answer that is held back until its gate opens. -/
structure Held where
  group : Nat
  id : Nat
  gate : String
  reply : Reply
  deriving DecidableEq, Repr

/-- Groups of coordinators have stores of their own and share the collaborators. -/
structure Rehearsal where
  script : Script
  gates : List String
  held : List Held
  systems : Table Nat System
  deriving DecidableEq, Repr

namespace Rehearsal

def start (groups : List Nat) : Rehearsal :=
  ⟨.empty, [], [], groups.foldl (fun systems group => systems.put group .empty) .empty⟩

def system (r : Rehearsal) (group : Nat) : System :=
  (r.systems.get? group).getD .empty

def setSystem (r : Rehearsal) (group : Nat) (system : System) : Rehearsal :=
  { r with systems := r.systems.put group system }

/-- What happened in a later state and not yet in an earlier one, in its order. -/
def newer {α : Type} (later earlier : List α) : List α :=
  (later.take (later.length - earlier.length)).reverse

/-- An impossible move changes nothing. -/
def move (r : Rehearsal) (group : Nat) (move : Move) : Rehearsal :=
  match (r.system group).apply move with
  | some system => r.setSystem group system
  | none => r

/-- A collaborator answers at once unless its cue names a closed gate. -/
def ask (r : Rehearsal) (group id : Nat) (request : Request) : Rehearsal :=
  let (number, cue, script) := r.script.next request.service
  let r := { r with script := script }
  let reply := cue.reply number request
  match cue.gate.filter fun gate => !r.gates.contains gate with
  | some gate => { r with held := r.held ++ [⟨group, id, gate, reply⟩] }
  | none => r.move group (.receive id reply)

/-- The questions of a move reach the collaborators before anything else happens. -/
def perform (r : Rehearsal) (group : Nat) (move : Move) : Rehearsal :=
  let earlier := (r.system group).history
  let r := r.move group move
  (newer (r.system group).history earlier).foldl (fun r occurrence =>
    match occurrence with
    | ⟨some id, .asked request⟩ => r.ask group id request
    | _ => r) r

/-- A call may go on by itself in three ways. -/
def ownMoves (id : Nat) : List Move :=
  [.startPlaceholder id, .startBoot id, .proceed id]

def possible (r : Rehearsal) : Option (Nat × Move) :=
  r.systems.entries.findSome? fun (group, system) =>
    system.calls.keys.findSome? fun id =>
      ((ownMoves id).find? fun move => (system.apply move).isSome).map fun move => (group, move)

def settleWithin : Nat → Rehearsal → Rehearsal
  | 0, r => r
  | fuel + 1, r =>
      match r.possible with
      | some (group, move) => settleWithin fuel (r.perform group move)
      | none => r

/-- No call goes on more than four times by itself. -/
def settle (r : Rehearsal) : Rehearsal :=
  settleWithin (r.systems.entries.foldl (fun moves (_, system) => moves + 4 * system.calls.size) 0) r

def play (r : Rehearsal) (group : Nat) (move : Move) : Rehearsal :=
  (r.perform group move).settle

/-- A gate stays open. -/
def openGate (r : Rehearsal) (gate : String) : Rehearsal :=
  let (released, held) := r.held.partition (·.gate = gate)
  let opened : Rehearsal := { r with gates := gate :: r.gates, held := held }
  (released.foldl (fun (r : Rehearsal) answer =>
    r.move answer.group (.receive answer.id answer.reply)) opened).settle

def extend (r : Rehearsal) (service : Service) (cues : List Cue) : Rehearsal :=
  { r with script := r.script.append service cues }

/-- The groups in the order of their numbers. -/
def groups (r : Rehearsal) : List Nat :=
  r.systems.keys.mergeSort

/-- What happened since an earlier state, group by group. -/
def events (r earlier : Rehearsal) : List Occurrence :=
  r.groups.flatMap fun group => newer (r.system group).history (earlier.system group).history

def entries (r earlier : Rehearsal) : List Log.Entry :=
  r.groups.flatMap fun group => newer (r.system group).journal (earlier.system group).journal

/-- The calls without a result, in the order of their numbers. -/
def unfinished (r : Rehearsal) : List Nat :=
  (r.systems.entries.flatMap fun (_, system) =>
    (system.calls.entries.filter fun (_, call) => call.result?.isNone).map (·.1)).mergeSort

end Rehearsal

end GuestPod
