/-
This file finds the turn of a call that brought an event about, and says who can write to the
stores.
-/

import GuestPod.Proofs.Trail

/-! Small pods stand for concrete runs. -/

namespace GuestPod.Sample

def coordinator (reap : Bool) : Coordinator :=
  ⟨{ Settings.standard with reapOrphanedVms := reap }, "stock"⟩

def workload (sandbox : String) : CreateRequest :=
  ((CreateRequest.named sandbox Contract.workloadName).append Contract.imageVariable "fn:v1").append
    Contract.revisionVariable "rev-1"

/-- This is what the sample workload boots. -/
def boot : BootRequest := ⟨"fn:v1", "rev-1", 256, 1⟩

def sidecar (sandbox : String) : CreateRequest :=
  CreateRequest.named sandbox Contract.sidecarName

def machine (id address : String) : Vm :=
  ⟨id, address, "rev-1", "fn:v1", Time.DateTime.epoch⟩

/-- A workload is opened, and both of its tasks have asked. -/
def started (id : Nat) (reap : Bool) (sandbox : String) : List Move :=
  [.create id (coordinator reap) (workload sandbox), .startPlaceholder id, .startBoot id]

end GuestPod.Sample

namespace GuestPod

namespace Event

/-- The events that no call but a workload brings about. -/
def isOfWorkload : Event → Bool
  | .published _ _ _ => true
  | .registered _ _ _ => true
  | _ => false

/-- The events that no call but a removal brings about. -/
def isOfRemoval : Event → Bool
  | .found _ _ => true
  | .dropped _ _ => true
  | _ => false

end Event

theorem Workload.Takes.isOfRemoval_eq_false {w : Workload} {stores : Stores}
    {turn : Turn Workload} (takes : w.Takes stores turn) :
    ∀ event ∈ turn.events, event.isOfRemoval = false := by
  cases takes <;> simp [Event.isOfRemoval]

theorem Relay.Takes.isOfWorkload_eq_false {r : Relay} {stores : Stores} {turn : Turn Relay}
    (takes : r.Takes stores turn) : ∀ event ∈ turn.events, event.isOfWorkload = false := by
  cases takes <;> simp [Event.isOfWorkload]

theorem Relay.Takes.isOfRemoval_eq_false {r : Relay} {stores : Stores} {turn : Turn Relay}
    (takes : r.Takes stores turn) : ∀ event ∈ turn.events, event.isOfRemoval = false := by
  cases takes <;> simp [Event.isOfRemoval]

theorem Removal.Takes.isOfWorkload_eq_false {r : Removal} {stores : Stores}
    {turn : Turn Removal} (takes : r.Takes stores turn) :
    ∀ event ∈ turn.events, event.isOfWorkload = false := by
  cases takes <;> simp [Event.isOfWorkload]

namespace System

/-- The events of the turn that brought an event about, and the system before that turn. -/
structure Authored (moves : List Move) (s prior : System) (id : Nat) (events : List Event)
    (event : Event) (earlier : List Occurrence) : Prop where
  reached : ∃ before, before <+: moves ∧ empty.run before = some prior
  place : ∃ first last, events = first ++ event :: last ∧
    earlier = (occurrences (some id) first).reverse ++ prior.history
  kept : ∀ other ∈ events, ⟨some id, other⟩ ∈ s.history

namespace Authored

variable {moves : List Move} {s prior : System} {id : Nat} {events : List Event} {event : Event}
  {earlier : List Occurrence}

theorem mem (authored : Authored moves s prior id events event earlier) : event ∈ events := by
  obtain ⟨first, last, same, -⟩ := authored.place
  rw [same]
  exact List.mem_append_right _ List.mem_cons_self

/-- What was there before the turn was there before the event. -/
theorem older (authored : Authored moves s prior id events event earlier)
    {occurrence : Occurrence} (member : occurrence ∈ prior.history) : occurrence ∈ earlier := by
  obtain ⟨first, last, -, same⟩ := authored.place
  rw [same]
  exact List.mem_append_right _ member

/-- A turn with one event brings this event about, right behind what was there before. -/
theorem alone {only : Event} (authored : Authored moves s prior id [only] event earlier) :
    event = only ∧ earlier = prior.history := by
  obtain ⟨first, last, split, same⟩ := authored.place
  cases first with
  | nil => exact ⟨(List.cons_eq_cons.1 split).1.symm, same⟩
  | cons other rest => simp at split

end Authored

/-- The later turn of a call that brought an event about, with the story up to this turn. -/
inductive Author (moves : List Move) (s : System) (id : Nat) (event : Event)
    (earlier : List Occurrence) : Prop where
  | workload {prior : System} {coordinator : Coordinator} {request : CreateRequest}
      {w : Workload} {turn : Turn Workload} (created : .create id coordinator request ∈ moves)
      (role : Role.classify request.containerName = .workload)
      (settings : w.settings = coordinator.settings) (asks : w.request = request)
      (extracted : Launch.extract request.config coordinator.settings = .ok w.boot)
      (story : w.Story (prior.trail id)) (takes : w.Takes prior.stores turn)
      (authored : Authored moves s prior id turn.events event earlier) :
      Author moves s id event earlier
  | relay {prior : System} {coordinator : Coordinator} {request : CreateRequest} {r : Relay}
      {turn : Turn Relay} (created : .create id coordinator request ∈ moves)
      (asks : r.request = request)
      (story : r.Story (Role.classify request.containerName) (prior.trail id))
      (takes : r.Takes prior.stores turn)
      (authored : Authored moves s prior id turn.events event earlier) :
      Author moves s id event earlier
  | removal {prior : System} {request : RemoveRequest} {r : Removal} {turn : Turn Removal}
      (removed : .remove id request ∈ moves) (asks : r.request = request)
      (story : r.Story (prior.trail id)) (takes : r.Takes prior.stores turn)
      (authored : Authored moves s prior id turn.events event earlier) :
      Author moves s id event earlier

/-- A place in the events of a turn is a place in what the turn adds to the history. -/
theorem split_occurrences {events : List Event} {source : Option Nat} {occurrence : Occurrence}
    {later first : List Occurrence}
    (added : (occurrences source events).reverse = later ++ occurrence :: first) :
    occurrence.source = source ∧ ∃ sooner last, events = sooner ++ occurrence.event :: last ∧
      first = (occurrences source sooner).reverse := by
  have flipped : occurrences source events = first.reverse ++ occurrence :: later.reverse := by
    rw [← List.reverse_reverse (occurrences source events), added]
    simp
  obtain ⟨sooner, rest, rfl, made, tail⟩ := List.map_eq_append_iff.1 flipped
  obtain ⟨here, last, rfl, rfl, -⟩ := List.map_eq_cons_iff.1 tail
  refine ⟨rfl, sooner, last, rfl, ?_⟩
  rw [← List.reverse_reverse first, ← made]
  rfl

/-- An event of a call comes from its first turn or from a later one. -/
theorem exists_author {moves : List Move} {s : System} (reached : empty.run moves = some s)
    {id : Nat} {event : Event} {newer earlier : List Occurrence}
    (split : s.history = newer ++ ⟨some id, event⟩ :: earlier) :
    (∃ (prior : System) (move : Move) (turn : Turn Call), move.Opens prior.stores turn ∧
      Authored moves s prior id turn.events event earlier) ∨ Author moves s id event earlier := by
  obtain @⟨before, move, prior, next, news, later, first, within, reached, -, step, kept, added,
    same⟩ := exists_moment reached split
  have inside : before <+: moves := (List.prefix_append _ _).trans within
  have grown := step.history_eq
  have author : ∀ (number : Nat) (events : List Event),
      news = (occurrences (some number) events).reverse →
        number = id ∧ Authored moves s prior id events event earlier := by
    intro number events made
    obtain ⟨source, sooner, last, place, rest⟩ := split_occurrences (made.symm.trans added)
    obtain rfl := Option.some.inj source
    refine ⟨rfl, ⟨before, inside, reached⟩, ⟨sooner, last, place, rest ▸ same⟩, ?_⟩
    intro other member
    refine kept.subset ?_
    rw [grown, made]
    exact List.mem_append_left _ (List.mem_reverse.2 (List.mem_map_of_mem member))
  cases step with
  | opened fresh number opens =>
      obtain ⟨rfl, authored⟩ := author _ _ rfl
      exact .inl ⟨prior, move, _, opens, authored⟩
  | advanced present number takes =>
      obtain ⟨rfl, authored⟩ := author _ _ rfl
      obtain ⟨origin, member, opened, story⟩ := origin_of_call reached present
      have opening := inside.subset member
      refine .inr ?_
      cases takes with
      | workload takes =>
          cases story with
          | workload role settings asks extracted story =>
              obtain rfl := Option.some.inj opened
              exact .workload opening role settings asks extracted story takes authored
      | relay takes =>
          cases story with
          | relay asks story =>
              obtain rfl := Option.some.inj opened
              exact .relay opening asks story takes authored
      | removal takes =>
          cases story with
          | removal asks story =>
              obtain rfl := Option.some.inj opened
              exact .removal opening asks story takes authored
  | @accessed direct stores number accesses =>
      obtain ⟨source, -⟩ := @split_occurrences [direct] none _ _ _ added
      cases source

/-- An event without a call comes from a direct access to a store. -/
theorem exists_access {moves : List Move} {s : System} (reached : empty.run moves = some s)
    {event : Event} {newer earlier : List Occurrence}
    (split : s.history = newer ++ ⟨none, event⟩ :: earlier) :
    ∃ (prior : System) (move : Move) (stores : Stores), move ∈ moves ∧
      move.Accesses prior.stores event stores := by
  obtain @⟨before, move, prior, next, news, later, first, within, start, -, step, kept, added,
    same⟩ := exists_moment reached split
  cases step with
  | opened fresh number opens => cases (split_occurrences added).1
  | advanced present number takes => cases (split_occurrences added).1
  | @accessed direct stores number accesses =>
      obtain ⟨-, sooner, last, events, -⟩ := @split_occurrences [direct] none _ _ _ added
      have inside : event ∈ [direct] := by
        rw [events]
        exact List.mem_append_right _ List.mem_cons_self
      obtain rfl := List.mem_singleton.1 inside
      exact ⟨prior, move, stores, within.subset (by simp), accesses⟩

/-- A first turn does no more than forget and finish. -/
theorem first_events {move : Move} {stores : Stores} {turn : Turn Call} {event : Event}
    (opens : move.Opens stores turn) (member : event ∈ turn.events) :
    (∃ result, event = .finished result) ∨ ∃ sandbox present, event = .forgot sandbox present := by
  cases opens with
  | refusal role extracted entries => exact .inl ⟨_, List.mem_singleton.1 member⟩
  | forgetting entries =>
      rcases List.mem_cons.1 member with rfl | rest
      · exact .inr ⟨_, _, rfl⟩
      · exact .inl ⟨_, List.mem_singleton.1 rest⟩
  | _ => cases member

/-- All other events of a call come from a later turn. -/
theorem exists_later_author {moves : List Move} {s : System}
    (reached : empty.run moves = some s) {id : Nat} {event : Event}
    {newer earlier : List Occurrence} (split : s.history = newer ++ ⟨some id, event⟩ :: earlier)
    (unfinished : ∀ result, event ≠ .finished result)
    (plain : ∀ sandbox present, event ≠ .forgot sandbox present) :
    Author moves s id event earlier := by
  rcases exists_author reached split with ⟨prior, move, turn, opens, authored⟩ | later
  · rcases first_events opens authored.mem with ⟨result, same⟩ | ⟨sandbox, present, same⟩
    · exact absurd same (unfinished result)
    · exact absurd same (plain sandbox present)
  · exact later

/-- The later turn of a workload that brought an event about. -/
inductive WorkloadAuthor (moves : List Move) (s : System) (id : Nat) (event : Event)
    (earlier : List Occurrence) : Prop where
  | intro {prior : System} {coordinator : Coordinator} {request : CreateRequest} {w : Workload}
      {turn : Turn Workload} (created : .create id coordinator request ∈ moves)
      (role : Role.classify request.containerName = .workload)
      (settings : w.settings = coordinator.settings) (asks : w.request = request)
      (story : w.Story (prior.trail id)) (takes : w.Takes prior.stores turn)
      (authored : Authored moves s prior id turn.events event earlier) :
      WorkloadAuthor moves s id event earlier

/-- The later turn of a removal that brought an event about. -/
inductive RemovalAuthor (moves : List Move) (s : System) (id : Nat) (event : Event)
    (earlier : List Occurrence) : Prop where
  | intro {prior : System} {request : RemoveRequest} {r : Removal} {turn : Turn Removal}
      (removed : .remove id request ∈ moves) (asks : r.request = request)
      (story : r.Story (prior.trail id)) (takes : r.Takes prior.stores turn)
      (authored : Authored moves s prior id turn.events event earlier) :
      RemovalAuthor moves s id event earlier

section Kinds

variable {moves : List Move} {s : System} {id : Nat} {event : Event}
  {newer earlier : List Occurrence}

/-- Only workloads publish and register. -/
theorem workload_author (reached : empty.run moves = some s)
    (split : s.history = newer ++ ⟨some id, event⟩ :: earlier)
    (own : event.isOfWorkload = true) : WorkloadAuthor moves s id event earlier := by
  have unfinished : ∀ result, event ≠ .finished result := by
    rintro result rfl
    cases own
  have plain : ∀ sandbox present, event ≠ .forgot sandbox present := by
    rintro sandbox present rfl
    cases own
  cases exists_later_author reached split unfinished plain with
  | workload created role settings asks extracted story takes authored =>
      exact ⟨created, role, settings, asks, story, takes, authored⟩
  | relay created asks story takes authored =>
      have other := takes.isOfWorkload_eq_false event authored.mem
      rw [own] at other
      cases other
  | removal removed asks story takes authored =>
      have other := takes.isOfWorkload_eq_false event authored.mem
      rw [own] at other
      cases other

/-- The step of a run at which a workload brought an event about. -/
inductive WorkloadStep (moves : List Move) (id : Nat) (event : Event) : Prop where
  | intro {prior : System} {w : Workload} {turn : Turn Workload}
      (paces : Paces moves id prior (prior.record id (turn.map .workload)))
      (takes : w.Takes prior.stores turn) (member : event ∈ turn.events) :
      WorkloadStep moves id event

/-- Every publication and every registration of a call has its step. -/
theorem exists_workload_step (reached : empty.run moves = some s) (member : event ∈ s.trail id)
    (own : event.isOfWorkload = true) : WorkloadStep moves id event := by
  obtain ⟨newer, earlier, split⟩ := List.append_of_mem (mem_trail.1 member)
  obtain @⟨before, move, prior, next, news, later, first, within, start, moved, step, -, added,
    -⟩ := exists_moment reached split
  have inside : ⟨some id, event⟩ ∈ news := by
    rw [added]
    exact List.mem_append_right _ List.mem_cons_self
  have turned : ∀ {number : Nat} {turn : Turn Call}, next = prior.record number turn →
      number = id ∧ event ∈ turn.events := by
    rintro number turn rfl
    have made : (occurrences (some number) turn.events).reverse = news :=
      List.append_cancel_right step.history_eq
    rw [← made, List.mem_reverse] at inside
    obtain ⟨other, there, same⟩ := List.mem_map.1 inside
    obtain ⟨number, rfl⟩ := Occurrence.mk.inj same
    exact ⟨Option.some.inj number, there⟩
  -- A step does not name its caller, but the event that it adds does.
  cases caller : move.caller? with
  | none =>
      obtain ⟨direct, stores, -, rfl⟩ := accesses_of_apply moved caller
      have made : [⟨none, direct⟩] = news := List.append_cancel_right step.history_eq
      rw [← made] at inside
      cases List.mem_singleton.1 inside
  | some number =>
      cases acts_of_apply moved caller with
      | opened fresh opening opens same =>
          rcases first_events opens (turned same).2 with ⟨result, rfl⟩ | ⟨sandbox, present, rfl⟩
          · cases own
          · cases own
      | advanced present opening takes same =>
          obtain ⟨rfl, there⟩ := turned same
          subst same
          cases takes with
          | workload takes => exact ⟨⟨within, caller, start, moved⟩, takes, there⟩
          | relay takes =>
              have other := takes.isOfWorkload_eq_false event there
              rw [own] at other
              cases other
          | removal takes =>
              have other := takes.isOfWorkload_eq_false event there
              rw [own] at other
              cases other

/-- Only removals look containers up and drop them. -/
theorem removal_author (reached : empty.run moves = some s)
    (split : s.history = newer ++ ⟨some id, event⟩ :: earlier)
    (own : event.isOfRemoval = true) : RemovalAuthor moves s id event earlier := by
  have unfinished : ∀ result, event ≠ .finished result := by
    rintro result rfl
    cases own
  have plain : ∀ sandbox present, event ≠ .forgot sandbox present := by
    rintro sandbox present rfl
    cases own
  cases exists_later_author reached split unfinished plain with
  | workload created role settings asks extracted story takes authored =>
      have other := takes.isOfRemoval_eq_false event authored.mem
      rw [own] at other
      cases other
  | relay created asks story takes authored =>
      have other := takes.isOfRemoval_eq_false event authored.mem
      rw [own] at other
      cases other
  | removal removed asks story takes authored => exact ⟨removed, asks, story, takes, authored⟩

end Kinds

end System

end GuestPod
