/-
This file follows the removal of a container.  Its machine is stopped before its entry is dropped,
and its entry is dropped before the container goes.  A removal whose stop fails can be tried again.
-/

import GuestPod.Proofs.Registration
import GuestPod.Proofs.Teardown
import Mathlib.Data.List.Basic

namespace GuestPod

/-- The removals that a trail asks of the stock runtime. -/
def removals (trail : List Event) : List RemoveRequest :=
  trail.filterMap fun
    | .asked (.remove request) => some request
    | _ => none

namespace Removal

variable {r : Removal} {stores : Stores} {turn : Turn Removal}

/-- A removal writes to the entry of its own container only. -/
theorem Takes.confined (takes : r.Takes stores turn) :
    turn.stores.endpoints = stores.endpoints ∧
      ∀ other, other ≠ r.container → turn.stores.vms.get? other = stores.vms.get? other := by
  cases takes with
  | dropped stage entries =>
      refine ⟨rfl, fun other differ => ?_⟩
      rw [Table.get?_remove, if_neg (Ne.symm differ)]
  | _ => exact ⟨rfl, fun other differ => rfl⟩

/-- Only the drop writes to the stores at all. -/
theorem Takes.unchanged (takes : r.Takes stores turn) (early : ∀ vm, r.stage ≠ .dropping vm) :
    turn.stores = stores := by
  cases takes with
  | @dropped vm stage entries => exact absurd stage (early vm)
  | _ => rfl

namespace Story

variable {trail : List Event}

/-- The machine that the lookup met, and no other, is stopped next, and once. -/
theorem stops_iff (story : r.Story trail) :
    (stops trail).length ≤ 1 ∧ ∀ vm, vm ∈ stops trail ↔
      .found r.container (some vm) ∈ trail ∧ trail ≠ [.found r.container (some vm)] := by
  cases story with
  | removing stage cleared => cases cleared <;> simp [stops]
  | awaitingRemoval stage cleared => cases cleared <;> simp [stops]
  | removed stage cleared => cases cleared <;> simp [stops]
  | _ => simp [stops]

/-- The stock runtime is asked once, with the own request, behind all of the teardown. -/
theorem cleared_of_asked (story : r.Story trail) {request : RemoveRequest}
    {before after : List Event} (split : trail = before ++ .asked (.remove request) :: after) :
    request = r.request ∧ Cleared r.container before ∧ removals after = [] := by
  have asked : .asked (.remove request) ∈ trail := by
    rw [split]
    exact List.mem_append_right _ List.mem_cons_self
  -- The only question of this kind stands behind the events that clear the way for it.
  obtain ⟨first, rest, cleared, told, silent⟩ : ∃ first rest, Cleared r.container first ∧
      trail = first ++ .asked (.remove r.request) :: rest ∧ removals rest = [] := by
    cases story with
    | @awaitingRemoval first stage cleared => exact ⟨first, [], cleared, rfl, rfl⟩
    | @removed first outcome stage cleared => exact ⟨first, _, cleared, rfl, rfl⟩
    | removing stage cleared => cases cleared <;> simp at asked
    | _ => simp at asked
  have before_first : .asked (.remove request) ∉ first := by
    cases cleared <;> simp
  have not_after : .asked (.remove request) ∉ rest := by
    intro member
    have listed : request ∈ removals rest := List.mem_filterMap.2 ⟨_, member, rfl⟩
    simp [silent] at listed
  obtain ⟨rfl, same, rfl⟩ :=
    (List.append_cons_inj_of_notMem before_first not_after).1 (told.symm.trans split)
  obtain rfl := Request.remove.inj (Event.asked.inj same)
  exact ⟨rfl, cleared, silent⟩

/-- A failed stop ends the removal. -/
theorem of_stopFailed (story : r.Story trail) {outcome : Outcome Unit}
    (answered : .answered (.stopped outcome) ∈ trail) (failed : outcome ≠ .ok ()) :
    ∃ vm, trail = [.found r.container (some vm), .asked (.stop vm),
      .answered (.stopped outcome), .finished (.removed outcome)] := by
  cases story with
  | @stopFailed known stage broken vm =>
      obtain rfl : outcome = known := by simpa using answered
      exact ⟨vm, rfl⟩
  | removing stage cleared => cases cleared <;> simp_all
  | awaitingRemoval stage cleared => cases cleared <;> simp_all
  | removed stage cleared => cases cleared <;> simp_all
  | _ => simp_all

/-- Without a failed stop the answer of the stock runtime is the result. -/
theorem finished_iff (story : r.Story trail)
    (stopped : ∀ outcome, .answered (.stopped outcome) ∈ trail → outcome = .ok ())
    (result : Result) : .finished result ∈ trail ↔
      ∃ outcome, result = .removed outcome ∧ .answered (.removed outcome) ∈ trail := by
  cases story with
  | stopFailed stage broken vm => exact absurd (stopped _ (by simp)) broken
  | removing stage cleared => cases cleared <;> simp
  | awaitingRemoval stage cleared => cases cleared <;> simp
  | removed stage cleared => cases cleared <;> simp
  | _ => simp

/-- A removal registers nothing. -/
theorem registered_notMem (story : r.Story trail) (container : String) (vm : Vm)
    (accepted : Bool) : .registered container vm accepted ∉ trail := by
  cases story with
  | removing stage cleared => cases cleared <;> simp
  | awaitingRemoval stage cleared => cases cleared <;> simp
  | removed stage cleared => cases cleared <;> simp
  | _ => simp

/-- A finished removal whose stop succeeded has gone the whole way. -/
theorem of_finished (story : r.Story trail) {result : Result}
    (stopped : .answered (.stopped (.ok ())) ∈ trail) (finished : .finished result ∈ trail) :
    ∃ vm entry outcome, result = .removed outcome ∧
      trail = [.found r.container (some vm), .asked (.stop vm), .answered (.stopped (.ok ())),
        .dropped r.container entry, .asked (.remove r.request), .answered (.removed outcome),
        .finished (.removed outcome)] := by
  cases story with
  | removing stage cleared => cases cleared <;> simp at finished
  | awaitingRemoval stage cleared => cases cleared <;> simp at finished
  | @removed first outcome stage cleared =>
      obtain rfl : result = .removed outcome := by
        cases cleared <;> simpa using finished
      cases cleared with
      | absent => simp at stopped
      | dropped vm entry => exact ⟨vm, entry, outcome, rfl, rfl⟩
  | stopFailed stage failed vm =>
      have same := List.mem_cons.1 stopped
      simp_all
  | _ => simp at finished

end Story

end Removal

/-- A call that was opened as a removal is one. -/
theorem Call.Story.of_remove {id : Nat} {request : RemoveRequest} {call : Call}
    {trail : List Event} (story : Call.Story (.remove id request) call trail) :
    ∃ r : Removal, call = .removal r ∧ r.request = request ∧ r.Story trail := by
  cases story with
  | removal asks story => exact ⟨_, rfl, asks, story⟩

namespace System

variable {moves : List Move} {s prior next : System} {newer earlier : List Occurrence} {id : Nat}
  {container : String}

/-- Without a registration an entry stays or goes. -/
theorem entry_of_unregistered
    (silent : ∀ between ∈ newer, ∀ vm, between.event ≠ .registered container vm true) :
    (replay (newer ++ earlier)).vms.get? container = none ∨
      (replay (newer ++ earlier)).vms.get? container =
        (replay earlier).vms.get? container := by
  induction newer with
  | nil => exact .inr rfl
  | cons newest rest ih =>
      have before := ih fun between member => silent between (List.mem_cons_of_mem _ member)
      rw [List.cons_append, replay]
      cases changed : newest.event.changes container with
      | false =>
          rw [Event.vm_effect changed]
          exact before
      | true =>
          have quiet := silent newest List.mem_cons_self
          obtain ⟨source, event⟩ := newest
          cases event with
          | registered other vm accepted =>
              obtain ⟨rfl, rfl⟩ : accepted = true ∧ other = container := by
                simpa [Event.changes] using changed
              exact absurd rfl (quiet vm)
          | dropped other vm =>
              obtain rfl : other = container := by simpa [Event.changes] using changed
              exact .inl (by simp [Event.effect, Table.get?_remove])
          | _ => simp [Event.changes] at changed

/-- A removal of a run keeps to its story. -/
theorem removal_of_mem (reached : empty.run moves = some s)
    (removed : .remove id ⟨container⟩ ∈ moves) :
    ∃ r : Removal, r.container = container ∧ r.request = ⟨container⟩ ∧ r.Story (s.trail id) := by
  obtain ⟨call, present, told⟩ := story_of_mem reached removed rfl
  obtain ⟨r, rfl, asks, story⟩ := told.of_remove
  exact ⟨r, congrArg RemoveRequest.container asks, asks, story⟩

/-- The lookup of a removal meets the registry of its moment. -/
theorem author_of_found {vm : Option Vm} (reached : empty.run moves = some s)
    (split : s.history = newer ++ ⟨some id, .found container vm⟩ :: earlier) :
    ∃ before prior, before <+: moves ∧ empty.run before = some prior ∧ prior.history = earlier ∧
      .remove id ⟨container⟩ ∈ moves ∧ vm = prior.stores.vms.get? container := by
  obtain ⟨removed, asks, story, takes, authored⟩ := removal_author reached split rfl
  have added := authored.mem
  obtain ⟨before, inside, started⟩ := authored.reached
  subst asks
  cases takes with
  | found stage present =>
      obtain ⟨same, rfl⟩ := authored.alone
      obtain ⟨rfl, rfl⟩ := Event.found.inj same
      exact ⟨before, _, inside, started, rfl, removed, present.symm⟩
  | missed stage absent =>
      obtain ⟨same, rfl⟩ := authored.alone
      obtain ⟨rfl, rfl⟩ := Event.found.inj same
      exact ⟨before, _, inside, started, rfl, removed, absent.symm⟩
  | _ => simp at added

/-- A step of a removal is its opening, which does nothing, or one of its turns. -/
theorem turn_of_paces (reached : empty.run moves = some s)
    (removed : .remove id ⟨container⟩ ∈ moves) (paces : Paces moves id prior next) :
    next.stores = prior.stores ∨ ∃ (r : Removal) (turn : Turn Removal),
      r.container = container ∧ r.Story (prior.trail id) ∧ r.Takes prior.stores turn ∧
        next.stores = turn.stores ∧ prior.history <:+ s.history := by
  obtain @⟨before, move, within, caller, started, moved⟩ := paces
  have inside : before <+: moves := (List.prefix_append _ _).trans within
  have known : ∀ origin ∈ moves, origin.opened? = some id → origin = .remove id ⟨container⟩ :=
    fun origin member number => origin_unique reached member number removed rfl
  cases acts_of_apply moved caller with
  | opened fresh number opens same =>
      obtain rfl := known move (within.subset (by simp)) number
      subst same
      cases opens
      exact .inl rfl
  | advanced present number takes same =>
      obtain ⟨origin, member, opened, story⟩ := origin_of_call started present
      obtain rfl := known origin (inside.subset member) opened
      obtain ⟨r, rfl, asks, story⟩ := story.of_remove
      subst same
      cases takes with
      | removal takes =>
          exact .inr ⟨r, _, congrArg RemoveRequest.container asks, story, takes, rfl,
            suffix_of_within inside started reached⟩

/-- Some removals of one container, all opened behind a moment of the run.  From this moment on
nobody else changes the entry of the container. -/
structure Attempts (moves : List Move) (prior s : System) (container : String)
    (ids : List Nat) : Prop where
  since : ∃ before, before <+: moves ∧ empty.run before = some prior
  opened : ∀ id ∈ ids, .remove id ⟨container⟩ ∈ moves ∧ prior.calls.get? id = none
  alone : ∀ news, s.history = news ++ prior.history → ∀ occurrence ∈ news,
    occurrence.event.changes container = true → ∃ id ∈ ids, occurrence.source = some id

namespace Attempts

variable {ids : List Nat} {vm : Vm} {news : List Occurrence}

/-- The history since the moment holds all events of the attempts. -/
theorem mem_news (attempts : Attempts moves prior s container ids)
    (grown : s.history = news ++ prior.history) (attempt : id ∈ ids) {event : Event}
    (member : event ∈ s.trail id) : ⟨some id, event⟩ ∈ news := by
  obtain ⟨before, inside, started⟩ := attempts.since
  have silent : prior.trail id = [] := by
    cases told started id with
    | silent free quiet unopened => exact quiet
    | called origin call present => simp [(attempts.opened id attempt).2] at present
  have occurs := mem_trail.1 member
  rw [grown] at occurs
  rcases List.mem_append.1 occurs with new | old
  · exact new
  · have early := mem_trail.2 old
    rw [silent] at early
    cases early

/-- No attempt registers a machine. -/
theorem unregistered (attempts : Attempts moves prior s container ids)
    (reached : empty.run moves = some s) (grown : s.history = news ++ prior.history)
    {between : Occurrence} (member : between ∈ news) (vm : Vm) :
    between.event ≠ .registered container vm true := by
  intro same
  obtain ⟨id, attempt, own⟩ :=
    attempts.alone news grown between member (by simp [same, Event.changes])
  obtain ⟨r, -, -, story⟩ := removal_of_mem reached (attempts.opened id attempt).1
  apply story.registered_notMem container vm true
  rw [mem_trail, grown, ← own, ← same]
  exact List.mem_append_left _ member

/-- An event of an attempt has its place behind the moment, with no registration around it. -/
theorem place (attempts : Attempts moves prior s container ids)
    (reached : empty.run moves = some s) (attempt : id ∈ ids) {event : Event}
    (member : event ∈ s.trail id) :
    ∃ later gap, s.history = (later ++ ⟨some id, event⟩ :: gap) ++ prior.history ∧
      (∀ between ∈ later, ∀ vm, between.event ≠ .registered container vm true) ∧
        ∀ between ∈ gap, ∀ vm, between.event ≠ .registered container vm true := by
  obtain ⟨before, inside, started⟩ := attempts.since
  obtain ⟨news, grown⟩ := suffix_of_within inside started reached
  obtain ⟨later, gap, rfl⟩ := List.append_of_mem (attempts.mem_news grown.symm attempt member)
  have silent : ∀ between ∈ later ++ ⟨some id, event⟩ :: gap, ∀ vm,
      between.event ≠ .registered container vm true :=
    fun between member => attempts.unregistered reached grown.symm member
  refine ⟨later, gap, grown.symm, fun between inside => silent between ?_,
    fun between inside => silent between ?_⟩
  · exact List.mem_append_left _ inside
  · exact List.mem_append_right _ (List.mem_cons_of_mem _ inside)

/-- Every attempt that finds a machine finds the machine that was there at first. -/
theorem found (attempts : Attempts moves prior s container ids)
    (reached : empty.run moves = some s) (held : prior.stores.vms.get? container = some vm)
    (attempt : id ∈ ids) {seen : Vm} (met : .found container (some seen) ∈ s.trail id) :
    seen = vm := by
  obtain ⟨before, inside, started⟩ := attempts.since
  obtain ⟨later, gap, split, -, silent⟩ := attempts.place reached attempt met
  have truthful := truthful_history reached
  rw [split, List.append_assoc, List.cons_append] at truthful
  have told : some seen = (replay (gap ++ prior.history)).vms.get? container :=
    truthful.of_append.1
  have now : (replay (gap ++ prior.history)).vms.get? container = none ∨
      (replay (gap ++ prior.history)).vms.get? container =
        (replay prior.history).vms.get? container := entry_of_unregistered silent
  rcases now with gone | kept
  · rw [gone] at told
    cases told
  · rw [kept, (replay_history started).1, held] at told
    exact Option.some.inj told

/-- An attempt whose stop failed has done nothing but ask for it. -/
theorem trail_of_failed (attempts : Attempts moves prior s container ids)
    (reached : empty.run moves = some s) (held : prior.stores.vms.get? container = some vm)
    (attempt : id ∈ ids) {outcome : Outcome Unit}
    (answered : .answered (.stopped outcome) ∈ s.trail id) (failed : outcome ≠ .ok ()) :
    s.trail id = [.found container (some vm), .asked (.stop vm), .answered (.stopped outcome),
      .finished (.removed outcome)] := by
  obtain ⟨r, rfl, asks, story⟩ := removal_of_mem reached (attempts.opened id attempt).1
  obtain ⟨seen, trail⟩ := story.of_stopFailed answered failed
  have met : .found r.container (some seen) ∈ s.trail id := by simp [trail]
  obtain rfl := attempts.found reached held attempt met
  exact trail

/-- The only attempt that drops the entry drops the machine that was there at first. -/
theorem entry_of_dropped (attempts : Attempts moves prior s container ids)
    (reached : empty.run moves = some s) (held : prior.stores.vms.get? container = some vm)
    {last : Nat} (attempt : last ∈ ids) (others : ∀ id ∈ ids, id ≠ last →
      ∀ entry, .dropped container entry ∉ s.trail id)
    {entry : Option Vm} (dropped : .dropped container entry ∈ s.trail last) :
    entry = some vm := by
  obtain ⟨before, inside, started⟩ := attempts.since
  obtain ⟨later, gap, grown, -, -⟩ := attempts.place reached attempt dropped
  have split : s.history = later ++ (⟨some last, .dropped container entry⟩ ::
      (gap ++ prior.history)) := by
    rw [grown, List.append_assoc, List.cons_append]
  obtain ⟨_, middle, seen, -, arrived, same, -, rfl, trail⟩ := dropping_of_dropped reached split
  obtain ⟨played, truthful⟩ := replay_history arrived
  rw [same] at played truthful
  have present : (replay prior.history).vms.get? container = some vm := by
    rw [(replay_history started).1, held]
  rcases entry_until_dropped truthful present with ⟨-, there⟩ | ⟨gone, source, kept, rfl, -⟩
  · rw [← played, there]
  · -- A drop in between would be one of another attempt, or a second one of the last.
    obtain ⟨id, mine, rfl⟩ := attempts.alone _ grown ⟨source, .dropped container (some vm)⟩
      (by simp) (by simp [Event.changes])
    have occurs : .dropped container (some vm) ∈ middle.trail id := by
      rw [mem_trail, same]
      simp
    by_cases own : id = last
    · subst own
      simp [trail] at occurs
    · refine absurd (mem_trail.2 ?_) (others id mine own (some vm))
      rw [split, ← same]
      exact List.mem_append_right _ (List.mem_cons_of_mem _ (mem_trail.1 occurs))

/-- Once an attempt has dropped the entry it stays away. -/
theorem gone_of_dropped (attempts : Attempts moves prior s container ids)
    (reached : empty.run moves = some s) {last : Nat} (attempt : last ∈ ids)
    {entry : Option Vm} (dropped : .dropped container entry ∈ s.trail last) :
    s.stores.vms.get? container = none := by
  obtain ⟨later, gap, split, silent, -⟩ := attempts.place reached attempt dropped
  have away : (replay (⟨some last, .dropped container entry⟩ ::
      (gap ++ prior.history))).vms.get? container = none := by
    simp [replay, Event.effect, Table.get?_remove]
  rw [← (replay_history reached).1, split, List.append_assoc, List.cons_append]
  rcases entry_of_unregistered silent with here | here
  · exact here
  · rw [here, away]

/-- The attempt that has stopped the machine has gone the whole way with it. -/
theorem trail_of_last (attempts : Attempts moves prior s container ids)
    (reached : empty.run moves = some s) (held : prior.stores.vms.get? container = some vm)
    {last : Nat} (attempt : last ∈ ids) (others : ∀ id ∈ ids, id ≠ last →
      ∀ entry, .dropped container entry ∉ s.trail id)
    {result : Result} (stopped : .answered (.stopped (.ok ())) ∈ s.trail last)
    (finished : .finished result ∈ s.trail last) :
    ∃ outcome, result = .removed outcome ∧
      s.trail last = [.found container (some vm), .asked (.stop vm),
        .answered (.stopped (.ok ())), .dropped container (some vm),
        .asked (.remove ⟨container⟩), .answered (.removed outcome),
        .finished (.removed outcome)] := by
  obtain ⟨r, rfl, asks, story⟩ := removal_of_mem reached (attempts.opened last attempt).1
  obtain ⟨seen, entry, outcome, rfl, trail⟩ := story.of_finished stopped finished
  have met : .found r.container (some seen) ∈ s.trail last := by simp [trail]
  have dropped : .dropped r.container entry ∈ s.trail last := by simp [trail]
  obtain rfl := attempts.found reached held attempt met
  obtain rfl := attempts.entry_of_dropped reached held attempt others dropped
  exact ⟨outcome, rfl, asks ▸ trail⟩

end Attempts

/-- What becomes of the removals of a container, each one and several in a row. -/
structure Ordered (moves : List Move) (s : System) (container : String) : Prop where
  /-- The lookup of a removal meets the registry of its moment. -/
  lookup : ∀ id newer other vm earlier, .remove id ⟨container⟩ ∈ moves →
    s.history = newer ++ ⟨some id, .found other vm⟩ :: earlier →
      other = container ∧ ∃ before prior, before <+: moves ∧ empty.run before = some prior ∧
        prior.history = earlier ∧ vm = prior.stores.vms.get? container
  /-- The machine that the lookup met, and no other, is stopped next, and once. -/
  stopped : ∀ id, .remove id ⟨container⟩ ∈ moves → (stops (s.trail id)).length ≤ 1 ∧
    ∀ vm, vm ∈ stops (s.trail id) ↔ .found container (some vm) ∈ s.trail id ∧
      s.trail id ≠ [.found container (some vm)]
  /-- The stock runtime is asked once, with the own request, and behind all of the teardown. -/
  passedOn : ∀ id before request after, .remove id ⟨container⟩ ∈ moves →
    s.trail id = before ++ .asked (.remove request) :: after →
      request = ⟨container⟩ ∧ Removal.Cleared container before ∧ removals after = []
  /-- A failed stop is the result of the removal, which does nothing else. -/
  failed : ∀ id outcome, .remove id ⟨container⟩ ∈ moves →
    .answered (.stopped outcome) ∈ s.trail id → outcome ≠ .ok () →
      (∃ vm, s.trail id = [.found container (some vm), .asked (.stop vm),
        .answered (.stopped outcome), .finished (.removed outcome)]) ∧
      ∀ prior next, Paces moves id prior next → next.stores = prior.stores
  /-- Otherwise the answer of the stock runtime is the result. -/
  returned : ∀ id, .remove id ⟨container⟩ ∈ moves →
    (∀ outcome, .answered (.stopped outcome) ∈ s.trail id → outcome = .ok ()) →
      ∀ result, .finished result ∈ s.trail id ↔
        ∃ outcome, result = .removed outcome ∧ .answered (.removed outcome) ∈ s.trail id
  /-- No step of a removal changes an endpoint or the entry of another container. -/
  confined : ∀ id prior next, .remove id ⟨container⟩ ∈ moves → Paces moves id prior next →
    next.stores.endpoints = prior.stores.endpoints ∧
      ∀ other, other ≠ container →
        next.stores.vms.get? other = prior.stores.vms.get? other
  /-- Any number of failed stops and a good one stop the same machine, and only the last attempt
  drops its entry and reaches the stock runtime. -/
  retried : ∀ prior vm failed last result,
    Attempts moves prior s container (failed ++ [last]) →
      prior.stores.vms.get? container = some vm →
        (∀ id ∈ failed, ∃ outcome, outcome ≠ .ok () ∧
          .answered (.stopped outcome) ∈ s.trail id) →
        .answered (.stopped (.ok ())) ∈ s.trail last → .finished result ∈ s.trail last →
          (failed ++ [last]).flatMap (fun id => stops (s.trail id)) =
              List.replicate (failed.length + 1) vm ∧
            (∀ id ∈ failed, removals (s.trail id) = [] ∧
              ∀ event ∈ s.trail id, event.changes container = false) ∧
            .dropped container (some vm) ∈ s.trail last ∧
              removals (s.trail last) = [⟨container⟩] ∧
                s.stores.vms.get? container = none

/-- An attempt whose stop failed leaves the entry and the stock runtime alone. -/
theorem Attempts.quiet_of_failed {ids : List Nat} {vm : Vm}
    (attempts : Attempts moves prior s container ids) (reached : empty.run moves = some s)
    (held : prior.stores.vms.get? container = some vm) (attempt : id ∈ ids)
    {outcome : Outcome Unit} (answered : .answered (.stopped outcome) ∈ s.trail id)
    (failed : outcome ≠ .ok ()) :
    stops (s.trail id) = [vm] ∧ removals (s.trail id) = [] ∧
      ∀ event ∈ s.trail id, event.changes container = false := by
  rw [attempts.trail_of_failed reached held attempt answered failed]
  exact ⟨rfl, rfl, by simp [Event.changes]⟩

/-- In every run a removal stops first, then drops and then goes on, and a failed stop can be
tried again. -/
theorem removal_ordered (reached : empty.run moves = some s) (container : String) :
    Ordered moves s container where
  lookup id newer other vm earlier removed split := by
    obtain ⟨before, prior, inside, started, same, looked, met⟩ := author_of_found reached split
    obtain ⟨-, rfl⟩ : id = id ∧ other = container := by
      simpa using origin_unique reached looked rfl removed rfl
    exact ⟨rfl, before, prior, inside, started, same, met⟩
  stopped id removed := by
    obtain ⟨r, rfl, asks, story⟩ := removal_of_mem reached removed
    exact story.stops_iff
  passedOn id before request after removed split := by
    obtain ⟨r, rfl, asks, story⟩ := removal_of_mem reached removed
    exact asks ▸ story.cleared_of_asked split
  failed id outcome removed answered broken := by
    obtain ⟨r, rfl, asks, story⟩ := removal_of_mem reached removed
    obtain ⟨vm, trail⟩ := story.of_stopFailed answered broken
    refine ⟨⟨vm, trail⟩, fun prior next paces => ?_⟩
    rcases turn_of_paces reached removed paces with same | ⟨q, turn, -, early, takes, same, within⟩
    · exact same
    · rw [same]
      apply takes.unchanged
      intro seen stage
      have stopped : .answered (.stopped (.ok ())) ∈ s.trail id :=
        trail_subset within (by rw [early.of_dropping stage]; simp)
      rw [trail] at stopped
      simp_all
  returned id removed stopped := by
    obtain ⟨r, rfl, asks, story⟩ := removal_of_mem reached removed
    exact story.finished_iff stopped
  confined id prior next removed paces := by
    rcases turn_of_paces reached removed paces with same | ⟨r, turn, rfl, early, takes, same, -⟩
    · rw [same]
      exact ⟨rfl, fun other differ => rfl⟩
    · rw [same]
      exact takes.confined
  retried prior vm failed last result attempts held broken stopped finished := by
    have quiet : ∀ id ∈ failed, stops (s.trail id) = [vm] ∧ removals (s.trail id) = [] ∧
        ∀ event ∈ s.trail id, event.changes container = false := by
      intro id attempt
      obtain ⟨outcome, bad, answered⟩ := broken id attempt
      exact attempts.quiet_of_failed reached held (List.mem_append_left _ attempt) answered bad
    have others : ∀ id ∈ failed ++ [last], id ≠ last →
        ∀ entry, .dropped container entry ∉ s.trail id := by
      intro id attempt differs entry dropped
      have early : id ∈ failed := by simpa [differs] using attempt
      simpa [Event.changes] using (quiet id early).2.2 _ dropped
    obtain ⟨outcome, rfl, trail⟩ :=
      attempts.trail_of_last reached held (by simp) others stopped finished
    have dropped : .dropped container (some vm) ∈ s.trail last := by
      rw [trail]
      simp
    have each : ∀ id ∈ failed ++ [last], stops (s.trail id) = [vm] := by
      intro id attempt
      rcases List.mem_append.1 attempt with early | final
      · exact (quiet id early).1
      · rw [List.mem_singleton.1 final, trail]
        rfl
    refine ⟨?_, fun id attempt => (quiet id attempt).2, dropped, by rw [trail]; rfl,
      attempts.gone_of_dropped reached (by simp) dropped⟩
    rw [List.flatMap_congr each, ← List.map_eq_flatMap, List.map_const', List.length_append]
    rfl

/-- A workload is created. -/
def settling : List Move :=
  Sample.started 0 false "pod" ++
    [.receive 0 (.booted (.ok (Sample.machine "vm-1" "10.0.0.2"))), .proceed 0,
      .receive 0 (.created (.ok ⟨"c", []⟩)), .proceed 0]

/-- Its container is removed three times, and only the last stop succeeds. -/
def persistence : List Move :=
  settling ++ [.remove 1 ⟨"c"⟩, .proceed 1, .proceed 1,
    .receive 1 (.stopped (.error (.supervisor "stop" "busy"))), .remove 2 ⟨"c"⟩, .proceed 2,
    .remove 3 ⟨"c"⟩, .proceed 3, .proceed 2, .proceed 3, .receive 2 (.stopped (.panic "gone")),
    .receive 3 (.stopped (.ok ())), .proceed 3, .proceed 3, .receive 3 (.removed (.ok ()))]

theorem removal_ordered_persistence :
    ∃ s prior, empty.run persistence = some s ∧
      Attempts persistence prior s "c" [1, 2, 3] ∧
        prior.stores.vms.get? "c" = some (Sample.machine "vm-1" "10.0.0.2") ∧
          .answered (.stopped (.error (.supervisor "stop" "busy"))) ∈ s.trail 1 ∧
            .answered (.stopped (.panic "gone")) ∈ s.trail 2 ∧
              .answered (.stopped (.ok ())) ∈ s.trail 3 ∧
                .finished (.removed (.ok ())) ∈ s.trail 3 ∧ Ordered persistence s "c" := by
  let vm := Sample.machine "vm-1" "10.0.0.2"
  have first : (empty.run settling).map (fun s => (s.stores.vms.get? "c",
      [1, 2, 3].map s.calls.get?, s.history.length)) =
        some (some vm, [none, none, none], 7) := by decide
  have second : (empty.run persistence).map (fun s => (s.history.take 15).filter
      (·.event.changes "c")) = some [⟨some 3, .dropped "c" (some vm)⟩] := by decide
  have third : (empty.run persistence).map (fun s => (s.history.length,
      decide (.answered (.stopped (.error (.supervisor "stop" "busy"))) ∈ s.trail 1),
      decide (.answered (.stopped (.panic "gone")) ∈ s.trail 2),
      decide (.answered (.stopped (.ok ())) ∈ s.trail 3),
      decide (.finished (.removed (.ok ())) ∈ s.trail 3))) =
        some (22, true, true, true, true) := by decide
  obtain ⟨prior, started, beginning⟩ := Option.map_eq_some_iff.1 first
  obtain ⟨s, reached, changed⟩ := Option.map_eq_some_iff.1 second
  rw [reached] at third
  simp only [Option.map_some, Option.some.injEq, Prod.mk.injEq, decide_eq_true_eq] at third
  simp only [List.map_cons, List.map_nil, Prod.mk.injEq, List.cons.injEq] at beginning
  obtain ⟨size, one, two, three, done⟩ := third
  obtain ⟨held, ⟨free1, free2, free3, -⟩, before⟩ := beginning
  refine ⟨s, prior, reached, ⟨⟨settling, List.prefix_append _ _, started⟩, ?_, ?_⟩, held, one,
    two, three, done, removal_ordered reached "c"⟩
  · intro id attempt
    simp only [List.mem_cons, List.not_mem_nil, or_false] at attempt
    rcases attempt with rfl | rfl | rfl
    · exact ⟨by decide, free1⟩
    · exact ⟨by decide, free2⟩
    · exact ⟨by decide, free3⟩
  · intro news grown occurrence member writes
    have length : news.length = 15 := by
      rw [grown, List.length_append, before] at size
      omega
    have inside : occurrence ∈ (s.history.take 15).filter (·.event.changes "c") := by
      rw [grown, ← length, List.take_left]
      exact List.mem_filter.2 ⟨member, writes⟩
    rw [changed] at inside
    exact ⟨3, by simp, by rw [List.mem_singleton.1 inside]⟩

end System

end GuestPod
