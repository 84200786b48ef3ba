/-
This file finds the story of each call in the history of a system.
-/

import GuestPod.Proofs.Story

namespace GuestPod

namespace System

/-- The events of one call, in their order. -/
def trail (s : System) (id : Nat) : List Event :=
  (s.history.reverse.filter (·.source = some id)).map (·.event)

theorem mem_trail {s : System} {id : Nat} {event : Event} :
    event ∈ s.trail id ↔ ⟨some id, event⟩ ∈ s.history := by
  simp only [trail, List.mem_map, List.mem_filter, List.mem_reverse, decide_eq_true_eq]
  constructor
  · rintro ⟨⟨source, event⟩, ⟨member, rfl⟩, rfl⟩
    exact member
  · intro member
    exact ⟨_, ⟨member, rfl⟩, rfl⟩

/-- The events of a call stay its events. -/
theorem trail_subset {prior s : System} {id : Nat} {event : Event}
    (within : prior.history <:+ s.history) (member : event ∈ prior.trail id) :
    event ∈ s.trail id :=
  mem_trail.2 (within.subset (mem_trail.1 member))

theorem trail_record_self (s : System) (id : Nat) (turn : Turn Call) :
    (s.record id turn).trail id = s.trail id ++ turn.events := by
  have own : ∀ events : List Event,
      ((occurrences (some id) events).filter (·.source = some id)).map (·.event) = events := by
    intro events
    induction events with
    | nil => rfl
    | cons event rest ih => simpa [occurrences] using ih
  simp only [trail, record, List.reverse_append, List.reverse_reverse, List.filter_append,
    List.map_append, own]

theorem trail_record_other (s : System) {id other : Nat} (differ : id ≠ other)
    (turn : Turn Call) : (s.record id turn).trail other = s.trail other := by
  have foreign : (occurrences (some id) turn.events).filter (·.source = some other) = [] := by
    apply List.filter_eq_nil_iff.2
    intro occurrence member
    obtain ⟨event, -, rfl⟩ := List.mem_map.1 member
    simpa using differ
  simp only [trail, record, List.reverse_append, List.reverse_reverse, List.filter_append,
    foreign, List.append_nil]

theorem trail_access (s : System) (event : Event) (stores : Stores) (id : Nat) :
    (s.access event stores).trail id = s.trail id := by
  simp [trail, access]

/-- A number without a call has no events.  A call has one origin and keeps to its story. -/
inductive Told (moves : List Move) (s : System) (id : Nat) : Prop where
  | silent (free : s.calls.get? id = none) (quiet : s.trail id = [])
      (unopened : ∀ move ∈ moves, move.opened? ≠ some id) : Told moves s id
  | called (origin : Move) (call : Call) (present : s.calls.get? id = some call)
      (member : origin ∈ moves) (number : origin.opened? = some id)
      (only : ∀ move ∈ moves, move.opened? = some id → move = origin)
      (story : Call.Story origin call (s.trail id)) : Told moves s id

theorem Told.other {moves : List Move} {s next : System} {id : Nat} {move : Move}
    (told : Told moves s id) (calls : next.calls.get? id = s.calls.get? id)
    (trail : next.trail id = s.trail id) (number : move.opened? ≠ some id) :
    Told (moves ++ [move]) next id := by
  cases told with
  | silent free quiet unopened =>
      refine .silent (calls.trans free) (trail.trans quiet) ?_
      intro other member
      rcases List.mem_append.1 member with old | new
      · exact unopened other old
      · rw [List.mem_singleton.1 new]
        exact number
  | called origin call present member opened only story =>
      refine .called origin call (calls.trans present) (List.mem_append_left _ member) opened ?_
        (trail ▸ story)
      intro other member same
      rcases List.mem_append.1 member with old | new
      · exact only other old same
      · rw [List.mem_singleton.1 new] at same
        exact absurd same number

/-- Every call of a run keeps to its story. -/
theorem told {moves : List Move} {s : System} (reached : empty.run moves = some s) (id : Nat) :
    Told moves s id := by
  refine run_induction (motive := fun moves s => ∀ id, Told moves s id) ?_ ?_ reached id
  · intro id
    exact .silent rfl rfl (by simp)
  · rintro moves s next move news - ih - step id
    cases step with
    | @opened opening turn fresh number opens =>
        by_cases same : opening = id
        · subst same
          cases ih opening with
          | called origin call present => simp [fresh] at present
          | silent free quiet unopened =>
              refine .called move turn.next ?_ (by simp) number ?_ ?_
              · simp [record, Table.get?_put]
              · intro other member opened
                rcases List.mem_append.1 member with old | new
                · exact absurd opened (unopened other old)
                · exact List.mem_singleton.1 new
              · rw [trail_record_self, quiet]
                exact Call.story_of_opens opens
        · refine (ih id).other ?_ (trail_record_other s same turn) ?_
          · simp [record, Table.get?_put, same]
          · simpa [number] using same
    | @advanced running call turn present number takes =>
        by_cases same : running = id
        · subst same
          cases ih running with
          | silent free => simp [present] at free
          | called origin known here member opened only story =>
              obtain rfl : known = call := Option.some.inj (here.symm.trans present)
              refine .called origin turn.next ?_ (List.mem_append_left _ member) opened ?_ ?_
              · simp [record, Table.get?_put]
              · intro other joined same
                rcases List.mem_append.1 joined with old | new
                · exact only other old same
                · simp [List.mem_singleton.1 new, number] at same
              · rw [trail_record_self]
                exact story.takes takes
        · refine (ih id).other ?_ (trail_record_other s same turn) ?_
          · simp [record, Table.get?_put, same]
          · simp [number]
    | accessed number accesses =>
        exact (ih id).other rfl (trail_access s _ _ id) (by simp [number])

/-- A call that a run has opened keeps to its story. -/
theorem story_of_mem {moves : List Move} {s : System} (reached : empty.run moves = some s)
    {origin : Move} {id : Nat} (member : origin ∈ moves) (number : origin.opened? = some id) :
    ∃ call, s.calls.get? id = some call ∧ Call.Story origin call (s.trail id) := by
  cases told reached id with
  | silent free quiet unopened => exact absurd number (unopened origin member)
  | called _ _ present _ _ only story =>
      rw [only origin member number]
      exact ⟨_, present, story⟩

/-- A number is given by one move only. -/
theorem origin_unique {moves : List Move} {s : System} (reached : empty.run moves = some s)
    {first second : Move} {id : Nat} (member : first ∈ moves) (number : first.opened? = some id)
    (other : second ∈ moves) (same : second.opened? = some id) : first = second := by
  cases told reached id with
  | silent free quiet unopened => exact absurd number (unopened first member)
  | called _ _ _ _ _ only _ => exact (only first member number).trans (only second other same).symm

/-- A call was opened by a move of the run. -/
theorem origin_of_call {moves : List Move} {s : System} (reached : empty.run moves = some s)
    {id : Nat} {call : Call} (present : s.calls.get? id = some call) :
    ∃ origin ∈ moves, origin.opened? = some id ∧ Call.Story origin call (s.trail id) := by
  cases told reached id with
  | silent free => simp [present] at free
  | called origin known here member number only story =>
      obtain rfl := Option.some.inj (here.symm.trans present)
      exact ⟨_, member, number, story⟩

/-- An event of a call belongs to the story of the call. -/
theorem story_of_event {moves : List Move} {s : System} (reached : empty.run moves = some s)
    {id : Nat} {event : Event} (member : event ∈ s.trail id) :
    ∃ origin call, origin ∈ moves ∧ origin.opened? = some id ∧
      Call.Story origin call (s.trail id) := by
  cases told reached id with
  | silent free quiet unopened =>
      rw [quiet] at member
      cases member
  | called origin call present opening number only story =>
      exact ⟨origin, call, opening, number, story⟩

/-- A call finishes once. -/
theorem finished_unique {moves : List Move} {s : System} (reached : empty.run moves = some s)
    {id : Nat} {first second : Result} (one : .finished first ∈ s.trail id)
    (other : .finished second ∈ s.trail id) : first = second := by
  obtain ⟨origin, call, opening, number, story⟩ := story_of_event reached one
  have known := (story.finished_iff first).1 one
  rw [(story.finished_iff second).1 other] at known
  exact (Option.some.inj known).symm

end System

end GuestPod
