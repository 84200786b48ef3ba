/-
This file shows that a placeholder without a machine does not matter.  Once its boot has failed,
nobody sees whether it is created, when it is created, and as which container.
-/

import GuestPod.Proofs.Forwarding

namespace GuestPod

theorem Turn.map_map {σ τ υ : Type} (f : σ → τ) (g : τ → υ) (turn : Option (Turn σ)) :
    (turn.map (Turn.map f)).map (Turn.map g) = turn.map (Turn.map (g ∘ f)) := by
  cases turn <;> rfl

/-- A task as if its answer were still out. -/
def Task.unanswered {α : Type} : Task α → Task α
  | .done _ => .running
  | task => task

namespace Workload

/-- A workload as if its placeholder were still out. -/
def unanswered (w : Workload) : Workload :=
  { w with placeholder := w.placeholder.unanswered }

variable {w : Workload} {stores : Stores}

theorem afterBoot_unanswered (outcome : Outcome Vm) :
    w.unanswered.afterBoot stores outcome = (w.afterBoot stores outcome).map unanswered := by
  cases outcome <;> rfl

theorem afterReaping_unanswered (vm : Vm) (error : Error) (outcome : Outcome Unit) :
    w.unanswered.afterReaping stores vm error outcome =
      (w.afterReaping stores vm error outcome).map unanswered := by
  cases outcome <;> rfl

/-- The call reads the answer of its placeholder at one stage only. -/
theorem proceed_unanswered
    (unread : ∀ vm outcome, w.stage = .awaitingPlaceholder vm → w.placeholder ≠ .done outcome) :
    w.unanswered.proceed stores = (w.proceed stores).map (Turn.map unanswered) := by
  cases stage : w.stage with
  | awaitingBoot =>
      cases machine : w.machine with
      | done outcome =>
          have mine : w.proceed stores = some (w.afterBoot stores outcome) := by
            simp only [proceed, stage, machine]
          have other : w.unanswered.proceed stores =
              some (w.unanswered.afterBoot stores outcome) := by
            simp only [proceed, unanswered, stage, machine]
          rw [mine, other, afterBoot_unanswered, Option.map_some]
      | _ => simp only [proceed, unanswered, stage, machine, Option.map_none]
  | awaitingPlaceholder vm =>
      cases placeholder : w.placeholder with
      | done outcome => exact absurd placeholder (unread vm outcome stage)
      | _ => simp only [proceed, unanswered, Task.unanswered, stage, placeholder, Option.map_none]
  | _ => simp only [proceed, unanswered, stage, Option.map_none]

theorem startPlaceholder_unanswered :
    w.unanswered.startPlaceholder stores =
      (w.startPlaceholder stores).map (Turn.map unanswered) := by
  cases placeholder : w.placeholder <;>
    simp [startPlaceholder, unanswered, Task.unanswered, placeholder, Turn.map]

theorem startBoot_unanswered :
    w.unanswered.startBoot stores = (w.startBoot stores).map (Turn.map unanswered) := by
  cases machine : w.machine <;> simp [startBoot, unanswered, machine, Turn.map]

/-- The answers to all other questions are heard as before. -/
theorem receive_unanswered {reply : Reply} (other : reply.service ≠ .create) :
    w.unanswered.receive stores reply = (w.receive stores reply).map (Turn.map unanswered) := by
  cases reply with
  | created outcome => exact absurd rfl other
  | removed outcome => rfl
  | booted outcome =>
      cases machine : w.machine <;> simp [receive, unanswered, machine, Turn.map]
  | stopped outcome =>
      cases stage : w.stage with
      | reaping vm error =>
          have mine : w.receive stores (.stopped outcome) =
              some (w.afterReaping stores vm error outcome) := by
            simp only [receive, stage]
          have other : w.unanswered.receive stores (.stopped outcome) =
              some (w.unanswered.afterReaping stores vm error outcome) := by
            simp only [receive, unanswered, stage]
          rw [mine, other, afterReaping_unanswered, Option.map_some]
      | _ => simp only [receive, unanswered, stage, Option.map_none]

/-- Only a booted machine is registered. -/
theorem Course.booted_of_registered {events : List Event} (course : w.Course events)
    {container : String} {vm : Vm} {accepted : Bool}
    (member : .registered container vm accepted ∈ events) :
    ∃ known, w.machine = .done (.ok known) := by
  cases course with
  | registered stage booted => exact ⟨_, booted⟩
  | refused stage booted => exact ⟨_, booted⟩
  | _ => simp [publication] at member

end Workload

namespace Call

/-- A call as if its placeholder were still out. -/
def unanswered : Call → Call
  | .workload w => .workload w.unanswered
  | call => call

/-- No answer of a placeholder is there for the call to read. -/
def Unread (call : Call) : Prop :=
  ∀ w vm outcome, call = .workload w → w.stage = .awaitingPlaceholder vm →
    w.placeholder ≠ .done outcome

variable {call : Call} {stores : Stores}

theorem proceed_unanswered (unread : call.Unread) :
    call.unanswered.proceed stores = (call.proceed stores).map (Turn.map unanswered) := by
  cases call with
  | workload w =>
      have same : w.unanswered.proceed stores =
          (w.proceed stores).map (Turn.map Workload.unanswered) :=
        Workload.proceed_unanswered fun vm outcome => unread w vm outcome rfl
      simp only [unanswered, proceed, same, Turn.map_map]
      rfl
  | relay r =>
      simp only [unanswered, proceed, Turn.map_map]
      rfl
  | removal r =>
      simp only [unanswered, proceed, Turn.map_map]
      rfl
  | _ => rfl

theorem startPlaceholder_unanswered :
    call.unanswered.startPlaceholder stores =
      (call.startPlaceholder stores).map (Turn.map unanswered) := by
  cases call with
  | workload w =>
      simp only [unanswered, startPlaceholder, Workload.startPlaceholder_unanswered, Turn.map_map]
      rfl
  | _ => rfl

theorem startBoot_unanswered :
    call.unanswered.startBoot stores = (call.startBoot stores).map (Turn.map unanswered) := by
  cases call with
  | workload w =>
      simp only [unanswered, startBoot, Workload.startBoot_unanswered, Turn.map_map]
      rfl
  | _ => rfl

theorem receive_unanswered {reply : Reply} (other : reply.service ≠ .create) :
    call.unanswered.receive reply stores =
      (call.receive reply stores).map (Turn.map unanswered) := by
  cases call with
  | workload w =>
      simp only [unanswered, receive, Workload.receive_unanswered other, Turn.map_map]
      rfl
  | relay r =>
      simp only [unanswered, receive, Turn.map_map]
      rfl
  | removal r =>
      simp only [unanswered, receive, Turn.map_map]
      rfl
  | _ => rfl

/-- A new call has no answer yet. -/
theorem create_unanswered (coordinator : Coordinator) (request : CreateRequest) :
    (create coordinator request stores).map unanswered = create coordinator request stores := by
  unfold create
  split
  · split <;> rfl
  · rfl
  · rfl

end Call

/-- A move that answers a creation of the group. -/
def Move.late (group : Nat → Bool) : Move → Bool
  | .receive id (.created _) => group id
  | _ => false

/-- The answer to a creation of the group. -/
def Occurrence.late (group : Nat → Bool) : Occurrence → Bool
  | ⟨some id, .answered (.created _)⟩ => group id
  | _ => false

namespace System

/-- The moves without the answers to creations of the group. -/
def muted (group : Nat → Bool) (moves : List Move) : List Move :=
  moves.filter fun move => !move.late group

/-- A history without the answers to creations of the group. -/
def heard (group : Nat → Bool) (history : List Occurrence) : List Occurrence :=
  history.filter fun occurrence => !occurrence.late group

theorem heard_append (group : Nat → Bool) (newer earlier : List Occurrence) :
    heard group (newer ++ earlier) = heard group newer ++ heard group earlier :=
  List.filter_append _ _

/-- The boot of every call of the group has failed, so nobody waits for its placeholder. -/
def Detached (group : Nat → Bool) (s : System) : Prop :=
  ∀ id, group id = true →
    ∃ boot, .answered (.booted boot) ∈ s.trail id ∧ ∀ vm, boot ≠ .ok vm

variable {group : Nat → Bool} {moves before : List Move} {s t u next : System} {move : Move}
  {id : Nat}

namespace Detached

/-- A call of the group is a workload whose boot is done and has failed. -/
theorem exists_workload (detached : Detached group s) (reached : empty.run moves = some s)
    (own : group id = true) :
    ∃ w boot, s.calls.get? id = some (.workload w) ∧ w.Story (s.trail id) ∧
      w.machine = .done boot ∧ ∀ vm, boot ≠ .ok vm := by
  obtain ⟨boot, booted, bad⟩ := detached id own
  obtain ⟨w, present, told, machine⟩ := workload_of_booted reached booted
  exact ⟨w, boot, present, told, machine, bad⟩

/-- A call of the group has been a workload from its beginning. -/
theorem workload_of_within (detached : Detached group s) (reached : empty.run moves = some s)
    (own : group id = true) (within : before <+: moves) (here : empty.run before = some u)
    {call : Call} (present : u.calls.get? id = some call) : ∃ w, call = .workload w := by
  obtain ⟨w, boot, there, -⟩ := detached.exists_workload reached own
  obtain ⟨origin, opening, number, story⟩ := origin_of_call reached there
  obtain ⟨first, sooner, same, earlier⟩ := origin_of_call here present
  obtain rfl := origin_unique reached opening number (within.subset sooner) same
  cases story with
  | workload role settings asks extracted story =>
      generalize u.trail id = trail at earlier
      cases earlier with
      | workload => exact ⟨_, rfl⟩
      | refusal other extraction => cases extracted.symm.trans extraction
      | relay asks told => exact absurd role told.not_workload

/-- No call of the group ever reads the answer of its placeholder. -/
theorem unread (detached : Detached group s) (reached : empty.run moves = some s)
    (own : group id = true) (within : before <+: moves) (here : empty.run before = some u)
    {call : Call} (present : u.calls.get? id = some call) : call.Unread := by
  rintro w vm outcome rfl stage -
  obtain ⟨origin, -, -, story⟩ := origin_of_call here present
  cases story with
  | workload role settings asks extracted story =>
      -- This stage comes behind a good boot, and a boot has one outcome.
      obtain ⟨machine, -⟩ := story.course.of_awaitingPlaceholder stage
      have booted : .answered (.booted (.ok vm)) ∈ s.trail id :=
        trail_subset (suffix_of_within within here reached) (story.booted_mem machine)
      obtain ⟨boot, failed, bad⟩ := detached id own
      exact bad vm (booted_unique reached failed booted)

end Detached

/-- A call of the group as if its placeholder were still out, and any other call as it is. -/
def mute (group : Nat → Bool) (id : Nat) (call : Call) : Call :=
  if group id then call.unanswered else call

theorem mute_own (own : group id = true) : mute group id = Call.unanswered := by
  funext call
  rw [mute, own, if_pos rfl]

theorem mute_foreign (foreign : group id = false) : mute group id = fun call => call := by
  funext call
  rw [mute, foreign, if_neg Bool.false_ne_true]

/-- The second system is the first one as if no placeholder of the group had been answered. -/
structure Mutes (group : Nat → Bool) (s t : System) : Prop where
  stores : t.stores = s.stores
  journal : t.journal = s.journal
  history : heard group t.history = heard group s.history
  calls : ∀ id, t.calls.get? id = (s.calls.get? id).map (mute group id)

namespace Mutes

variable (mutes : Mutes group s t)

include mutes

theorem record (id : Nat) (turn : Turn Call) :
    Mutes group (s.record id turn) (t.record id (turn.map (mute group id))) where
  stores := rfl
  journal := congrArg (turn.entries.reverse ++ ·) mutes.journal
  history := by
    show heard group ((occurrences (some id) turn.events).reverse ++ t.history) =
      heard group ((occurrences (some id) turn.events).reverse ++ s.history)
    rw [heard_append, heard_append, mutes.history]
  calls known := by
    simp only [System.record, Table.get?_put, mutes.calls, Turn.map]
    by_cases here : id = known
    · simp [here]
    · simp [here]

theorem access (event : Event) (stores : Stores) :
    Mutes group (s.access event stores) (t.access event stores) where
  stores := rfl
  journal := mutes.journal
  history := by
    show heard group ([⟨none, event⟩] ++ t.history) = heard group ([⟨none, event⟩] ++ s.history)
    rw [heard_append, heard_append, mutes.history]
  calls := mutes.calls

theorem begins {opening : Stores → Turn Call}
    (fixed : (opening s.stores).map Call.unanswered = opening s.stores)
    (moved : s.begin id opening = some next) :
    ∃ other, t.begin id opening = some other ∧ Mutes group next other := by
  obtain ⟨fresh, rfl⟩ := begin_fresh moved
  have free : t.calls.get? id = none := by rw [mutes.calls, fresh, Option.map_none]
  have same : (opening s.stores).map (mute group id) = opening t.stores := by
    rw [mutes.stores]
    cases own : group id with
    | false => rw [mute_foreign own, Turn.map]
    | true => rw [mute_own own, fixed]
  exact ⟨_, begin_of_fresh free opening, same ▸ mutes.record id (opening s.stores)⟩

theorem advances {step : Stores → Call → Option (Turn Call)}
    (same : ∀ call, s.calls.get? id = some call → group id = true →
      step s.stores call.unanswered = (step s.stores call).map (Turn.map Call.unanswered))
    (moved : s.advance id step = some next) :
    ∃ other, t.advance id step = some other ∧ Mutes group next other := by
  obtain ⟨call, turn, present, turned, rfl⟩ := advance_some moved
  have there : t.calls.get? id = some (mute group id call) := by
    rw [mutes.calls, present, Option.map_some]
  have taken : step t.stores (mute group id call) = some (turn.map (mute group id)) := by
    rw [mutes.stores]
    cases own : group id with
    | false =>
        rw [mute_foreign own]
        exact turned
    | true =>
        rw [mute_own own, same call present own, turned, Option.map_some]
  exact ⟨_, advance_of_some there taken, mutes.record id turn⟩

/-- The answer of a detached placeholder changes its own task only. -/
theorem late {outcome : Outcome CreateResponse} (own : group id = true)
    (moved : s.apply (.receive id (.created outcome)) = some next) {w : Workload}
    (workload : next.calls.get? id = some (.workload w)) : Mutes group next t := by
  obtain ⟨call, turn, present, turned, rfl⟩ := advance_some moved
  have kind : turn.next = .workload w := by
    simpa [System.record, Table.get?_put] using workload
  cases call with
  | workload before =>
      obtain ⟨inner, taken, rfl⟩ := Option.map_eq_some_iff.1 turned
      cases placeholder : before.placeholder with
      | running =>
          obtain rfl : inner = ⟨{ before with placeholder := .done outcome }, s.stores,
              [.answered (.created outcome)], []⟩ := by
            simpa [Workload.receive, placeholder, eq_comm] using taken
          refine ⟨mutes.stores, mutes.journal, ?_, fun known => ?_⟩
          · rw [mutes.history]
            simp [heard, System.record, Turn.map, occurrences, Occurrence.late, own]
          · rw [mutes.calls]
            by_cases here : id = known
            · subst here
              simp [System.record, Table.get?_put, present, Turn.map, mute_own own,
                Call.unanswered, Workload.unanswered, Task.unanswered, placeholder]
            · simp [System.record, Table.get?_put, here]
      | _ => simp [Workload.receive, placeholder] at taken
  | relay r =>
      obtain ⟨inner, taken, rfl⟩ := Option.map_eq_some_iff.1 turned
      cases kind
  | _ => cases turned

/-- All other moves are the same on both sides. -/
theorem apply (moved : s.apply move = some next) (other : move.late group = false)
    (unread : ∀ id call, group id = true → s.calls.get? id = some call → call.Unread) :
    ∃ answer, t.apply move = some answer ∧ Mutes group next answer := by
  cases move with
  | create id coordinator request =>
      exact mutes.begins (Call.create_unanswered coordinator request) moved
  | remove id request => exact mutes.begins rfl moved
  | forget id sandbox => exact mutes.begins rfl moved
  | proceed id =>
      exact mutes.advances
        (fun call present own => Call.proceed_unanswered (unread id call own present)) moved
  | startPlaceholder id =>
      exact mutes.advances (fun call present own => Call.startPlaceholder_unanswered) moved
  | startBoot id =>
      exact mutes.advances (fun call present own => Call.startBoot_unanswered) moved
  | receive id reply =>
      refine mutes.advances (fun call present own => Call.receive_unanswered ?_) moved
      intro same
      cases reply with
      | created outcome => cases own.symm.trans other
      | _ => cases same
  | publish sandbox endpoint =>
      cases moved
      refine ⟨_, rfl, ?_⟩
      rw [mutes.stores]
      exact mutes.access _ _
  | take sandbox =>
      cases moved
      refine ⟨_, rfl, ?_⟩
      rw [mutes.stores]
      exact mutes.access _ _
  | register container vm =>
      cases moved
      refine ⟨_, rfl, ?_⟩
      rw [mutes.stores]
      exact mutes.access _ _
  | drop container =>
      cases moved
      refine ⟨_, rfl, ?_⟩
      rw [mutes.stores]
      exact mutes.access _ _

end Mutes

/-- Every part of a run is a run without the answers to detached placeholders. -/
theorem exists_muted (reached : empty.run moves = some s) (detached : Detached group s)
    (within : before <+: moves) :
    ∃ u t, empty.run before = some u ∧ empty.run (muted group before) = some t ∧
      Mutes group u t := by
  -- The last move is a late answer, which one side leaves out, or a move of both sides.
  induction before using List.reverseRecOn with
  | nil => exact ⟨empty, empty, rfl, rfl, rfl, rfl, rfl, fun id => rfl⟩
  | append_singleton before last ih =>
      have inside : before <+: moves := (List.prefix_append _ _).trans within
      obtain ⟨u, t, here, there, mutes⟩ := ih inside
      obtain ⟨next, arrived⟩ := exists_within within reached
      have moved : u.apply last = some next := by simpa [run_append, here] using arrived
      cases late : last.late group with
      | true =>
          have left : muted group (before ++ [last]) = muted group before := by
            simp [muted, late]
          refine ⟨next, t, arrived, left ▸ there, ?_⟩
          cases last with
          | receive id reply =>
              cases reply with
              | created outcome =>
                  have own : group id = true := late
                  obtain ⟨call, turn, -, -, rfl⟩ := advance_some moved
                  have present : (u.record id turn).calls.get? id = some turn.next := by
                    simp [record, Table.get?_put]
                  obtain ⟨w, kind⟩ := detached.workload_of_within reached own within arrived present
                  exact mutes.late own moved (present.trans (congrArg some kind))
              | _ => cases late
          | _ => cases late
      | false =>
          obtain ⟨answer, taken, further⟩ := mutes.apply moved late
            fun id call own present => detached.unread reached own inside here present
          have left : muted group (before ++ [last]) = muted group before ++ [last] := by
            simp [muted, late]
          refine ⟨next, answer, arrived, ?_, further⟩
          rw [left, run_append, there, Option.bind_some]
          simpa using taken

section Alike

variable {others : List Move}

theorem late_of_foreign {occurrence : Occurrence} (source : occurrence.source = some id)
    (foreign : group id = false) : occurrence.late group = false := by
  obtain ⟨known, event⟩ := occurrence
  obtain rfl : known = some id := source
  unfold Occurrence.late
  split
  · next same =>
      obtain rfl := Option.some.inj (congrArg Occurrence.source same)
      exact foreign
  · rfl

theorem question_of_late {occurrence : Occurrence} (late : occurrence.late group = true) :
    occurrence.event.question? = none := by
  unfold Occurrence.late at late
  split at late
  · rfl
  · cases late

/-- No question is lost with the late answers. -/
theorem questions_trail (group : Nat → Bool) (s : System) (id : Nat) (service : Service) :
    questions service (s.trail id) = (heard group s.history).reverse.filterMap fun occurrence =>
      if occurrence.source = some id ∧ occurrence.event.concerns service = true then
        occurrence.event.question? else none := by
  rw [questions, dialogue, trail, List.filter_map, List.filterMap_map, List.filter_filter,
    List.filterMap_filter, heard, ← List.filter_reverse, List.filterMap_filter]
  refine congrArg (s.history.reverse.filterMap ·) (funext fun occurrence => ?_)
  cases late : occurrence.late group with
  | true => simp [question_of_late late]
  | false => simp [and_comm]

/-- No event of another call is lost with the late answers. -/
theorem trail_heard (s : System) (foreign : group id = false) :
    s.trail id =
      ((heard group s.history).reverse.filter (·.source = some id)).map (·.event) := by
  have kept : (heard group s.history).reverse.filter (·.source = some id) =
      s.history.reverse.filter (·.source = some id) := by
    rw [heard, ← List.filter_reverse, List.filter_filter]
    apply List.filter_congr
    intro occurrence member
    by_cases here : occurrence.source = some id
    · simp [here, late_of_foreign here foreign]
    · simp [here]
  rw [kept]
  rfl

theorem finished_mem_heard (group : Nat → Bool) {result : Result} :
    .finished result ∈ s.trail id ↔ ⟨some id, .finished result⟩ ∈ heard group s.history := by
  rw [mem_trail, heard, List.mem_filter]
  exact (and_iff_left rfl).symm

/-- Two systems that differ in the late answers only. -/
structure Alike (group : Nat → Bool) (s t : System) : Prop where
  stores : s.stores = t.stores
  lookups : ∀ container, s.stores.vms.vmFor container = t.stores.vms.vmFor container
  journal : s.journal = t.journal
  /-- Apart from the late answers the same happened in the same order. -/
  history : heard group s.history = heard group t.history
  results : ∀ id result, .finished result ∈ s.trail id ↔ .finished result ∈ t.trail id
  questions : ∀ id service, questions service (s.trail id) = questions service (t.trail id)
  trails : ∀ id, group id = false → s.trail id = t.trail id

/-- Two systems are alike when they are the same one without the late answers. -/
theorem Mutes.alike {u : System} (first : Mutes group s u) (second : Mutes group t u) :
    Alike group s t := by
  have stores : s.stores = t.stores := first.stores.symm.trans second.stores
  have history : heard group s.history = heard group t.history :=
    first.history.symm.trans second.history
  refine ⟨stores, fun container => by rw [stores], first.journal.symm.trans second.journal,
    history, fun id result => ?_, fun id service => ?_, fun id foreign => ?_⟩
  · rw [finished_mem_heard group, finished_mem_heard group, history]
  · rw [questions_trail group, questions_trail group, history]
  · rw [trail_heard s foreign, trail_heard t foreign, history]

/-- What two runs have in common that differ in the answers to detached placeholders. -/
structure Inert (group : Nat → Bool) (moves others : List Move) (s : System) : Prop where
  /-- The two runs go in step. -/
  follows : ∀ before, before <+: moves →
    ∃ after, after <+: others ∧ muted group before = muted group after
  /-- In step they are alike. -/
  alike : ∀ before after, before <+: moves → after <+: others →
    muted group before = muted group after →
      ∃ u v, empty.run before = some u ∧ empty.run after = some v ∧ Alike group u v
  /-- No container of a detached placeholder is ever registered for it. -/
  unregistered : ∀ id, group id = true →
    ∀ container vm accepted, .registered container vm accepted ∉ s.trail id
  /-- A registration is refused for the sake of another call only. -/
  refused : ∀ newer source container vm earlier,
    s.history = newer ++ ⟨source, .registered container vm false⟩ :: earlier →
      ∃ holder other, ⟨other, .registered container holder true⟩ ∈ earlier ∧
        ∀ id, group id = true → other ≠ some id

theorem exists_prefix_of_muted (same : muted group moves = muted group others)
    {before : List Move} (within : before <+: moves) :
    ∃ after, after <+: others ∧ muted group before = muted group after := by
  obtain ⟨rest, rfl⟩ := within
  have split : muted group others = muted group before ++ muted group rest := by
    rw [← same]
    exact List.filter_append _ _
  obtain ⟨after, left, rfl, here, -⟩ := List.filter_eq_append_iff.1 split
  exact ⟨after, List.prefix_append _ _, here.symm⟩

/-- A detached placeholder has no part in any registration. -/
theorem Detached.unregistered (detached : Detached group s) (reached : empty.run moves = some s)
    (own : group id = true) (container : String) (vm : Vm) (accepted : Bool) :
    .registered container vm accepted ∉ s.trail id := by
  intro member
  obtain ⟨w, boot, -, story, machine, bad⟩ := detached.exists_workload reached own
  obtain ⟨known, booted⟩ := story.course.booted_of_registered (mem_deeds member rfl)
  exact bad known (Task.done.inj (machine.symm.trans booted))

/-- Whether, when and how a detached placeholder is created changes nothing that anyone sees. -/
theorem detached_inert (first : empty.run moves = some s) (second : empty.run others = some t)
    (same : muted group moves = muted group others) (detached : Detached group s)
    (apart : Detached group t) : Inert group moves others s where
  follows before within := exists_prefix_of_muted same within
  alike before after within inside step := by
    obtain ⟨u, left, here, silent, mutes⟩ := exists_muted first detached within
    obtain ⟨v, right, there, quiet, other⟩ := exists_muted second apart inside
    rw [step, quiet] at silent
    obtain rfl := Option.some.inj silent
    exact ⟨u, v, here, there, mutes.alike other⟩
  unregistered id own := detached.unregistered first own
  refused newer source container vm earlier split := by
    have truthful := truthful_history first
    rw [split] at truthful
    have met : false = ((replay earlier).vms.get? container).isNone := truthful.of_append.1
    obtain ⟨holder, present⟩ : ∃ holder, (replay earlier).vms.get? container = some holder := by
      rw [← Option.isSome_iff_exists, ← Option.not_isNone, ← met]
      rfl
    obtain ⟨gap, other, older, rfl, -⟩ := lastRegistered_of_get? present
    refine ⟨holder, other, by simp, ?_⟩
    rintro id own rfl
    refine detached.unregistered first own container holder true (mem_trail.2 ?_)
    rw [split]
    simp

end Alike

/-- The boot of a first workload fails.  A second one goes its whole way, with the answer to the
first placeholder in between or without it. -/
def crossing (answers : List Move) : List Move :=
  Sample.started 0 true "pod-1" ++ Sample.started 1 true "pod-2" ++
    [.receive 0 (.booted (.panic "gone"))] ++ answers ++
      [.receive 1 (.booted (.ok (Sample.machine "vm-1" "10.0.0.2"))), .proceed 0, .proceed 1,
        .receive 1 (.created (.ok ⟨"c", []⟩)), .proceed 1]

/-- The workload whose boot fails. -/
def straggler (id : Nat) : Bool := id = 0

theorem detached_inert_crossing :
    ∃ s t, empty.run (crossing [.receive 0 (.created (.ok ⟨"c", []⟩))]) = some s ∧
      empty.run (crossing []) = some t ∧
        muted straggler (crossing [.receive 0 (.created (.ok ⟨"c", []⟩))]) =
          muted straggler (crossing []) ∧
        Detached straggler s ∧ Detached straggler t ∧
          Inert straggler (crossing [.receive 0 (.created (.ok ⟨"c", []⟩))]) (crossing []) s := by
  let answer : Move := .receive 0 (.created (.ok ⟨"c", []⟩))
  have answered : (empty.run (crossing [answer])).map (fun s =>
      decide (.answered (.booted (.panic "gone")) ∈ s.trail 0)) = some true := by decide
  have silent : (empty.run (crossing [])).map (fun s =>
      decide (.answered (.booted (.panic "gone")) ∈ s.trail 0)) = some true := by decide
  have only : ∀ s : System, .answered (.booted (.panic "gone")) ∈ s.trail 0 →
      Detached straggler s := by
    intro s booted id own
    obtain rfl : id = 0 := of_decide_eq_true own
    exact ⟨_, booted, by simp⟩
  obtain ⟨s, first, here⟩ := Option.map_eq_some_iff.1 answered
  obtain ⟨t, second, there⟩ := Option.map_eq_some_iff.1 silent
  have same : muted straggler (crossing [answer]) = muted straggler (crossing []) := by decide
  have detached := only s (of_decide_eq_true here)
  have apart := only t (of_decide_eq_true there)
  exact ⟨s, t, first, second, same, detached, apart,
    detached_inert first second same detached apart⟩

end System

end GuestPod
