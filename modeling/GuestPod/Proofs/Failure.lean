/-
This file opens computations that may fail at a first step.
-/

namespace GuestPod

variable {ε α β : Type}

-- None of these is proved by `rfl`: a step that `simp` takes by computation alone leaves the kernel
-- to compare the words inside by unfolding them.
@[simp] theorem ok_bind (value : α) (next : α → Except ε β) :
    (Except.ok value >>= next) = next value := by
  simp only [bind, Except.bind]

@[simp] theorem error_bind (fault : ε) (next : α → Except ε β) :
    (Except.error fault >>= next) = .error fault := by
  simp only [bind, Except.bind]

@[simp] theorem pure_eq_ok (value : α) : (pure value : Except ε α) = .ok value := rfl

@[simp] theorem map_ok (f : α → β) (value : α) :
    f <$> (Except.ok value : Except ε α) = .ok (f value) := by
  simp only [Functor.map, Except.map]

theorem mapError_ok {ε' : Type} (f : ε → ε') (value : α) :
    (Except.ok value : Except ε α).mapError f = .ok value := rfl

/-- Two steps succeed when the first succeeds and the second does from there. -/
theorem bind_eq_ok_iff {first : Except ε α} {next : α → Except ε β} {value : β} :
    (first >>= next) = .ok value ↔ ∃ middle, first = .ok middle ∧ next middle = .ok value := by
  cases first <;> simp

theorem unit_bind_eq_ok_iff {first : Except ε Unit} {next : Unit → Except ε β} {value : β} :
    (first >>= next) = .ok value ↔ first = .ok () ∧ next () = .ok value := by
  cases first <;> simp

theorem map_eq_ok_iff {f : α → β} {first : Except ε α} {value : β} :
    f <$> first = .ok value ↔ ∃ middle, first = .ok middle ∧ f middle = value := by
  cases first with
  | ok middle => simp
  | error fault =>
      constructor
      · intro impossible
        cases impossible
      · rintro ⟨middle, impossible, -⟩
        cases impossible

end GuestPod
