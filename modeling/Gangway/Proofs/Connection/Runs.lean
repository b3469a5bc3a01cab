import Gangway.Engine.Connection
import Gangway.Proofs.Outcomes

/-!
# Runs that are put together

A run is put together from single steps by sequencing, and stops at the first step that fails. What
comes of a composed run is read off its parts, and `Run.Within` bounds the steps that a run takes
and the errors it ends in part by part.
-/

namespace Gangway

variable {ε δ α β γ : Type}

namespace Run

@[simp] theorem outcome_step (taken : Step) (outcome : Except ε α) :
    (step taken outcome).outcome = outcome := rfl

@[simp] theorem outcome_pure (value : α) : (Pure.pure value : Run ε α).outcome = .ok value := rfl

@[simp] theorem outcome_mapError (f : ε → δ) (run : Run ε α) :
    (run.mapError f).outcome = run.outcome.mapError f := rfl

theorem bind_of_ok {run : Run ε α} {value : α} (done : run.outcome = .ok value)
    (next : α → Run ε β) :
    run >>= next = ⟨run.steps ++ (next value).steps, (next value).outcome⟩ := by
  change Run.bind run next = _
  rw [Run.bind, done]

theorem bind_of_error {run : Run ε α} {error : ε} (failed : run.outcome = .error error)
    (next : α → Run ε β) : run >>= next = ⟨run.steps, .error error⟩ := by
  change Run.bind run next = _
  rw [Run.bind, failed]

/-- A run followed by another succeeds exactly if both do. -/
theorem outcome_bind_eq_ok_iff {run : Run ε α} {next : α → Run ε β} {value : β} :
    (run >>= next).outcome = .ok value ↔
      ∃ first, run.outcome = .ok first ∧ (next first).outcome = .ok value := by
  cases done : run.outcome with
  | error error =>
    rw [bind_of_error done]
    simp
  | ok first =>
    rw [bind_of_ok done]
    simp

/-- A run followed by another fails where the first of them does that fails. -/
theorem outcome_bind_eq_error_iff {run : Run ε α} {next : α → Run ε β} {error : ε} :
    (run >>= next).outcome = .error error ↔
      run.outcome = .error error ∨
        ∃ first, run.outcome = .ok first ∧ (next first).outcome = .error error := by
  cases done : run.outcome with
  | error error =>
    rw [bind_of_error done]
    simp
  | ok first =>
    rw [bind_of_ok done]
    simp

/-- The first of two runs is taken in full. -/
theorem mem_steps_bind {run : Run ε α} {next : α → Run ε β} {taken : Step}
    (member : taken ∈ run.steps) : taken ∈ (run >>= next).steps := by
  cases done : run.outcome with
  | error error =>
    rw [bind_of_error done]
    exact member
  | ok value =>
    rw [bind_of_ok done]
    exact List.mem_append_left _ member

/-- A run is the same if what follows its first step is the same. -/
theorem step_bind_congr {taken : Step} {f : δ → ε} {outcome : Except δ β} {next next' : β → Run ε α}
    (same : ∀ value, outcome = .ok value → next' value = next value) :
    Run.step taken (outcome.mapError f) >>= next' = Run.step taken (outcome.mapError f) >>= next := by
  cases outcome with
  | error cause => rw [bind_of_error rfl, bind_of_error rfl]
  | ok value => rw [bind_of_ok rfl, bind_of_ok rfl, same value rfl]

/-- A run is the same if its first step gives what is the same to all that follows. -/
theorem step_bind_of_map {taken : Step} {f : δ → ε} {outcome outcome' : Except δ β}
    {g : β → γ} {next : β → Run ε α} (same : outcome'.map g = outcome.map g)
    (only : ∀ value value', g value' = g value → next value' = next value) :
    Run.step taken (outcome'.mapError f) >>= next = Run.step taken (outcome.mapError f) >>= next := by
  cases outcome with
  | error cause =>
    cases outcome' with
    | error cause' =>
      cases same
      rfl
    | ok value' => cases same
  | ok value =>
    cases outcome' with
    | error cause' => cases same
    | ok value' =>
      have given : g value' = g value := Except.ok.inj same
      rw [bind_of_ok rfl, bind_of_ok rfl, only value value' given]
      rfl

/-- The run takes only such steps, and fails only with such errors. -/
structure Within (steps : Step → Prop) (errors : ε → Prop) (run : Run ε α) : Prop where
  step : ∀ taken ∈ run.steps, steps taken
  error : ∀ error, run.outcome = .error error → errors error

namespace Within

variable {steps : Step → Prop} {errors : ε → Prop}

theorem pure {value : α} : Within steps errors (Pure.pure value : Run ε α) :=
  ⟨fun _ none => absurd none List.not_mem_nil, nofun⟩

theorem single {taken : Step} {outcome : Except ε α} (kind : steps taken)
    (failing : ∀ error, outcome = .error error → errors error) :
    Within steps errors (Run.step taken outcome) :=
  ⟨fun _ member => List.mem_singleton.1 member ▸ kind, failing⟩

/-- One step whose error is the cause of the run's. -/
theorem caused {taken : Step} {f : δ → ε} {outcome : Except δ α} (kind : steps taken)
    (failing : ∀ cause, outcome = .error cause → errors (f cause)) :
    Within steps errors (Run.step taken (outcome.mapError f)) := by
  refine single kind fun error failed => ?_
  obtain ⟨cause, origin, rfl⟩ := mapError_eq_error_iff.1 failed
  exact failing cause origin

theorem bind {run : Run ε α} {next : α → Run ε β} (first : Within steps errors run)
    (rest : ∀ value, Within steps errors (next value)) : Within steps errors (run >>= next) := by
  cases done : run.outcome with
  | error error =>
    rw [bind_of_error done]
    refine ⟨first.step, ?_⟩
    rintro _ ⟨⟩
    exact first.error error done
  | ok value =>
    rw [bind_of_ok done]
    refine ⟨fun taken member => ?_, (rest value).error⟩
    exact (List.mem_append.1 member).elim (first.step taken) ((rest value).step taken)

end Within

end Run

end Gangway
