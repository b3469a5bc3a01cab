import Mathlib.Data.List.Forall2
import Gangway.Proofs.Connection.Runs

/-!
# Runs in stages

A run in stages takes one step for each stage and stops at the first that fails. What step a stage
takes and what it comes to is said apart from the run, so that several stages may be known to fail
at once. `Through` ties a run to its stages: the run ends with the error of the first stage that
fails (`Through.of_first`), and runs whose stages agree up to that one are the same
(`Through.eq_of_agree`).
-/

namespace Gangway

variable {κ ε δ α β : Type}

/-- What an outcome says of its stage: that it is passed, or the error. -/
def verdict (f : δ → ε) (outcome : Except δ α) : Except ε Unit :=
  (outcome.mapError f).map fun _ => ()

/-- The step that each of some stages takes, and what it comes to. -/
abbrev Staging (κ ε : Type) := κ → Step → Except ε Unit → Prop

namespace Staging

variable {gives gives' : Staging κ ε}

/-- The stage takes this step, whatever it comes to. -/
def Takes (gives : Staging κ ε) (stage : κ) (taken : Step) : Prop :=
  ∃ outcome, gives stage taken outcome

/-- The stage fails with this error. -/
def Fails (gives : Staging κ ε) (stage : κ) (error : ε) : Prop :=
  ∃ taken, gives stage taken (.error error)

/-- What a stage does is determined. -/
def Determined (gives : Staging κ ε) : Prop :=
  ∀ stage taken outcome taken' outcome', gives stage taken outcome →
    gives stage taken' outcome' → taken = taken' ∧ outcome = outcome'

/-- The stage fails with this error, and those before it do not fail. -/
structure First (gives : Staging κ ε) (before : List κ) (stage : κ) (error : ε) : Prop where
  passed : ∀ earlier ∈ before, ∀ error, ¬gives.Fails earlier error
  failed : gives.Fails stage error

theorem First.cons {head : κ} {before : List κ} {stage : κ} {error : ε}
    (passed : ∀ error, ¬gives.Fails head error) (first : gives.First before stage error) :
    gives.First (head :: before) stage error := by
  refine ⟨fun earlier member => ?_, first.failed⟩
  rcases List.mem_cons.1 member with rfl | member
  · exact passed
  · exact first.passed earlier member

theorem First.tail {head : κ} {before : List κ} {stage : κ} {error : ε}
    (first : gives.First (head :: before) stage error) : gives.First before stage error :=
  ⟨fun earlier member => first.passed earlier (List.mem_cons_of_mem _ member), first.failed⟩

/-- If any stage fails, one of them fails first. -/
theorem exists_first {stages : List κ} {stage : κ} {error : ε} (member : stage ∈ stages)
    (failed : gives.Fails stage error) :
    ∃ before first after cause, stages = before ++ first :: after ∧
      gives.First before first cause := by
  induction stages with
  | nil => cases member
  | cons head rest ih =>
    by_cases now : ∃ cause, gives.Fails head cause
    · obtain ⟨cause, now⟩ := now
      exact ⟨[], head, rest, cause, rfl, nofun, now⟩
    · have later : stage ∈ rest := by
        rcases List.mem_cons.1 member with rfl | later
        · exact absurd ⟨error, failed⟩ now
        · exact later
      obtain ⟨before, first, after, cause, rfl, found⟩ := ih later
      exact ⟨head :: before, first, after, cause, rfl, found.cons (not_exists.1 now)⟩

/-- Every step that is taken belongs to one of the stages. -/
theorem exists_takes {stages : List κ} {steps : List Step}
    (takes : List.Forall₂ gives.Takes stages steps) {taken : Step} (member : taken ∈ steps) :
    ∃ stage ∈ stages, gives.Takes stage taken := by
  induction takes with
  | nil => cases member
  | cons kind _ ih =>
    rcases List.mem_cons.1 member with rfl | member
    · exact ⟨_, List.mem_cons_self, kind⟩
    · obtain ⟨stage, inside, kind⟩ := ih member
      exact ⟨stage, List.mem_cons_of_mem _ inside, kind⟩

theorem Determined.not_fails (determined : gives.Determined) {stage : κ} {taken : Step}
    (passed : gives stage taken (.ok ())) (error : ε) : ¬gives.Fails stage error := by
  rintro ⟨taken', failed⟩
  cases (determined _ _ _ _ _ passed failed).2

/-- Stages that are gone through leave no choice of steps. -/
theorem Determined.takes_unique (determined : gives.Determined) {stages : List κ}
    {steps steps' : List Step} (takes : List.Forall₂ gives.Takes stages steps)
    (takes' : List.Forall₂ gives.Takes stages steps') : steps = steps' := by
  refine List.right_unique_forall₂' ?_ takes takes'
  rintro stage taken taken' ⟨_, given⟩ ⟨_, given'⟩
  exact (determined _ _ _ _ _ given given').1

end Staging

namespace Run

variable {gives gives' : Staging κ ε}

/-- The run goes through the stages in order: it takes the step of each, and stops at the first that
fails. -/
inductive Through (gives : Staging κ ε) : List κ → Run ε α → Prop where
  | done {value : α} : Through gives [] ⟨[], .ok value⟩
  | stopped {stage : κ} {after : List κ} {taken : Step} {error : ε}
      (failed : gives stage taken (.error error)) :
      Through gives (stage :: after) ⟨[taken], .error error⟩
  | passed {stage : κ} {after : List κ} {taken : Step} {run : Run ε α}
      (passed : gives stage taken (.ok ())) (rest : Through gives after run) :
      Through gives (stage :: after) ⟨taken :: run.steps, run.outcome⟩

namespace Through

/-- A step in front of a run is a stage in front of its stages. -/
theorem bind {stage : κ} {after : List κ} {taken : Step} {outcome : Except δ β} {f : δ → ε}
    {next : β → Run ε α} (given : gives stage taken (verdict f outcome))
    (rest : ∀ value, outcome = .ok value → Through gives after (next value)) :
    Through gives (stage :: after) (Run.step taken (outcome.mapError f) >>= next) := by
  cases outcome with
  | error cause =>
    rw [bind_of_error rfl]
    exact .stopped given
  | ok value =>
    rw [bind_of_ok rfl]
    exact .passed given (rest value rfl)

/-- Every step of the run belongs to one of its stages. -/
theorem exists_takes {stages : List κ} {run : Run ε α} (through : Through gives stages run)
    {taken : Step} (member : taken ∈ run.steps) : ∃ stage ∈ stages, gives.Takes stage taken := by
  induction through with
  | done => cases member
  | stopped failed =>
    cases List.mem_singleton.1 member
    exact ⟨_, List.mem_cons_self, _, failed⟩
  | passed found _ ih =>
    rcases List.mem_cons.1 member with rfl | member
    · exact ⟨_, List.mem_cons_self, _, found⟩
    · obtain ⟨stage, inside, kind⟩ := ih member
      exact ⟨stage, List.mem_cons_of_mem _ inside, kind⟩

/-- The run ends with the error of the first stage that fails, and takes the steps up to it. -/
theorem of_first {before after : List κ} {stage : κ} {error : ε} {run : Run ε α}
    (determined : gives.Determined) (through : Through gives (before ++ stage :: after) run)
    (first : gives.First before stage error) :
    run.outcome = .error error ∧ List.Forall₂ gives.Takes (before ++ [stage]) run.steps := by
  induction before generalizing run with
  | nil =>
    obtain ⟨taken, failed⟩ := first.failed
    cases through with
    | stopped found =>
      obtain ⟨-, ⟨⟩⟩ := determined _ _ _ _ _ found failed
      exact ⟨rfl, .cons ⟨_, found⟩ .nil⟩
    | passed found _ => exact absurd first.failed (determined.not_fails found error)
  | cons earlier before ih =>
    cases through with
    | stopped found => exact absurd ⟨_, found⟩ (first.passed earlier List.mem_cons_self _)
    | passed found rest =>
      obtain ⟨ends, taken⟩ := ih rest first.tail
      exact ⟨ends, .cons ⟨_, found⟩ taken⟩

/-- A run none of whose stages fails takes the steps of all. -/
theorem of_none {stages : List κ} {run : Run ε α} (through : Through gives stages run)
    (passed : ∀ stage ∈ stages, ∀ error, ¬gives.Fails stage error) :
    (∃ value, run.outcome = .ok value) ∧ List.Forall₂ gives.Takes stages run.steps := by
  induction through with
  | done => exact ⟨⟨_, rfl⟩, .nil⟩
  | stopped failed => exact absurd ⟨_, failed⟩ (passed _ List.mem_cons_self _)
  | passed found _ ih =>
    obtain ⟨ends, taken⟩ := ih fun stage member => passed stage (List.mem_cons_of_mem _ member)
    exact ⟨ends, .cons ⟨_, found⟩ taken⟩

/-- A run that fails does so at the first stage that fails. -/
theorem exists_first {stages : List κ} {error : ε} {run : Run ε α}
    (determined : gives.Determined) (through : Through gives stages run)
    (ends : run.outcome = .error error) :
    ∃ before stage after, stages = before ++ stage :: after ∧ gives.First before stage error := by
  induction through with
  | done => cases ends
  | stopped failed =>
    cases ends
    exact ⟨[], _, _, rfl, nofun, _, failed⟩
  | passed found _ ih =>
    obtain ⟨before, stage, after, rfl, first⟩ := ih ends
    exact ⟨_ :: before, stage, after, rfl, first.cons (determined.not_fails found)⟩

/-- Two runs are the same if their stages agree up to the first that fails. -/
theorem eq_of_agree {before after after' : List κ} {stage : κ} {error : ε} {run run' : Run ε α}
    (determined : gives.Determined) (through : Through gives (before ++ stage :: after) run)
    (through' : Through gives' (before ++ stage :: after') run')
    (first : gives.First before stage error)
    (agree : ∀ same ∈ before ++ [stage], ∀ taken outcome,
      gives' same taken outcome → gives same taken outcome) : run' = run := by
  induction before generalizing run run' with
  | nil =>
    have agree := agree stage List.mem_cons_self
    cases through with
    | passed found _ => exact absurd first.failed (determined.not_fails found error)
    | stopped found =>
      cases through' with
      | passed found' _ => cases (determined _ _ _ _ _ found (agree _ _ found')).2
      | stopped found' =>
        obtain ⟨rfl, ⟨⟩⟩ := determined _ _ _ _ _ found (agree _ _ found')
        rfl
  | cons earlier before ih =>
    have now := agree earlier List.mem_cons_self
    cases through with
    | stopped found => exact absurd ⟨_, found⟩ (first.passed earlier List.mem_cons_self _)
    | passed found rest =>
      cases through' with
      | stopped found' => cases (determined _ _ _ _ _ found (now _ _ found')).2
      | passed found' rest' =>
        obtain ⟨rfl, -⟩ := determined _ _ _ _ _ found (now _ _ found')
        rw [ih rest rest' first.tail fun same member => agree same (List.mem_cons_of_mem _ member)]

end Through

end Run

end Gangway
