/-!
# Answers that take time

What another side answers, and after how many milliseconds, if ever. A limit turns a late answer
into none.
-/

namespace Gangway

/-- An answer that comes after some time, or never. -/
inductive Timed (α : Type) where
  | after (milliseconds : Nat) (answer : α)
  | never
  deriving DecidableEq, Repr

namespace Timed

/-- The answer, if it comes within the limit. -/
def within (limit : Nat) : Timed α → Option α
  | .after delay answer => if delay ≤ limit then some answer else none
  | .never => none

/-- An answer that comes at once. -/
def now (answer : α) : Timed α := .after 0 answer

theorem within_now (limit : Nat) (answer : α) : (now answer).within limit = some answer := by
  simp [now, within]

theorem within_eq_some_iff {limit : Nat} {timed : Timed α} {answer : α} :
    timed.within limit = some answer ↔ ∃ time ≤ limit, timed = .after time answer := by
  cases timed with
  | never => simp [within]
  | after delay given =>
    constructor
    · intro inTime
      obtain ⟨fits, ⟨⟩⟩ := Option.ite_none_right_eq_some.1 inTime
      exact ⟨delay, fits, rfl⟩
    · rintro ⟨time, fits, ⟨⟩⟩
      exact if_pos fits

end Timed

end Gangway
