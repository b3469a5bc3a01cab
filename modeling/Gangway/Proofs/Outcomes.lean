/-!
# Outcomes

When an outcome that is computed from another one, or from those of the items of a list, is a
success or a failure.
-/

namespace Gangway

variable {ε δ α β : Type}

theorem mapError_eq_ok_iff {f : ε → δ} {outcome : Except ε α} {value : α} :
    outcome.mapError f = .ok value ↔ outcome = .ok value := by
  cases outcome with
  | error cause => exact ⟨nofun, nofun⟩
  | ok given => exact ⟨fun | rfl => rfl, fun | rfl => rfl⟩

theorem mapError_eq_error_iff {f : ε → δ} {outcome : Except ε α} {error : δ} :
    outcome.mapError f = .error error ↔ ∃ cause, outcome = .error cause ∧ f cause = error := by
  cases outcome with
  | error cause =>
    constructor
    · rintro ⟨⟩
      exact ⟨cause, rfl, rfl⟩
    · rintro ⟨_, ⟨⟩, rfl⟩
      rfl
  | ok given => exact ⟨nofun, by rintro ⟨_, ⟨⟩, _⟩⟩

theorem bind_eq_ok_iff {outcome : Except ε α} {next : α → Except ε β} {result : β} :
    outcome >>= next = .ok result ↔ ∃ value, outcome = .ok value ∧ next value = .ok result := by
  cases outcome with
  | error cause => exact ⟨nofun, by rintro ⟨_, ⟨⟩, _⟩⟩
  | ok given =>
    constructor
    · exact fun done => ⟨given, rfl, done⟩
    · rintro ⟨_, ⟨⟩, done⟩
      exact done

theorem bind_eq_error_iff {outcome : Except ε α} {next : α → Except ε β} {error : ε} :
    outcome >>= next = .error error ↔
      outcome = .error error ∨ ∃ value, outcome = .ok value ∧ next value = .error error := by
  cases outcome with
  | error cause =>
    constructor
    · rintro ⟨⟩
      exact .inl rfl
    · rintro (⟨⟨⟩⟩ | ⟨_, ⟨⟩, _⟩)
      rfl
  | ok given =>
    constructor
    · exact fun failed => .inr ⟨given, rfl, failed⟩
    · rintro (⟨⟨⟩⟩ | ⟨_, ⟨⟩, failed⟩)
      exact failed

/-! ## Reading item by item -/

variable {f : α → Option β} {x : α} {all : List α} {made : List β}

theorem mapM_cons_eq_some_iff : (x :: all).mapM f = some made ↔
    ∃ first rest, f x = some first ∧ all.mapM f = some rest ∧ made = first :: rest := by
  simp only [List.mapM_cons, bind, Option.bind_eq_some_iff, pure, Option.some_inj]
  exact ⟨fun ⟨y, given, l, tail, same⟩ => ⟨y, l, given, tail, same.symm⟩,
    fun ⟨y, l, given, tail, same⟩ => ⟨y, given, l, tail, same.symm⟩⟩

/-- Where a list is read, each of its items is. -/
theorem exists_eq_some_of_mapM (read : all.mapM f = some made) (member : x ∈ all) :
    ∃ y, f x = some y := by
  induction all generalizing made with
  | nil => cases member
  | cons first rest ih =>
    obtain ⟨y, others, given, tail, -⟩ := mapM_cons_eq_some_iff.1 read
    rcases List.mem_cons.1 member with rfl | member
    · exact ⟨y, given⟩
    · exact ih tail member

end Gangway
