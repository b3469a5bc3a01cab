import Gangway.Text.Glob
import Mathlib.Data.List.Forall2

/-!
# What patterns with wildcards match

A name matches a pattern exactly when it can be cut into pieces, one for each byte of the pattern,
which the bytes stand for (`globMatches_iff_cutBy`). So patterns that stand one behind the other match
the names that stand one behind the other (`globMatches_append`). A search that goes byte by byte, and
back where it fails, gives the same answer, and is never deeper than pattern and name are long
(`backtrack_eq`).
-/

namespace Gangway.Text

/-- What a byte of a pattern stands for. -/
inductive StandsFor : UInt8 → Bytes → Prop where
  | run (piece : Bytes) : StandsFor star piece
  | one (b : UInt8) : StandsFor anyByte [b]
  | itself {p : UInt8} (plain : p ≠ star ∧ p ≠ anyByte) : StandsFor p [p]

/-- The name can be cut into consecutive pieces, one for each byte of the pattern. -/
def CutBy (pattern name : Bytes) : Prop :=
  ∃ pieces, List.Forall₂ StandsFor pattern pieces ∧ pieces.flatten = name

theorem cutBy_nil {name : Bytes} : CutBy [] name ↔ name = [] := by
  constructor
  · rintro ⟨pieces, each, rfl⟩
    cases each
    rfl
  · rintro rfl
    exact ⟨[], .nil, rfl⟩

theorem cutBy_cons {p : UInt8} {pattern name : Bytes} :
    CutBy (p :: pattern) name ↔
      ∃ piece rest, name = piece ++ rest ∧ StandsFor p piece ∧ CutBy pattern rest := by
  constructor
  · rintro ⟨pieces, each, rfl⟩
    cases each with
    | @cons _ piece _ pieces stands each =>
      exact ⟨piece, pieces.flatten, List.flatten_cons, stands, pieces, each, rfl⟩
  · rintro ⟨piece, rest, rfl, stands, pieces, each, rfl⟩
    exact ⟨piece :: pieces, .cons stands each, List.flatten_cons⟩

theorem standsFor_iff_of_plain {p : UInt8} {piece : Bytes} (plain : p ≠ star) :
    StandsFor p piece ↔ ∃ b, piece = [b] ∧ (p = anyByte ∨ p = b) := by
  constructor
  · intro stands
    cases stands with
    | run => exact absurd rfl plain
    | one b => exact ⟨b, rfl, .inl rfl⟩
    | itself => exact ⟨p, rfl, .inr rfl⟩
  · rintro ⟨b, rfl, rfl | rfl⟩
    · exact .one b
    · by_cases single : p = anyByte
      · rw [single]
        exact .one anyByte
      · exact .itself ⟨plain, single⟩

/-! ## Matching -/

theorem mem_rests {name rest : Bytes} : rest ∈ rests name ↔ rest <:+ name := by
  induction name with
  | nil => rw [rests, List.mem_singleton, List.suffix_nil]
  | cons b name ih => rw [rests, List.mem_cons, ih, List.suffix_cons_iff]

theorem globMatches_run (pattern name : Bytes) :
    globMatches (star :: pattern) name = (rests name).any (globMatches pattern) := by
  cases name <;> rfl

theorem globMatches_nil_of_plain {p : UInt8} (plain : p ≠ star) (pattern : Bytes) :
    globMatches (p :: pattern) [] = false :=
  if_neg plain

theorem globMatches_cons_of_plain {p : UInt8} (plain : p ≠ star) (pattern : Bytes) (b : UInt8)
    (name : Bytes) :
    globMatches (p :: pattern) (b :: name) =
      (decide (p = anyByte ∨ p = b) && globMatches pattern name) := by
  simp [globMatches, plain]

/-- The first byte of a pattern takes a piece off the name. -/
theorem globMatches_cons_iff {p : UInt8} {pattern name : Bytes} :
    globMatches (p :: pattern) name = true ↔
      ∃ piece rest, name = piece ++ rest ∧ StandsFor p piece ∧ globMatches pattern rest = true := by
  by_cases runs : p = star
  · subst runs
    rw [globMatches_run, List.any_eq_true]
    constructor
    · rintro ⟨rest, member, found⟩
      obtain ⟨piece, rfl⟩ := mem_rests.1 member
      exact ⟨piece, rest, rfl, .run piece, found⟩
    · rintro ⟨piece, rest, rfl, -, found⟩
      exact ⟨rest, mem_rests.2 (List.suffix_append piece rest), found⟩
  · simp only [standsFor_iff_of_plain runs]
    cases name with
    | nil => simp [globMatches_nil_of_plain runs]
    | cons b name =>
      rw [globMatches_cons_of_plain runs, Bool.and_eq_true, decide_eq_true_eq]
      constructor
      · rintro ⟨stands, found⟩
        exact ⟨[b], name, rfl, ⟨b, rfl, stands⟩, found⟩
      · rintro ⟨_, rest, same, ⟨_, rfl, stands⟩, found⟩
        obtain ⟨rfl, rfl⟩ := List.cons.inj same
        exact ⟨stands, found⟩

/-- **A name matches a pattern exactly when it is cut by the pattern.** -/
theorem globMatches_iff_cutBy {pattern name : Bytes} :
    globMatches pattern name = true ↔ CutBy pattern name := by
  induction pattern generalizing name with
  | nil => rw [globMatches, List.isEmpty_iff, cutBy_nil]
  | cons p pattern ih => simp only [globMatches_cons_iff, cutBy_cons, ih]

/-- Patterns one behind the other match names one behind the other. -/
theorem globMatches_append {front back name : Bytes} :
    globMatches (front ++ back) name = true ↔
      ∃ first second, name = first ++ second ∧ globMatches front first = true ∧
        globMatches back second = true := by
  induction front generalizing name with
  | nil => simp [globMatches]
  | cons p front ih =>
    simp only [List.cons_append, globMatches_cons_iff, ih]
    constructor
    · rintro ⟨piece, _, rfl, stands, first, second, rfl, found, more⟩
      exact ⟨piece ++ first, second, (List.append_assoc ..).symm,
        ⟨piece, first, rfl, stands, found⟩, more⟩
    · rintro ⟨_, second, rfl, ⟨piece, first, rfl, stands, found⟩, more⟩
      exact ⟨piece, first ++ second, List.append_assoc .., stands, first, second, rfl, found, more⟩

/-! ## Searching -/

/-- The answer of a search that takes off one byte after the other, and that tries `*` as nothing and,
where this fails, as one byte more. There is none if more calls stand within one another than are
allowed. -/
def backtrack : Nat → Bytes → Bytes → Option Bool
  | 0, _, _ => none
  | _ + 1, [], name => some name.isEmpty
  | depth + 1, p :: pattern, name =>
    if p = star then
      match backtrack depth pattern name, name with
      | some false, _ :: tail => backtrack depth (p :: pattern) tail
      | answer, _ => answer
    else
      match name with
      | [] => some false
      | b :: tail => if p = anyByte ∨ p = b then backtrack depth pattern tail else some false

/-- A `*` stands for nothing, or for one byte and what another `*` stands for. -/
theorem globMatches_star (pattern : Bytes) (b : UInt8) (name : Bytes) :
    globMatches (star :: pattern) (b :: name) =
      (globMatches pattern (b :: name) || globMatches (star :: pattern) name) := by
  rw [globMatches_run, rests, List.any_cons, globMatches_run]

/-- Each call takes a byte off the pattern or off the name. -/
theorem backtrack_eq {pattern name : Bytes} {depth : Nat}
    (deep : pattern.length + name.length < depth) :
    backtrack depth pattern name = some (globMatches pattern name) := by
  induction depth generalizing pattern name with
  | zero => omega
  | succ depth ih =>
    cases pattern with
    | nil => rw [backtrack, globMatches]
    | cons p pattern =>
      rw [List.length_cons] at deep
      have skipped : backtrack depth pattern name = some (globMatches pattern name) :=
        ih (by omega)
      rw [backtrack.eq_def]
      dsimp only
      rw [skipped]
      by_cases runs : p = star
      · subst runs
        cases name with
        | nil => simp [globMatches, rests]
        | cons b name =>
          rw [List.length_cons] at deep
          have taken : backtrack depth (star :: pattern) name =
              some (globMatches (star :: pattern) name) :=
            ih (by rw [List.length_cons]; omega)
          rw [if_pos rfl, globMatches_star]
          cases globMatches pattern (b :: name) with
          | true => rfl
          | false => exact taken
      · rw [if_neg runs]
        cases name with
        | nil => rw [globMatches_nil_of_plain runs]
        | cons b name =>
          rw [List.length_cons] at deep
          have taken : backtrack depth pattern name = some (globMatches pattern name) :=
            ih (by omega)
          rw [globMatches_cons_of_plain runs]
          by_cases stands : p = anyByte ∨ p = b
          · simp [stands, taken]
          · simp [stands]

/-- **Wildcards by pieces.** A pattern matches the names that can be cut into a piece for each of its
bytes; the search for the pieces ends and finds them if there are any; and a pattern behind another
one matches what they match one behind the other. -/
theorem globMatches_by_pieces :
    (∀ pattern name, globMatches pattern name = true ↔ CutBy pattern name) ∧
    (∀ pattern name depth, pattern.length + name.length < depth →
      backtrack depth pattern name = some (globMatches pattern name)) ∧
    ∀ front back name, globMatches (front ++ back) name = true ↔
      ∃ first second, name = first ++ second ∧ globMatches front first = true ∧
        globMatches back second = true := by
  refine ⟨?_, ?_, ?_⟩
  · intro pattern name
    exact globMatches_iff_cutBy
  · intro pattern name depth deep
    exact backtrack_eq deep
  · intro front back name
    exact globMatches_append

/-- A run that stops too early is taken up again, in a name that holds wildcards itself. -/
theorem globMatches_by_pieces_again :
    backtrack 11 (utf8 "*a?") (utf8 "a?*aab") = some true ∧
      CutBy (utf8 "*a?") (utf8 "a?*aab") := by
  have found : globMatches (utf8 "*a?") (utf8 "a?*aab") = true := by decide
  refine ⟨?_, (globMatches_by_pieces.1 _ _).1 found⟩
  rw [globMatches_by_pieces.2.1 _ _ _ (by decide), found]

end Gangway.Text
