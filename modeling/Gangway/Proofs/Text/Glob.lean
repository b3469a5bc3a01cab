import Gangway.Proofs.Text.Utf8
import Gangway.Proofs.Text.Wildcards

/-!
# Patterns without wildcards

A pattern that holds neither `*` nor `?` matches the one name that it spells
(`globMatches_utf8_iff`).
-/

namespace Gangway.Text

/-- The text holds neither of the characters that stand for others. -/
def WildcardFree (text : List Char) : Prop := '*' ∉ text ∧ '?' ∉ text

/-- Bytes that are no wildcards stand for themselves. -/
theorem globMatches_iff_eq {pattern name : Bytes} (runs : star ∉ pattern)
    (single : anyByte ∉ pattern) : globMatches pattern name = true ↔ pattern = name := by
  rw [globMatches_iff_cutBy]
  induction pattern generalizing name with
  | nil =>
    rw [cutBy_nil]
    exact eq_comm
  | cons p pattern ih =>
    obtain ⟨plain, runs⟩ := not_or.1 (mt List.mem_cons.2 runs)
    obtain ⟨literal, single⟩ := not_or.1 (mt List.mem_cons.2 single)
    simp only [cutBy_cons, standsFor_iff_of_plain (Ne.symm plain), Ne.symm literal, false_or,
      ih runs single]
    constructor
    · rintro ⟨_, _, rfl, ⟨_, rfl, rfl⟩, rfl⟩
      rfl
    · rintro rfl
      exact ⟨[p], pattern, rfl, ⟨p, rfl, rfl⟩, rfl⟩

/-- **A pattern without wildcards matches the name that it spells, and no other.** -/
theorem globMatches_utf8_iff {pattern name : String} (free : WildcardFree pattern.toList) :
    globMatches (utf8 pattern) (utf8 name) = true ↔ pattern = name := by
  have runs : star ∉ utf8 pattern := fun member =>
    free.1 (mem_of_mem_utf8Chars member (by decide))
  have single : anyByte ∉ utf8 pattern := fun member =>
    free.2 (mem_of_mem_utf8Chars member (by decide))
  rw [globMatches_iff_eq runs single]
  exact ⟨fun same => String.toList_injective (utf8Chars_injective same), congrArg utf8⟩

end Gangway.Text
