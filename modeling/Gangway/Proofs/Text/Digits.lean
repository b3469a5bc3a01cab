import Gangway.Encoding.Hex

/-!
# Numbers written with digits

A number is read back from its digits, decimal or hexadecimal, and its digits are nothing but
digits.
-/

namespace Gangway

/-- The decimal digits of a number stand for it. -/
theorem foldl_toDigits (n : Nat) :
    (Nat.toDigits 10 n).foldl (fun n c => n * 10 + (c.toNat - 48)) 0 = n := by
  have step : (fun (n : Nat) (c : Char) => n * 10 + (c.toNat - 48)) =
      fun n c => 10 * n + (c.toNat - '0'.toNat) := by
    funext n c
    rw [Nat.mul_comm]
    rfl
  rw [step, ← Nat.ofDigitChars_eq_foldl]
  exact Nat.ofDigitChars_ten_toDigits

namespace Hex

theorem digit?_digitChar {d : Nat} (small : d < 16) : digit? d.digitChar = some d := by
  have all : ∀ d : Fin 16, digit? (Nat.digitChar d.val) = some d.val := by decide
  exact all ⟨d, small⟩

/-- The hexadecimal digits of a number stand for it. -/
theorem number?_toDigits (n : Nat) : number? (Nat.toDigits 16 n) = some n := by
  induction n using Nat.strongRecOn with
  | ind n ih =>
    rw [Nat.toDigits_eq_if (by decide)]
    split
    case isTrue small => simp [number?, digit?_digitChar small]
    case isFalse large =>
      have front := ih (n / 16) (by omega)
      unfold number? at front ⊢
      rw [List.foldlM_append, front]
      simp [digit?_digitChar (Nat.mod_lt n (by decide : 0 < 16)), Nat.div_add_mod']

theorem exists_digitChar_of_mem_toDigits {n : Nat} {c : Char} (member : c ∈ Nat.toDigits 16 n) :
    ∃ d < 16, c = Nat.digitChar d := by
  induction n using Nat.strongRecOn with
  | ind n ih =>
    rw [Nat.toDigits_eq_if (by decide)] at member
    split at member
    case isTrue small => exact ⟨n, small, List.mem_singleton.1 member⟩
    case isFalse large =>
      rcases List.mem_append.1 member with front | last
      · exact ih (n / 16) (by omega) front
      · exact ⟨n % 16, Nat.mod_lt n (by decide), List.mem_singleton.1 last⟩

/-- Hexadecimal digits are letters and digits. -/
theorem isAlphanum_of_mem_toDigits {n : Nat} {c : Char} (member : c ∈ Nat.toDigits 16 n) :
    c.isAlphanum = true := by
  obtain ⟨d, small, rfl⟩ := exists_digitChar_of_mem_toDigits member
  have all : ∀ d : Fin 16, (Nat.digitChar d.val).isAlphanum = true := by decide
  exact all ⟨d, small⟩

end Hex

end Gangway
