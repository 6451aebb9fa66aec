import Mathlib.Algebra.BigOperators.Intervals
import Mathlib.Tactic.Linarith

/-!
# How many digits numbers have

The digits of the numbers from one to `n` in a base `b`, counted together: with `D` digits in `n`
there are `D * (n + 1)` less those that the shorter numbers lack, which is the number `1 … 1` of
`D` digits.

## Main definitions

* `digitCount`.

## Main results

* `digitCount_le_iff`: the numbers with at most `k` digits.
* `sum_digitCount`: the digits of all numbers up to `n`.
-/

namespace ZubotIngestion.Text

variable {b : ℕ}

/-- The number of digits of `n` in base `b`. -/
def digitCount (b n : ℕ) : ℕ := (Nat.toDigits b n).length

theorem digitCount_pos (b n : ℕ) : 0 < digitCount b n := Nat.length_toDigits_pos

theorem digitCount_le_iff (hb : 1 < b) {n k : ℕ} (hk : 0 < k) :
    digitCount b n ≤ k ↔ n < b ^ k :=
  Nat.length_toDigits_le_iff hb hk

theorem lt_pow_digitCount (hb : 1 < b) (n : ℕ) : n < b ^ digitCount b n :=
  (digitCount_le_iff hb (digitCount_pos b n)).mp le_rfl

theorem digitCount_mono (hb : 1 < b) {m n : ℕ} (h : m ≤ n) : digitCount b m ≤ digitCount b n :=
  (digitCount_le_iff hb (digitCount_pos b n)).mpr (h.trans_lt (lt_pow_digitCount hb n))

/-- The next number has as many digits, or it is a power of the base and has one more. -/
theorem digitCount_succ (hb : 1 < b) (n : ℕ) :
    digitCount b (n + 1) = digitCount b n ∨
      n + 1 = b ^ digitCount b n ∧ digitCount b (n + 1) = digitCount b n + 1 := by
  have hle : n + 1 ≤ b ^ digitCount b n := lt_pow_digitCount hb n
  have hmono := digitCount_mono hb (Nat.le_add_right n 1)
  rcases hle.lt_or_eq with hlt | heq
  · have hsame := (digitCount_le_iff hb (digitCount_pos b n)).mpr hlt
    exact Or.inl (le_antisymm hsame hmono)
  · refine Or.inr ⟨heq, le_antisymm ?_ ?_⟩
    · rw [digitCount_le_iff hb (Nat.succ_pos _), heq]
      exact Nat.pow_lt_pow_right hb (Nat.lt_succ_self _)
    · have hnot : ¬ digitCount b (n + 1) ≤ digitCount b n := by
        rw [digitCount_le_iff hb (digitCount_pos b n), heq]
        exact lt_irrefl _
      omega

/-- The digits of the numbers from one to `n`. -/
theorem sum_digitCount (hb : 1 < b) (n : ℕ) :
    ∑ k ∈ Finset.range n, digitCount b (k + 1) + ∑ d ∈ Finset.range (digitCount b n), b ^ d =
      digitCount b n * (n + 1) := by
  induction n with
  | zero =>
    have hone : digitCount b 0 = 1 :=
      le_antisymm ((digitCount_le_iff hb one_pos).mpr (Nat.pow_pos (by omega)))
        (digitCount_pos b 0)
    rw [hone, Finset.sum_range_zero, Finset.sum_range_one, pow_zero, zero_add, one_mul]
  | succ n ih =>
    rw [Finset.sum_range_succ]
    rcases digitCount_succ hb n with hsame | ⟨hpow, hmore⟩
    · rw [hsame]
      linarith
    · -- the power itself is the digit that the shorter numbers lack
      rw [hmore, Finset.sum_range_succ, ← hpow]
      linarith

end ZubotIngestion.Text
