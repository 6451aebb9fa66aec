import Mathlib.Algebra.Order.Ring.Abs
import ZubotIngestion.Python.Text

/-!
# Powers of floats

`base ** n` for a float and an index. A power of a finite float that is too large for a float is an
`OverflowError`, not an infinity.

## Main definitions

* `floatPow`, `PowerOverflows`.

## Main results

* `floatPow_eq_error_iff`: where a power raises.
* `powerOverflows_two`: the powers of two that are too large.
-/

namespace ZubotIngestion

/-- The exception of a power that is too large. -/
def powerOverflow : PyException := .error "OverflowError" "(34, 'Numerical result out of range')"

/-- `base ** n`. -/
def floatPow : PyFloat → ℕ → Except PyException PyFloat
  | .fin q, n => if |q ^ n| < floatOverflow then .ok (.fin (q ^ n)) else .error powerOverflow
  | .nan, n => .ok (if n = 0 then 1 else .nan)
  | .inf, n => .ok (if n = 0 then 1 else .inf)
  | .negInf, n => .ok (if n = 0 then 1 else if n % 2 = 0 then .inf else .negInf)

/-- The base is finite, and its power is too large. -/
def PowerOverflows (base : PyFloat) (n : ℕ) : Prop :=
  ∃ q : ℚ, base = .fin q ∧ (floatOverflow : ℚ) ≤ |q ^ n|

theorem floatPow_eq_error_iff {base : PyFloat} {n : ℕ} {exc : PyException} :
    floatPow base n = .error exc ↔ exc = powerOverflow ∧ PowerOverflows base n := by
  cases base with
  | fin q =>
    have hoverflows : PowerOverflows (.fin q) n ↔ (floatOverflow : ℚ) ≤ |q ^ n| :=
      ⟨fun ⟨_, hq, h⟩ => PyFloat.fin.inj hq ▸ h, fun h => ⟨q, rfl, h⟩⟩
    rw [floatPow, hoverflows]
    split_ifs with h
    · exact iff_of_false nofun fun hexc => absurd hexc.2 (not_le.mpr h)
    · rw [Except.error.injEq, and_iff_left (not_lt.mp h), eq_comm]
  | nan => exact iff_of_false nofun fun ⟨_, _, hq, _⟩ => PyFloat.noConfusion hq
  | inf => exact iff_of_false nofun fun ⟨_, _, hq, _⟩ => PyFloat.noConfusion hq
  | negInf => exact iff_of_false nofun fun ⟨_, _, hq, _⟩ => PyFloat.noConfusion hq

theorem floatPow_fin {q : ℚ} {n : ℕ} (h : ¬ PowerOverflows (.fin q) n) :
    floatPow (.fin q) n = .ok (.fin (q ^ n)) := by
  rw [floatPow, if_pos (not_le.mp fun hle => h ⟨q, rfl, hle⟩)]

theorem sub_two_pow_le_iff {m n k : ℕ} (hm : m + 1 < k) : 2 ^ k - 2 ^ m ≤ 2 ^ n ↔ k ≤ n := by
  have hmono {i j : ℕ} (h : i ≤ j) : 2 ^ i ≤ 2 ^ j := Nat.pow_le_pow_right (by norm_num) h
  constructor
  · intro h
    by_contra hn
    have hdouble : 2 ^ k = 2 ^ (k - 1) * 2 := by
      rw [← Nat.pow_succ, Nat.succ_eq_add_one, Nat.sub_add_cancel (by omega)]
    have hsmall : 2 ^ m < 2 ^ (k - 1) := Nat.pow_lt_pow_right (by norm_num) (by omega)
    have hn' : 2 ^ n ≤ 2 ^ (k - 1) := hmono (by omega)
    omega
  · exact fun h => (Nat.sub_le _ _).trans (hmono h)

/-- The first power of two that is too large is the one with the exponent 1024. -/
theorem powerOverflows_two {n : ℕ} : PowerOverflows (.fin 2) n ↔ 1024 ≤ n := by
  have hpower : PowerOverflows (.fin 2) n ↔ floatOverflow ≤ 2 ^ n := by
    constructor
    · rintro ⟨q, hq, h⟩
      obtain rfl := PyFloat.fin.inj hq
      rw [abs_of_nonneg (by positivity)] at h
      exact_mod_cast h
    · intro h
      refine ⟨2, rfl, ?_⟩
      rw [abs_of_nonneg (by positivity)]
      exact_mod_cast h
  rw [hpower, floatOverflow]
  exact sub_two_pow_le_iff (by norm_num)

end ZubotIngestion
