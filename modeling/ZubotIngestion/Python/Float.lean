import Mathlib.Algebra.Order.Ring.Rat
import Mathlib.Tactic.NormNum
import Mathlib.Tactic.Linarith

/-!
# Floats as exact rationals with NaN and infinities

Confidence scores are Python floats. They are read here as exact rationals, extended with NaN and
the two infinities, since these three are values that arithmetic and `json.loads` can produce.
Comparisons follow Python: every comparison with NaN is false, so `if x < 0 … if x > 1 …` lets
NaN pass. Sums and products of finite floats are exact: the rounding of binary64 to 53 bits is left
out, and a number that a statement names, such as a weighted sum, stands for the float that the
source computes.

## Main definitions

* `PyFloat`, its order relations, addition and multiplication.
* `PyFloat.pyMax`, `PyFloat.pyMin`: the builtins, which depend on the order of their arguments
  when NaN is among them.
* `PyFloat.clampUnit`: the clamp to the unit interval.
* `PyFloat.InUnit`: a number of the unit interval.
* `PyFloat.IsUnit`: a number of the unit interval, or NaN.

## Main results

* `PyFloat.isUnit_clampUnit`, `PyFloat.IsUnit.pyMax`, `PyFloat.IsUnit.pyMin`: the closure of
  `IsUnit`.
-/

namespace ZubotIngestion

/-- A Python float: an exact rational, NaN, or an infinity. -/
inductive PyFloat : Type where
  /-- A finite float. -/
  | fin (q : ℚ)
  /-- Not a number. -/
  | nan
  /-- Positive infinity. -/
  | inf
  /-- Negative infinity. -/
  | negInf
  deriving DecidableEq

namespace PyFloat

instance : Zero PyFloat := ⟨fin 0⟩

instance : One PyFloat := ⟨fin 1⟩

theorem zero_def : (0 : PyFloat) = fin 0 := rfl

theorem one_def : (1 : PyFloat) = fin 1 := rfl

/-! ### Comparisons -/

/-- `a < b` of Python: false as soon as an argument is NaN. -/
def blt : PyFloat → PyFloat → Bool
  | fin a, fin b => decide (a < b)
  | fin _, inf => true
  | negInf, fin _ => true
  | negInf, inf => true
  | _, _ => false

/-- `a <= b` of Python: false as soon as an argument is NaN. -/
def ble : PyFloat → PyFloat → Bool
  | fin a, fin b => decide (a ≤ b)
  | fin _, inf => true
  | negInf, fin _ => true
  | negInf, inf => true
  | inf, inf => true
  | negInf, negInf => true
  | _, _ => false

instance : LT PyFloat := ⟨fun a b => blt a b = true⟩

instance : LE PyFloat := ⟨fun a b => ble a b = true⟩

instance (a b : PyFloat) : Decidable (a < b) := inferInstanceAs (Decidable (blt a b = true))

instance (a b : PyFloat) : Decidable (a ≤ b) := inferInstanceAs (Decidable (ble a b = true))

@[simp] theorem fin_lt_fin {a b : ℚ} : fin a < fin b ↔ a < b := decide_eq_true_iff

@[simp] theorem fin_le_fin {a b : ℚ} : fin a ≤ fin b ↔ a ≤ b := decide_eq_true_iff

@[simp] theorem not_nan_lt (a : PyFloat) : ¬ nan < a := by
  cases a <;> exact Bool.false_ne_true

@[simp] theorem not_lt_nan (a : PyFloat) : ¬ a < nan := by
  cases a <;> exact Bool.false_ne_true

@[simp] theorem not_le_nan (a : PyFloat) : ¬ a ≤ nan := by
  cases a <;> exact Bool.false_ne_true

protected theorem le_trans {a b c : PyFloat} (h : a ≤ b) (h' : b ≤ c) : a ≤ c := by
  cases a <;> cases b <;> first
    | exact absurd h Bool.false_ne_true
    | cases c <;> first
      | exact absurd h' Bool.false_ne_true
      | exact fin_le_fin.mpr (Rat.le_trans (fin_le_fin.mp h) (fin_le_fin.mp h'))
      | rfl

/-! ### Arithmetic -/

/-- Float addition, exact on finite floats; `inf - inf` is NaN. -/
def add : PyFloat → PyFloat → PyFloat
  | fin a, fin b => fin (a + b)
  | nan, _ => nan
  | _, nan => nan
  | inf, negInf => nan
  | negInf, inf => nan
  | inf, _ => inf
  | _, inf => inf
  | negInf, _ => negInf
  | _, negInf => negInf

/-- Float multiplication, exact on finite floats; an infinity times zero is NaN. -/
def mul : PyFloat → PyFloat → PyFloat
  | fin a, fin b => fin (a * b)
  | nan, _ => nan
  | _, nan => nan
  | inf, fin b => if b = 0 then nan else if 0 < b then inf else negInf
  | negInf, fin b => if b = 0 then nan else if 0 < b then negInf else inf
  | fin a, inf => if a = 0 then nan else if 0 < a then inf else negInf
  | fin a, negInf => if a = 0 then nan else if 0 < a then negInf else inf
  | inf, inf => inf
  | negInf, negInf => inf
  | inf, negInf => negInf
  | negInf, inf => negInf

instance : Add PyFloat := ⟨add⟩

instance : Mul PyFloat := ⟨mul⟩

@[simp] theorem fin_add_fin (a b : ℚ) : fin a + fin b = fin (a + b) := rfl

@[simp] theorem fin_mul_fin (a b : ℚ) : fin a * fin b = fin (a * b) := rfl

@[simp] theorem nan_add (a : PyFloat) : nan + a = nan := by
  cases a <;> rfl

@[simp] theorem add_nan (a : PyFloat) : a + nan = nan := by
  cases a <;> rfl

@[simp] theorem nan_mul (a : PyFloat) : nan * a = nan := by
  cases a <;> rfl

/-- `max(a, b)` of Python: the second argument only if it is greater. -/
def pyMax (a b : PyFloat) : PyFloat := if a < b then b else a

/-- `min(a, b)` of Python: the second argument only if it is smaller. -/
def pyMin (a b : PyFloat) : PyFloat := if b < a then b else a

/-- The clamp to `[0.0, 1.0]`, as two comparisons; NaN passes through. -/
def clampUnit (f : PyFloat) : PyFloat :=
  if f < 0 then 0 else if 1 < f then 1 else f

/-- A number of the unit interval, which NaN is not. -/
def InUnit (c : PyFloat) : Prop := 0 ≤ c ∧ c ≤ 1

/-! ### Numbers of the unit interval, or NaN -/

/-- A number of `[0, 1]`, or NaN: what a clamped score can be. -/
def IsUnit (f : PyFloat) : Prop := f = nan ∨ ∃ q : ℚ, f = fin q ∧ 0 ≤ q ∧ q ≤ 1

theorem isUnit_fin {q : ℚ} (h₀ : 0 ≤ q) (h₁ : q ≤ 1) : IsUnit (fin q) :=
  Or.inr ⟨q, rfl, h₀, h₁⟩

@[simp] theorem isUnit_zero : IsUnit 0 := isUnit_fin le_rfl zero_le_one

theorem isUnit_clampUnit (f : PyFloat) : IsUnit f.clampUnit := by
  unfold clampUnit
  split_ifs with h₀ h₁
  · exact isUnit_zero
  · exact isUnit_fin zero_le_one le_rfl
  · cases f with
    | fin q =>
      have hlower : 0 ≤ q := not_lt.mp (mt fin_lt_fin.mpr h₀)
      have hupper : q ≤ 1 := not_lt.mp (mt fin_lt_fin.mpr h₁)
      exact isUnit_fin hlower hupper
    | nan => exact Or.inl rfl
    | inf => exact absurd rfl h₁
    | negInf => exact absurd rfl h₀

theorem IsUnit.pyMax {a b : PyFloat} (ha : IsUnit a) (hb : IsUnit b) : IsUnit (a.pyMax b) := by
  unfold PyFloat.pyMax
  split_ifs
  exacts [hb, ha]

theorem IsUnit.pyMin {a b : PyFloat} (ha : IsUnit a) (hb : IsUnit b) : IsUnit (a.pyMin b) := by
  unfold PyFloat.pyMin
  split_ifs
  exacts [hb, ha]

/-- The larger of two finite floats is that of their rationals. -/
theorem pyMax_fin (p q : ℚ) : (fin p).pyMax (fin q) = fin (max p q) := by
  rw [pyMax]
  split_ifs with h
  · rw [max_eq_right (fin_lt_fin.mp h).le]
  · rw [max_eq_left (not_lt.mp (mt fin_lt_fin.mpr h))]

/-- The clamp of a finite float is the clamp of its rational. -/
theorem clampUnit_fin (q : ℚ) : (fin q).clampUnit = fin (max 0 (min q 1)) := by
  simp only [clampUnit, zero_def, one_def, fin_lt_fin]
  split_ifs with h₀ h₁
  · rw [max_eq_left (min_le_of_left_le h₀.le)]
  · rw [min_eq_right h₁.le, max_eq_right zero_le_one]
  · rw [min_eq_left (not_lt.mp h₁), max_eq_right (not_lt.mp h₀)]

@[simp] theorem clampUnit_nan : nan.clampUnit = nan := rfl

end PyFloat

end ZubotIngestion
