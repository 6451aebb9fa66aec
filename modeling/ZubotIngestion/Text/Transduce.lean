import Mathlib.Data.List.Infix

/-!
# Transducers

A text is decoded from the left. `decodeAt` says what the front of a text stands for and how many
symbols it has; the decoding goes on behind it.

## Main definitions

* `transduce`.

## Main results

* `transduce_append`: a piece in front that is decoded whatever stands behind it.
-/

namespace ZubotIngestion.Text

variable {α β : Type}

/-- The decoding of a text; the first `skip` symbols belong to a piece that has been decoded
already. -/
def transduceFrom (decodeAt : List α → List β × ℕ) : ℕ → List α → List β
  | _, [] => []
  | skip + 1, _ :: text => transduceFrom decodeAt skip text
  | 0, x :: text =>
    (decodeAt (x :: text)).1 ++ transduceFrom decodeAt ((decodeAt (x :: text)).2 - 1) text

/-- The decoding of a text, for pieces that are not empty. -/
def transduce (decodeAt : List α → List β × ℕ) (text : List α) : List β :=
  transduceFrom decodeAt 0 text

theorem transduceFrom_eq (decodeAt : List α → List β × ℕ) (skip : ℕ) (text : List α) :
    transduceFrom decodeAt skip text = transduce decodeAt (text.drop skip) := by
  induction text generalizing skip with
  | nil => cases skip <;> rfl
  | cons x text ih =>
    cases skip with
    | zero => rfl
    | succ skip => exact ih skip

/-- A piece in front is decoded, and then what stands behind it. -/
theorem transduce_append {decodeAt : List α → List β × ℕ} {piece : List α} {decoded : List β}
    (hpiece : piece ≠ []) {rest : List α}
    (h : decodeAt (piece ++ rest) = (decoded, piece.length)) :
    transduce decodeAt (piece ++ rest) = decoded ++ transduce decodeAt rest := by
  cases piece with
  | nil => exact absurd rfl hpiece
  | cons x piece =>
    rw [List.cons_append] at h ⊢
    rw [transduce, transduceFrom, h]
    simp only [transduceFrom_eq, List.length_cons, Nat.add_sub_cancel, List.drop_left]

end ZubotIngestion.Text
