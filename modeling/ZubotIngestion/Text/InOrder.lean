import Mathlib.Data.List.Infix

/-!
# Pieces in order

The pieces of a list occur in a text one behind the other, with anything in between. Joined pieces
occur in order, also where the empty ones have been left out of the join.

## Main definitions

* `InOrder`.

## Main results

* `inOrder_intercalate`: joined pieces.
* `InOrder.of_filter`: empty pieces occur anywhere.
-/

namespace ZubotIngestion.Text

variable {α : Type}

/-- The pieces occur in the text in their order, without overlap. -/
inductive InOrder : List (List α) → List α → Prop
  | nil (text : List α) : InOrder [] text
  | cons (gap piece : List α) {pieces : List (List α)} {rest : List α} (h : InOrder pieces rest) :
      InOrder (piece :: pieces) (gap ++ piece ++ rest)

theorem InOrder.append_left {pieces : List (List α)} {text : List α} (h : InOrder pieces text)
    (before : List α) : InOrder pieces (before ++ text) := by
  cases h with
  | nil => exact .nil _
  | cons gap piece hrest =>
    rw [List.append_assoc, ← List.append_assoc, ← List.append_assoc]
    exact .cons (before ++ gap) piece hrest

theorem inOrder_intercalate (sep : List α) (pieces : List (List α)) :
    InOrder pieces (sep.intercalate pieces) := by
  induction pieces with
  | nil => exact .nil _
  | cons piece pieces ih =>
    cases pieces with
    | nil =>
      rw [List.intercalate_singleton]
      simpa using InOrder.cons [] piece (.nil [])
    | cons next pieces =>
      rw [List.intercalate_cons_cons, List.append_assoc]
      exact .cons [] piece (ih.append_left sep)

/-- An empty piece occurs anywhere. -/
theorem InOrder.of_filter {q : List α → Bool} (hq : ∀ piece, q piece = false → piece = [])
    {pieces : List (List α)} {text : List α} (h : InOrder (pieces.filter q) text) :
    InOrder pieces text := by
  induction pieces generalizing text with
  | nil => exact .nil _
  | cons piece pieces ih =>
    cases hpiece : q piece with
    | false =>
      rw [List.filter_cons_of_neg (by rw [hpiece]; exact Bool.false_ne_true)] at h
      rw [hq piece hpiece]
      exact .cons [] [] (ih h)
    | true =>
      rw [List.filter_cons_of_pos hpiece] at h
      cases h with
      | cons gap _ hrest => exact .cons gap piece (ih hrest)

end ZubotIngestion.Text
