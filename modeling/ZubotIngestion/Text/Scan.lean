import Mathlib.Data.List.Infix

/-!
# Leftmost matches

A text is scanned from the left for matches that do not overlap. `matchAt` says what a text begins
with: what is captured, and how many symbols the match has. The scan goes on behind the match.

## Main definitions

* `findAll`.
* `Reaches`: the scan looks for a match at a place of the text.

## Main results

* `Reaches.findAll_eq`: what is captured from a place on that the scan reaches.
-/

namespace ZubotIngestion.Text

variable {α β : Type}

/-- The matches in a text; the first `skip` symbols belong to a match that has been found
already. -/
def findFrom (matchAt : List α → Option (β × ℕ)) : ℕ → List α → List β
  | _, [] => []
  | skip + 1, _ :: text => findFrom matchAt skip text
  | 0, x :: text =>
    match matchAt (x :: text) with
    | some (found, length) => found :: findFrom matchAt (length - 1) text
    | none => findFrom matchAt 0 text

/-- `re.finditer`, for a pattern that does not match the empty text. -/
def findAll (matchAt : List α → Option (β × ℕ)) (text : List α) : List β := findFrom matchAt 0 text

/-! ### The places that are looked at -/

/-- The scan of the first text goes on with the second one: what stands before it has been passed
over, symbol by symbol or as a match. -/
inductive Reaches (matchAt : List α → Option (β × ℕ)) : List α → List α → Prop
  | here (text : List α) : Reaches matchAt text text
  | pass {x : α} {text rest : List α} (hnone : matchAt (x :: text) = none)
      (h : Reaches matchAt text rest) : Reaches matchAt (x :: text) rest
  | jump {text rest : List α} {found : β} {length : ℕ} (hlength : 0 < length)
      (hfound : matchAt text = some (found, length))
      (h : Reaches matchAt (text.drop length) rest) : Reaches matchAt text rest

theorem findFrom_eq (matchAt : List α → Option (β × ℕ)) (skip : ℕ) (text : List α) :
    findFrom matchAt skip text = findAll matchAt (text.drop skip) := by
  induction text generalizing skip with
  | nil => cases skip <;> rfl
  | cons x text ih =>
    cases skip with
    | zero => rfl
    | succ skip => exact ih skip

/-- The scan goes on behind a match. -/
theorem findAll_of_match {matchAt : List α → Option (β × ℕ)} {text : List α} {found : β}
    {length : ℕ} (htext : text ≠ []) (hlength : 0 < length)
    (hfound : matchAt text = some (found, length)) :
    findAll matchAt text = found :: findAll matchAt (text.drop length) := by
  cases text with
  | nil => exact absurd rfl htext
  | cons x text =>
    obtain ⟨n, rfl⟩ := Nat.exists_eq_add_of_lt hlength
    rw [findAll, findFrom, hfound]
    simp only [findFrom_eq, Nat.zero_add, Nat.add_sub_cancel, List.drop_succ_cons]

/-- What is captured before the place comes first. -/
theorem Reaches.findAll_eq {matchAt : List α → Option (β × ℕ)} {text rest : List α}
    (h : Reaches matchAt text rest) :
    ∃ before, findAll matchAt text = before ++ findAll matchAt rest := by
  induction h with
  | here text => exact ⟨[], rfl⟩
  | @pass x text rest hnone _ ih =>
    obtain ⟨before, hbefore⟩ := ih
    refine ⟨before, ?_⟩
    rw [findAll, findFrom, hnone]
    exact hbefore
  | @jump text rest found length hlength hfound _ ih =>
    obtain ⟨before, hbefore⟩ := ih
    cases text with
    | nil => exact ⟨before, by rwa [List.drop_nil] at hbefore⟩
    | cons x text =>
      refine ⟨found :: before, ?_⟩
      rw [findAll_of_match (List.cons_ne_nil x text) hlength hfound, hbefore, List.cons_append]

/-- A piece in front in which no match begins is passed over. -/
theorem reaches_append {matchAt : List α → Option (β × ℕ)} {before rest : List α}
    (h : ∀ x ∈ before, ∀ text, matchAt (x :: text) = none) :
    Reaches matchAt (before ++ rest) rest := by
  induction before with
  | nil => exact .here rest
  | cons x before ih =>
    exact .pass (h x List.mem_cons_self _) (ih fun y hy => h y (List.mem_cons_of_mem x hy))

end ZubotIngestion.Text
