import Mathlib.Data.List.Basic

/-!
# Attempts one after the other

`List.findSomeM?` with exceptions: attempts are made in order until one gives a value or raises.
What comes behind that attempt is not looked at, and every attempt before it has passed without a
value.

## Main results

* `findSomeM?_eq_none_iff`: no attempt gives a value or raises.
* `findSomeM?_eq_error_iff`: the attempt that raises.
-/

namespace ZubotIngestion.Effects

variable {α β ε : Type} {f : α → Except ε (Option β)}

theorem findSomeM?_cons_none {x : α} (h : f x = .ok none) (xs : List α) :
    (x :: xs).findSomeM? f = xs.findSomeM? f := by
  rw [List.findSomeM?_cons, h]
  rfl

theorem findSomeM?_cons_some {x : α} {value : β} (h : f x = .ok (some value)) (xs : List α) :
    (x :: xs).findSomeM? f = .ok (some value) := by
  rw [List.findSomeM?_cons, h]
  rfl

theorem findSomeM?_cons_error {x : α} {e : ε} (h : f x = .error e) (xs : List α) :
    (x :: xs).findSomeM? f = .error e := by
  rw [List.findSomeM?_cons, h]
  rfl

/-- Whatever is done with the outcome of more attempts is done with that of the first ones, unless
these pass. -/
theorem findSomeM?_append_bind {γ : Type} (xs ys : List α) (k : Option β → Except ε γ) :
    ((xs ++ ys).findSomeM? f).bind k = (xs.findSomeM? f).bind fun r =>
      match r with
      | some value => k (some value)
      | none => (ys.findSomeM? f).bind k := by
  induction xs with
  | nil => rfl
  | cons x xs ih =>
    rw [List.cons_append]
    rcases hx : f x with e | _ | value
    · rw [findSomeM?_cons_error hx, findSomeM?_cons_error hx]
      rfl
    · rw [findSomeM?_cons_none hx, findSomeM?_cons_none hx, ih]
    · rw [findSomeM?_cons_some hx, findSomeM?_cons_some hx]
      rfl

/-- A single attempt. -/
theorem findSomeM?_singleton (x : α) : [x].findSomeM? f = f x := by
  rcases hx : f x with e | _ | value
  · exact findSomeM?_cons_error hx []
  · exact findSomeM?_cons_none hx []
  · exact findSomeM?_cons_some hx []

/-- No value is found just if every attempt passes. -/
theorem findSomeM?_eq_none_iff {xs : List α} :
    xs.findSomeM? f = .ok none ↔ ∀ x ∈ xs, f x = .ok none := by
  induction xs with
  | nil => exact iff_of_true rfl fun _ h => absurd h List.not_mem_nil
  | cons x xs ih =>
    rw [List.forall_mem_cons]
    rcases hx : f x with e | _ | value
    · rw [findSomeM?_cons_error hx]
      simp
    · rw [findSomeM?_cons_none hx, ih]
      simp
    · rw [findSomeM?_cons_some hx]
      simp

/-- The search raises just if an attempt does, and all before it pass. -/
theorem findSomeM?_eq_error_iff {xs : List α} {e : ε} :
    xs.findSomeM? f = .error e ↔ ∃ before x after, xs = before ++ x :: after ∧
      (∀ y ∈ before, f y = .ok none) ∧ f x = .error e := by
  induction xs with
  | nil =>
    constructor
    · intro h
      cases h
    · rintro ⟨before, x, after, h, -⟩
      simp at h
  | cons x xs ih =>
    have hcons : (∃ before y after, x :: xs = before ++ y :: after ∧
        (∀ z ∈ before, f z = .ok none) ∧ f y = .error e) ↔
        f x = .error e ∨ f x = .ok none ∧ xs.findSomeM? f = .error e := by
      rw [ih]
      constructor
      · rintro ⟨before, y, after, hxs, hbefore, hy⟩
        cases before with
        | nil =>
          obtain ⟨rfl, -⟩ := List.cons.inj hxs
          exact Or.inl hy
        | cons z before =>
          obtain ⟨rfl, rfl⟩ := List.cons.inj hxs
          obtain ⟨hz, hbefore⟩ := List.forall_mem_cons.mp hbefore
          exact Or.inr ⟨hz, before, y, after, rfl, hbefore, hy⟩
      · rintro (hx | ⟨hx, before, y, after, rfl, hbefore, hy⟩)
        · exact ⟨[], x, xs, rfl, fun _ h => absurd h List.not_mem_nil, hx⟩
        · exact ⟨x :: before, y, after, rfl, List.forall_mem_cons.mpr ⟨hx, hbefore⟩, hy⟩
    rw [hcons]
    rcases hx : f x with e' | _ | value
    · rw [findSomeM?_cons_error hx]
      simp
    · rw [findSomeM?_cons_none hx]
      simp
    · rw [findSomeM?_cons_some hx]
      simp

end ZubotIngestion.Effects
