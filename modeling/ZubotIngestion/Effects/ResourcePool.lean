import Mathlib.Data.List.Induction
import Mathlib.Data.Nat.Notation

/-!
# A pool of resources used by one scope after the other

A scope takes an idle resource from the pool, or opens one if the pool has none, uses it, and gives
it back when it ends. Scopes are numbered in the order in which they are entered, and a resource is
known by the scope that has opened it. What a pool keeps outlives the scope that has put it there.

## Main definitions

* `ResourcePool`, `ResourcePool.enter`, `ResourcePool.enterAll`.
* `ResourcePool.Local`: every resource is used in the scope that has opened it.

## Main results

* `ResourcePool.local_enterAll_iff`: this holds iff no scope but the last can open a resource.
-/

namespace ZubotIngestion.Effects

/-- A pool between two scopes. -/
structure ResourcePool where
  /-- The idle resources, each known by the scope that has opened it. -/
  idle : List ℕ
  /-- How many scopes have been entered. -/
  scopes : ℕ
  /-- What was used so far: the scope that has opened the resource, and the scope using it. -/
  uses : List (ℕ × ℕ)

namespace ResourcePool

/-- The pool before the first scope. -/
def empty : ResourcePool := ⟨[], 0, []⟩

/-- One scope, which can open a resource or not. -/
def enter (P : ResourcePool) (opens : Bool) : ResourcePool :=
  match P.idle with
  | resource :: idle => ⟨idle ++ [resource], P.scopes + 1, P.uses ++ [(resource, P.scopes)]⟩
  | [] =>
    if opens then ⟨[P.scopes], P.scopes + 1, P.uses ++ [(P.scopes, P.scopes)]⟩
    else ⟨[], P.scopes + 1, P.uses⟩

/-- The scopes of a list, one after the other. -/
def enterAll (opens : List Bool) : ResourcePool := opens.foldl enter empty

theorem enterAll_concat (opens : List Bool) (o : Bool) :
    enterAll (opens ++ [o]) = (enterAll opens).enter o := by
  rw [enterAll, List.foldl_append]
  rfl

@[simp] theorem scopes_enter (P : ResourcePool) (opens : Bool) :
    (P.enter opens).scopes = P.scopes + 1 := by
  rw [enter]
  split
  · rfl
  · split_ifs <;> rfl

/-- Every resource is used in the scope that has opened it. -/
def Local (P : ResourcePool) : Prop := ∀ use ∈ P.uses, use.1 = use.2

/-- Idle resources come from earlier scopes. -/
def Past (P : ResourcePool) : Prop := ∀ resource ∈ P.idle, resource < P.scopes

theorem Past.enter {P : ResourcePool} (h : P.Past) (opens : Bool) : (P.enter opens).Past := by
  intro resource hresource
  rw [scopes_enter]
  rw [ResourcePool.enter] at hresource
  split at hresource
  · next resource' idle hidle =>
    have hmem : resource ∈ P.idle := by
      rw [hidle]
      exact (List.mem_append.mp hresource).elim (List.mem_cons_of_mem _)
        fun h => List.mem_singleton.mp h ▸ List.mem_cons_self
    exact Nat.lt_succ_of_lt (h resource hmem)
  · split_ifs at hresource
    · rw [List.mem_singleton.mp hresource]
      exact Nat.lt_succ_self _
    · cases hresource

theorem past_enterAll (opens : List Bool) : (enterAll opens).Past := by
  induction opens using List.reverseRecOn with
  | nil => exact fun _ h => nomatch h
  | append_singleton opens o ih =>
    rw [enterAll_concat]
    exact ih.enter o

/-- As long as no scope can open a resource, none is there. -/
theorem enterAll_of_closed {opens : List Bool} (h : ∀ o ∈ opens, o = false) :
    (enterAll opens).idle = [] ∧ (enterAll opens).uses = [] := by
  induction opens using List.reverseRecOn with
  | nil => exact ⟨rfl, rfl⟩
  | append_singleton opens o ih =>
    obtain ⟨hidle, huses⟩ := ih fun o' ho' => h o' (List.mem_append_left _ ho')
    obtain rfl : o = false := h o (by simp)
    rw [enterAll_concat, enter, hidle]
    exact ⟨rfl, huses⟩

/-- A scope leaves a resource idle if there was one, or if it could open one. -/
theorem idle_enter_ne_nil {P : ResourcePool} {opens : Bool} (h : P.idle ≠ [] ∨ opens = true) :
    (P.enter opens).idle ≠ [] := by
  rw [enter]
  split
  · exact List.append_ne_nil_of_right_ne_nil _ (List.cons_ne_nil _ _)
  · next hidle =>
    rw [if_pos (h.resolve_left fun hne => hne hidle)]
    exact List.cons_ne_nil _ _

/-- Once a scope could open a resource, one is idle. -/
theorem idle_enterAll_ne_nil {opens : List Bool} (h : true ∈ opens) :
    (enterAll opens).idle ≠ [] := by
  induction opens using List.reverseRecOn with
  | nil => cases h
  | append_singleton opens o ih =>
    rw [enterAll_concat]
    refine idle_enter_ne_nil ?_
    rcases List.mem_append.mp h with h | h
    · exact Or.inl (ih h)
    · exact Or.inr (List.mem_singleton.mp h).symm

/-- All resources are used in the scopes that have opened them exactly if no scope but the last can
open one: the resource it leaves idle is handed to the next scope. -/
theorem local_enterAll_iff (opens : List Bool) :
    (enterAll opens).Local ↔ ∀ o ∈ opens.dropLast, o = false := by
  rcases List.eq_nil_or_concat opens with rfl | ⟨opens, o, rfl⟩
  · exact ⟨fun _ _ h => (nomatch h), fun _ _ h => nomatch h⟩
  · rw [List.concat_eq_append, enterAll_concat, List.dropLast_concat]
    constructor
    · intro hlocal
      by_contra hopen
      have hmem : true ∈ opens := by
        push Not at hopen
        obtain ⟨o', ho', hne⟩ := hopen
        rwa [eq_true_of_ne_false hne] at ho'
      obtain ⟨resource, idle, hidle⟩ := List.exists_cons_of_ne_nil (idle_enterAll_ne_nil hmem)
      have hpast := past_enterAll opens resource (hidle ▸ List.mem_cons_self)
      have huse : (resource, (enterAll opens).scopes) ∈ ((enterAll opens).enter o).uses := by
        simp [enter, hidle]
      exact absurd (hlocal _ huse) (Nat.ne_of_lt hpast)
    · intro hclosed
      obtain ⟨hidle, huses⟩ := enterAll_of_closed hclosed
      intro use huse
      simp only [enter, hidle, huses, List.nil_append] at huse
      split_ifs at huse
      · rw [List.mem_singleton.mp huse]
      · cases huse

end ResourcePool

end ZubotIngestion.Effects
