import Mathlib.Data.List.Induction
import Mathlib.Logic.Function.Basic
import Mathlib.Tactic.ByContra
import Mathlib.Tactic.SplitIfs

/-!
# Stores that are written by address

A store keeps one body for each address. Requests are served one after the other, and a request
that takes effect puts its body at its address. The store is shared by several owners; it is
isolated if no request ever changes what a request of another owner has put.

## Main definitions

* `Layout`, `Layout.contents`: where the requests write, and what the store holds after them.
* `Layout.Isolated`, `Layout.Separated`.

## Main results

* `Layout.isolated_iff`: if bodies name their owner, the store is isolated exactly when requests
  of different owners never share an address.
-/

namespace ZubotIngestion.Store

/-- How requests write to a store: whether they take effect, where, what, and for whom. -/
structure Layout (ρ α β ω : Type) where
  /-- Whether the request takes effect. -/
  applied : ρ → Bool
  /-- The address it writes to. -/
  address : ρ → α
  /-- What it writes. -/
  body : ρ → β
  /-- Whose request it is. -/
  owner : ρ → ω

namespace Layout

variable {ρ α β ω : Type} [DecidableEq α] (L : Layout ρ α β ω)

/-- The store after one more request. -/
def put (s : α → Option β) (r : ρ) : α → Option β :=
  if L.applied r then Function.update s (L.address r) (some (L.body r)) else s

/-- What the store holds after the requests `rs`, from the empty store. -/
def contents (rs : List ρ) : α → Option β := rs.foldl L.put fun _ => none

/-- No request changes what a request of another owner has put. -/
def Isolated (rs : List ρ) : Prop :=
  ∀ pre r post, rs = pre ++ r :: post → ∀ r' ∈ pre, L.applied r' = true → L.owner r' ≠ L.owner r →
    L.contents (pre ++ [r]) (L.address r') = L.contents pre (L.address r')

/-- Requests of different owners that took effect have different addresses. -/
def Separated (rs : List ρ) : Prop :=
  ∀ r ∈ rs, ∀ r' ∈ rs, L.applied r = true → L.applied r' = true → L.address r = L.address r' →
    L.owner r = L.owner r'

@[simp] theorem contents_nil (a : α) : L.contents [] a = none := rfl

theorem contents_concat (rs : List ρ) (r : ρ) :
    L.contents (rs ++ [r]) = L.put (L.contents rs) r := by
  simp [contents]

theorem put_self {s : α → Option β} {r : ρ} (hr : L.applied r = true) :
    L.put s r (L.address r) = some (L.body r) := by
  simp [put, hr]

/-- A request changes the store at its own address only, and only if it takes effect. -/
theorem put_eq {s : α → Option β} {r : ρ} {a : α} (h : L.applied r = true → L.address r ≠ a) :
    L.put s r a = s a := by
  rw [put]
  split_ifs with hr
  · exact Function.update_of_ne (h hr).symm _ _
  · rfl

/-- What an address holds was put there by one of the requests. -/
theorem exists_of_contents {rs : List ρ} {a : α} {b : β} (h : L.contents rs a = some b) :
    ∃ r ∈ rs, L.applied r = true ∧ L.address r = a ∧ L.body r = b := by
  induction rs using List.reverseRecOn with
  | nil => cases h
  | append_singleton rs r ih =>
    rw [contents_concat] at h
    by_cases hr : L.applied r = true ∧ L.address r = a
    · obtain ⟨happlied, rfl⟩ := hr
      rw [put_self L happlied] at h
      exact ⟨r, by simp, happlied, rfl, Option.some.inj h⟩
    · rw [put_eq L fun happlied haddress => hr ⟨happlied, haddress⟩] at h
      obtain ⟨r', hmem, hr'⟩ := ih h
      exact ⟨r', List.mem_append_left _ hmem, hr'⟩

/-- An address holds something as soon as a request to it has taken effect. -/
theorem isSome_contents_iff {rs : List ρ} {a : α} :
    (L.contents rs a).isSome ↔ ∃ r ∈ rs, L.applied r = true ∧ L.address r = a := by
  constructor
  · intro h
    obtain ⟨b, hb⟩ := Option.isSome_iff_exists.mp h
    obtain ⟨r, hr, happlied, haddress, -⟩ := L.exists_of_contents hb
    exact ⟨r, hr, happlied, haddress⟩
  · induction rs using List.reverseRecOn with
    | nil => exact fun ⟨_, hr, _⟩ => nomatch hr
    | append_singleton rs r ih =>
      rintro ⟨q, hq, happlied, haddress⟩
      rw [contents_concat]
      by_cases hr : L.applied r = true ∧ L.address r = a
      · obtain ⟨hr, rfl⟩ := hr
        rw [put_self L hr]
        rfl
      · rw [put_eq L fun hr' ha => hr ⟨hr', ha⟩]
        refine ih ⟨q, ?_, happlied, haddress⟩
        rcases List.mem_append.mp hq with hq | hq
        · exact hq
        · exact absurd ⟨happlied, haddress⟩ (List.mem_singleton.mp hq ▸ hr)

variable {L}

/-- Separated requests are isolated. -/
theorem Separated.isolated {rs : List ρ} (h : L.Separated rs) : L.Isolated rs := by
  rintro pre r post rfl r' hr' happlied' howner
  rw [contents_concat]
  refine put_eq L fun happlied haddress => howner ?_
  exact h r' (List.mem_append_left _ hr') r (by simp) happlied' happlied haddress.symm

/-- If a body names its owner, isolated requests are separated: the first request of another
owner at an address changes what is stored there. -/
theorem Isolated.separated {rs : List ρ} (h : L.Isolated rs)
    (hbody : ∀ r r', L.body r = L.body r' → L.owner r = L.owner r') : L.Separated rs := by
  induction rs using List.reverseRecOn with
  | nil => exact fun r hr => nomatch hr
  | append_singleton rs r ih =>
    have hrs : L.Separated rs := by
      refine ih fun pre q post hq q' hq' happlied howner => ?_
      exact h pre q (post ++ [r]) (by rw [hq]; simp) q' hq' happlied howner
    -- The last request against one before it.
    have hlast : ∀ q ∈ rs, L.applied q = true → L.applied r = true → L.address q = L.address r →
        L.owner q = L.owner r := by
      intro q hq happlied hr haddress
      by_contra howner
      have hsame := h rs r [] rfl q hq happlied howner
      rw [contents_concat, haddress, put_self L hr] at hsame
      obtain ⟨p, hp, hpapplied, hpaddress, hpbody⟩ := exists_of_contents L hsame.symm
      have hpq := hrs p hp q hq hpapplied happlied (hpaddress.trans haddress.symm)
      exact howner (hpq.symm.trans (hbody p r hpbody))
    intro q hq q' hq' happlied happlied' haddress
    rcases List.mem_append.mp hq with hold | hnew <;>
      rcases List.mem_append.mp hq' with hold' | hnew'
    · exact hrs q hold q' hold' happlied happlied' haddress
    · obtain rfl := List.mem_singleton.mp hnew'
      exact hlast q hold happlied happlied' haddress
    · obtain rfl := List.mem_singleton.mp hnew
      exact (hlast q' hold' happlied' happlied haddress.symm).symm
    · rw [List.mem_singleton.mp hnew, List.mem_singleton.mp hnew']

/-- If bodies name their owner, isolation is separation. -/
theorem isolated_iff (hbody : ∀ r r', L.body r = L.body r' → L.owner r = L.owner r')
    (rs : List ρ) : L.Isolated rs ↔ L.Separated rs :=
  ⟨fun h => h.separated hbody, Separated.isolated⟩

end Layout

end ZubotIngestion.Store
