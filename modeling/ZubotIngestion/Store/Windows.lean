import Mathlib.Data.List.Nodup
import Mathlib.Data.List.Perm.Basic
import Mathlib.Data.List.Sort
import Mathlib.Order.Basic

/-!
# Windows of ordered lists

A paginated query lists the rows its filter selects with the greatest sort key first and returns
a window of this list. The sort key fixes the list only up to the order of rows with equal keys,
and two queries may order those differently. The windows of separate queries cover the rows exactly
iff no group of rows with equal keys lies across the border of two windows.

## Main definitions

* `window`: `limit` elements of a list from a position on.
* `IsOrder`: the lists a query may return.
* `Straddles`: rows of one key on both sides of a position.

## Main results

* `window_eq_window_iff`: when two windows of one length are the same.
* `perm_take_of_not_straddles`: what fixes the rows before a position.
* `windows_perm`, `not_straddles_of_nodup`: when the windows of separate queries list every row
  exactly once.
-/

namespace ZubotIngestion.Store

variable {α κ : Type}

/-- At most `limit` elements of a list, from position `offset` on. -/
def window (l : List α) (offset limit : ℕ) : List α := (l.drop offset).take limit

@[simp] theorem map_window {β : Type} (f : α → β) (l : List α) (offset limit : ℕ) :
    (window l offset limit).map f = window (l.map f) offset limit := by
  rw [window, window, List.map_take, List.map_drop]

/-- Windows of length `n` side by side make up a prefix. -/
theorem flatMap_range_window (l : List α) (n p : ℕ) :
    ((List.range p).flatMap fun k => window l (k * n) n) = l.take (p * n) := by
  induction p with
  | zero => simp
  | succ p ih =>
    rw [List.range_succ, List.flatMap_append, ih, List.flatMap_singleton, Nat.succ_mul,
      List.take_add, window]

theorem head?_window (l : List α) (offset : ℕ) {limit : ℕ} (h : 0 < limit) :
    (window l offset limit).head? = l[offset]? := by
  rw [window, List.head?_take, if_neg h.ne', List.head?_drop]

theorem window_eq_nil {l : List α} {offset : ℕ} (h : l.length ≤ offset) (limit : ℕ) :
    window l offset limit = [] := by
  rw [window, List.drop_eq_nil_of_le h, List.take_nil]

theorem mem_window {l : List α} {offset limit i : ℕ} (hoffset : offset ≤ i)
    (hlimit : i < offset + limit) {x : α} (hx : l[i]? = some x) : x ∈ window l offset limit := by
  refine List.mem_of_getElem? (i := i - offset) ?_
  rw [window, List.getElem?_take_of_lt (by omega), List.getElem?_drop, ← hx]
  congr
  omega

/-- Two windows of a list without repetitions are the same iff they start at the same position
or are both empty. -/
theorem window_eq_window_iff {l : List α} (hl : l.Nodup) {limit : ℕ} (h : 0 < limit) (a b : ℕ) :
    window l a limit = window l b limit ↔ a = b ∨ l.length ≤ a ∧ l.length ≤ b := by
  constructor
  · intro heq
    have hhead : l[a]? = l[b]? := by
      rw [← head?_window l a h, heq, head?_window l b h]
    by_cases ha : a < l.length
    · exact .inl ((List.getElem?_inj ha hl).mp hhead)
    · rw [List.getElem?_eq_none (not_lt.mp ha)] at hhead
      exact .inr ⟨not_lt.mp ha, List.getElem?_eq_none_iff.mp hhead.symm⟩
  · rintro (rfl | ⟨ha, hb⟩)
    · rfl
    · rw [window_eq_nil ha, window_eq_nil hb]

/-! ### Lists that a query may return -/

/-- A property that goes down along a list selects a prefix of it. -/
theorem take_countP_eq_filter {p : α → Bool} {l : List α}
    (hl : l.Pairwise fun x y => p y = true → p x = true) : l.take (l.countP p) = l.filter p := by
  induction l with
  | nil => rfl
  | cons x l ih =>
    obtain ⟨hx, hl'⟩ := List.pairwise_cons.mp hl
    by_cases hp : p x = true
    · rw [List.countP_cons_of_pos hp, List.filter_cons_of_pos hp, List.take_succ_cons, ih hl']
    · have hnone : ∀ y ∈ x :: l, ¬ p y = true := by
        intro y hy
        rcases List.mem_cons.mp hy with rfl | hy
        · exact hp
        · exact fun hpy => hp (hx y hy hpy)
      rw [List.countP_eq_zero.mpr hnone, List.take_zero, List.filter_eq_nil_iff.mpr hnone]

/-- Such a property holds exactly at the positions below its count. -/
theorem getElem_iff_lt_countP {p : α → Bool} {l : List α}
    (hl : l.Pairwise fun x y => p y = true → p x = true) {i : ℕ} (hi : i < l.length) :
    p l[i] = true ↔ i < l.countP p := by
  constructor
  · intro hp
    by_contra hcount
    have hdrop : (l.drop (l.countP p)).countP p = 0 := by
      have hsplit : (l.take (l.countP p) ++ l.drop (l.countP p)).countP p =
          (l.take (l.countP p)).countP p + (l.drop (l.countP p)).countP p := List.countP_append
      have hfilter : (l.filter p).countP p = l.countP p := by simp [List.countP_filter]
      rw [List.take_append_drop, take_countP_eq_filter hl, hfilter] at hsplit
      omega
    have hmem : l[i] ∈ l.drop (l.countP p) :=
      List.mem_drop_iff_getElem.mpr ⟨i - l.countP p, by omega, by congr; omega⟩
    exact List.countP_eq_zero.mp hdrop _ hmem hp
  · intro hcount
    have hmem : l[i] ∈ l.take (l.countP p) :=
      List.mem_take_iff_getElem.mpr ⟨i, by omega, rfl⟩
    rw [take_countP_eq_filter hl] at hmem
    exact (List.mem_filter.mp hmem).2

variable [LinearOrder κ]

/-- A list of `rows` with the greatest keys first. -/
structure IsOrder (key : α → κ) (rows l : List α) : Prop where
  perm : l.Perm rows
  sorted : l.Pairwise fun x y => key y ≤ key x

/-- The rows with a key above `t`. -/
def above (key : α → κ) (t : κ) (x : α) : Bool := decide (t < key x)

/-- The rows with a key of at least `t`. -/
def atLeast (key : α → κ) (t : κ) (x : α) : Bool := decide (t ≤ key x)

/-- Rows with key `t` lie on both sides of position `m`. -/
def Straddles (key : α → κ) (rows : List α) (t : κ) (m : ℕ) : Prop :=
  rows.countP (above key t) < m ∧ m < rows.countP (atLeast key t)

instance (key : α → κ) (rows : List α) (t : κ) (m : ℕ) : Decidable (Straddles key rows t m) :=
  inferInstanceAs (Decidable (_ ∧ _))

variable {key : α → κ} {rows : List α}

theorem exists_isOrder (key : α → κ) (rows : List α) : ∃ l, IsOrder key rows l := by
  classical
  let r : α → α → Prop := fun x y => key y ≤ key x
  have : Std.Total r := ⟨fun x y => le_total (key y) (key x)⟩
  have : IsTrans α r := ⟨fun _ _ _ hxy hyz => le_trans hyz hxy⟩
  exact ⟨rows.insertionSort r, List.perm_insertionSort r rows, List.pairwise_insertionSort r rows⟩

namespace IsOrder

variable {l l' : List α}

theorem length_eq (h : IsOrder key rows l) : l.length = rows.length := h.perm.length_eq

theorem pairwise_above (h : IsOrder key rows l) (t : κ) :
    l.Pairwise fun x y => above key t y = true → above key t x = true :=
  h.sorted.imp fun hxy hy => decide_eq_true ((of_decide_eq_true hy).trans_le hxy)

theorem pairwise_atLeast (h : IsOrder key rows l) (t : κ) :
    l.Pairwise fun x y => atLeast key t y = true → atLeast key t x = true :=
  h.sorted.imp fun hxy hy => decide_eq_true ((of_decide_eq_true hy).trans hxy)

/-- The rows with key `t` stand at the positions between the two counts. -/
theorem key_getElem_eq_iff (h : IsOrder key rows l) {i : ℕ} (hi : i < l.length) (t : κ) :
    key l[i] = t ↔ rows.countP (above key t) ≤ i ∧ i < rows.countP (atLeast key t) := by
  have habove := getElem_iff_lt_countP (h.pairwise_above t) hi
  have hatLeast := getElem_iff_lt_countP (h.pairwise_atLeast t) hi
  rw [h.perm.countP_eq, above, decide_eq_true_iff] at habove
  rw [h.perm.countP_eq, atLeast, decide_eq_true_iff] at hatLeast
  rw [← not_lt, ← habove, ← hatLeast, not_lt, and_comm]
  exact ⟨fun heq => ⟨heq.ge, heq.le⟩, fun ⟨hge, hle⟩ => le_antisymm hle hge⟩

end IsOrder

/-- If no key lies across position `m`, every list a query may return has the same rows before
it. -/
theorem perm_take_of_not_straddles {l l' : List α} (h : IsOrder key rows l)
    (h' : IsOrder key rows l') {m : ℕ} (hm : ∀ t, ¬ Straddles key rows t m) :
    (l.take m).Perm (l'.take m) := by
  by_cases hlen : m < l.length
  · -- the rows before `m` are those with a key above that of the row at `m`
    have hcounts := (h.key_getElem_eq_iff hlen (key l[m])).mp rfl
    have hcut : rows.countP (above key (key l[m])) = m := by
      have hnot := hm (key l[m])
      simp only [Straddles, not_and] at hnot
      omega
    have htake : ∀ {l'' : List α}, IsOrder key rows l'' →
        l''.take m = l''.filter (above key (key l[m])) := by
      intro l'' h''
      have hfilter := take_countP_eq_filter (h''.pairwise_above (key l[m]))
      rwa [h''.perm.countP_eq, hcut] at hfilter
    rw [htake h, htake h']
    exact (h.perm.trans h'.perm.symm).filter _
  · have hlen' : l'.length ≤ m := by
      rw [h'.length_eq, ← h.length_eq]
      exact not_lt.mp hlen
    rw [List.take_of_length_le (not_lt.mp hlen), List.take_of_length_le hlen']
    exact h.perm.trans h'.perm.symm

/-- Two neighbours of equal key may change places. -/
theorem IsOrder.swap {a b : α} {p s : List α} (h : IsOrder key rows (p ++ a :: b :: s))
    (hkey : key a = key b) : IsOrder key rows (p ++ b :: a :: s) where
  perm := ((List.Perm.swap a b s).append_left p).trans h.perm
  sorted := by
    obtain ⟨hp, htail, hcross⟩ := List.pairwise_append.mp h.sorted
    obtain ⟨ha, hb, hs⟩ := by simpa only [List.pairwise_cons] using htail
    refine List.pairwise_append.mpr ⟨hp, ?_, fun x hx y hy => hcross x hx y ?_⟩
    · refine List.pairwise_cons.mpr ⟨fun y hy => ?_, List.pairwise_cons.mpr ⟨fun y hy => ?_, hs⟩⟩
      · rcases List.mem_cons.mp hy with rfl | hy
        · exact hkey.le
        · exact hb y hy
      · exact ha y (List.mem_cons_of_mem _ hy)
    · exact (List.Perm.swap a b s).subset hy

/-- A list in which the row at position `i`, of the same key as the next, has moved one down. -/
theorem IsOrder.exists_swap {l : List α} (h : IsOrder key rows l) {i : ℕ}
    (hi : i + 1 < l.length) (hkey : key l[i] = key l[i + 1]) :
    ∃ l', IsOrder key rows l' ∧ l'[i + 1]? = some l[i] := by
  have hsplit : l = l.take i ++ l[i] :: l[i + 1] :: l.drop (i + 2) := by
    rw [List.getElem_cons_drop hi, List.getElem_cons_drop, List.take_append_drop]
  have hlen : (l.take i).length = i := by
    rw [List.length_take]
    omega
  have hsorted : IsOrder key rows (l.take i ++ l[i] :: l[i + 1] :: l.drop (i + 2)) := hsplit ▸ h
  refine ⟨_, hsorted.swap hkey, ?_⟩
  rw [List.getElem?_append_right (by omega), hlen, Nat.add_sub_cancel_left]
  rfl

/-- If the windows of separate queries never list a row twice, no key lies across the border of
two of them: otherwise the row before the border may come again behind it. -/
theorem not_straddles_of_nodup {n p : ℕ} (hp : rows.length ≤ p * n)
    (hcover : ∀ order : ℕ → List α, (∀ k, IsOrder key rows (order k)) →
      ((List.range p).flatMap fun k => window (order k) (k * n) n).Nodup) :
    ∀ t k, ¬ Straddles key rows t (k * n) := by
  obtain ⟨base, hbase⟩ := exists_isOrder key rows
  rintro t k ⟨habove, hatLeast⟩
  -- rows with key `t` stand at the last place of window `k - 1` and at the first of window `k`
  have hpos : 0 < k := Nat.pos_of_mul_pos_right (Nat.zero_lt_of_lt habove)
  have hn : 0 < n := Nat.pos_of_mul_pos_left (Nat.zero_lt_of_lt habove)
  obtain ⟨i, hi⟩ := Nat.exists_eq_succ_of_ne_zero (Nat.zero_lt_of_lt habove).ne'
  have hlen : i + 1 < base.length := by
    have hcount := List.countP_le_length (p := atLeast key t) (l := rows)
    rw [hbase.length_eq]
    omega
  have hlast := (hbase.key_getElem_eq_iff (Nat.lt_of_succ_lt hlen) t).mpr ⟨by omega, by omega⟩
  have hfirst := (hbase.key_getElem_eq_iff hlen t).mpr ⟨by omega, by omega⟩
  obtain ⟨swapped, hswapped, hmoved⟩ := hbase.exists_swap hlen (hlast.trans hfirst.symm)
  have hnodup := hcover (fun j => if j = k then swapped else base) fun j => by
    split_ifs
    exacts [hswapped, hbase]
  have hk : k < p := by
    have hcount := hbase.length_eq
    have hmul : k * n < p * n := by omega
    exact Nat.lt_of_mul_lt_mul_right hmul
  have hdisjoint := List.pairwise_iff_getElem.mp (List.nodup_flatMap.mp hnodup).2 (k - 1) k
    (by rw [List.length_range]; omega) (by rw [List.length_range]; exact hk) (by omega)
  simp only [List.getElem_range, Function.onFun, if_neg (show k - 1 ≠ k by omega),
    if_true] at hdisjoint
  have hborder : (k - 1) * n + n = i + 1 := by
    rw [← Nat.succ_mul, Nat.succ_eq_add_one, Nat.sub_add_cancel hpos, hi]
  exact hdisjoint
    (mem_window (by omega) (by omega) (List.getElem?_eq_getElem (Nat.lt_of_succ_lt hlen)))
    (mem_window (by omega) (by omega) hmoved)

/-- If no key lies across the border of two windows, the windows of separate queries list every
row exactly once. -/
theorem windows_perm {n p : ℕ} (hp : rows.length ≤ p * n)
    (hborders : ∀ t k, ¬ Straddles key rows t (k * n)) (order : ℕ → List α)
    (horder : ∀ k, IsOrder key rows (order k)) :
    ((List.range p).flatMap fun k => window (order k) (k * n) n).Perm rows := by
  obtain ⟨base, hbase⟩ := exists_isOrder key rows
  have hwindow : ∀ k, (window (order k) (k * n) n).Perm (window base (k * n) n) := by
    intro k
    have hbefore := perm_take_of_not_straddles (horder k) hbase fun t => hborders t k
    have hthrough := perm_take_of_not_straddles (horder k) hbase fun t => hborders t (k + 1)
    rw [Nat.succ_mul, List.take_add, List.take_add] at hthrough
    exact (List.perm_append_left_iff _).mp ((hbefore.symm.append_right _).trans hthrough)
  have hcover : ((List.range p).flatMap fun k => window base (k * n) n) = base := by
    rw [flatMap_range_window, List.take_of_length_le (hbase.length_eq.trans_le hp)]
  have hsame := List.Perm.flatMap_left (List.range p) fun k _ => hwindow k
  rw [hcover] at hsame
  exact hsame.trans hbase.perm

end ZubotIngestion.Store
