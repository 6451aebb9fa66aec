import Mathlib.Algebra.Order.Field.Basic
import Mathlib.Algebra.Order.Field.Rat
import Mathlib.Data.List.MinMax
import Mathlib.Data.List.ProdSigma
import Mathlib.Tactic.Linarith

/-!
# Matching blocks

How similar two sequences are, by the blocks they share: the longest block, and the blocks to its
left and to its right in the same way. A block is looked for among the elements that are not too
frequent in the second sequence, and then extended by whatever elements both sequences share.

## Main definitions

* `Block`, `findLongestMatch`: a block of both sequences.
* `matched`: how many elements are in blocks.
* `similarity`: the share of the elements that are.

## Main results

* `matched_le`: the blocks fit into both sequences.
* `similarity_nil_right`: nothing is similar to the empty sequence but itself.
* `similarity_mem`: a similarity is a number of the unit interval.
* `exists_sublist_matched`: what is in blocks is a common subsequence.
* `similarity_eq_one_iff`: only a sequence itself is as similar as possible.
-/

namespace ZubotIngestion.Text

variable {α : Type} [DecidableEq α]

/-- The length of the longest common prefix whose elements satisfy `p`. -/
def runLength (p : α → Bool) : List α → List α → ℕ
  | x :: a, y :: b => if x = y ∧ p y = true then runLength p a b + 1 else 0
  | _, _ => 0

theorem runLength_le (p : α → Bool) (a b : List α) :
    runLength p a b ≤ a.length ∧ runLength p a b ≤ b.length := by
  induction a generalizing b with
  | nil => exact ⟨Nat.zero_le _, Nat.zero_le _⟩
  | cons x a ih =>
    cases b with
    | nil => exact ⟨Nat.zero_le _, Nat.zero_le _⟩
    | cons y b =>
      rw [runLength]
      split_ifs
      · exact ⟨Nat.succ_le_succ (ih b).1, Nat.succ_le_succ (ih b).2⟩
      · exact ⟨Nat.zero_le _, Nat.zero_le _⟩

/-- The starts of the longest run that both sequences share: the first in the left one, and then
the first in the right one. -/
def longestRun (p : α → Bool) (a b : List α) : ℕ × ℕ :=
  ((List.range a.length ×ˢ List.range b.length).argmax fun start =>
    runLength p (a.drop start.1) (b.drop start.2)).getD (0, 0)

theorem longestRun_le (p : α → Bool) (a b : List α) :
    (longestRun p a b).1 ≤ a.length ∧ (longestRun p a b).2 ≤ b.length := by
  rw [longestRun]
  cases hstart : (List.range a.length ×ˢ List.range b.length).argmax fun start =>
      runLength p (a.drop start.1) (b.drop start.2) with
  | none => exact ⟨Nat.zero_le _, Nat.zero_le _⟩
  | some start =>
    obtain ⟨hleft, hright⟩ := List.mem_product.mp (List.argmax_mem hstart)
    exact ⟨(List.mem_range.mp hleft).le, (List.mem_range.mp hright).le⟩

/-- A block of two sequences: where it starts in each of them, and how long it is. -/
structure Block (a b : List α) where
  left : ℕ
  right : ℕ
  size : ℕ
  left_add_size_le : left + size ≤ a.length
  right_add_size_le : right + size ≤ b.length

/-- A run before two positions fits in front of them. -/
theorem runLength_reverse_take_le (p : α → Bool) (a b : List α) (i j : ℕ) :
    runLength p (a.take i).reverse (b.take j).reverse ≤ i ∧
      runLength p (a.take i).reverse (b.take j).reverse ≤ j := by
  obtain ⟨hleft, hright⟩ := runLength_le p (a.take i).reverse (b.take j).reverse
  rw [List.length_reverse, List.length_take] at hleft hright
  exact ⟨hleft.trans (min_le_left _ _), hright.trans (min_le_left _ _)⟩

/-- A run behind two positions fits between them and the ends. -/
theorem add_runLength_drop_le (p : α → Bool) {a b : List α} {i j : ℕ} (hi : i ≤ a.length)
    (hj : j ≤ b.length) : i + runLength p (a.drop i) (b.drop j) ≤ a.length ∧
      j + runLength p (a.drop i) (b.drop j) ≤ b.length := by
  obtain ⟨hleft, hright⟩ := runLength_le p (a.drop i) (b.drop j)
  rw [List.length_drop] at hleft hright
  omega

/-- The block around a start: a run without frequent elements, extended to both sides. -/
def extend (frequent : α → Bool) (a b : List α) (i j : ℕ) (hi : i ≤ a.length)
    (hj : j ≤ b.length) : Block a b :=
  let run := runLength (fun x => !frequent x) (a.drop i) (b.drop j)
  let before := runLength (fun _ => true) (a.take i).reverse (b.take j).reverse
  let behind := runLength (fun _ => true) (a.drop (i + run)) (b.drop (j + run))
  have hrun : i + run ≤ a.length ∧ j + run ≤ b.length := add_runLength_drop_le _ hi hj
  have hbefore : before ≤ i ∧ before ≤ j := runLength_reverse_take_le _ a b i j
  have hbehind : i + run + behind ≤ a.length ∧ j + run + behind ≤ b.length :=
    add_runLength_drop_le _ hrun.1 hrun.2
  { left := i - before
    right := j - before
    size := before + run + behind
    left_add_size_le := by omega
    right_add_size_le := by omega }

/-- The block around the longest run. -/
def findLongestMatch (frequent : α → Bool) (a b : List α) : Block a b :=
  extend frequent a b _ _ (longestRun_le (fun x => !frequent x) a b).1
    (longestRun_le (fun x => !frequent x) a b).2

/-- How many elements are in the longest block, and in the blocks to its left and right. -/
def matched (frequent : α → Bool) (a b : List α) : ℕ :=
  if (findLongestMatch frequent a b).size = 0 then 0
  else
    let block := findLongestMatch frequent a b
    matched frequent (a.take block.left) (b.take block.right) + block.size +
      matched frequent (a.drop (block.left + block.size)) (b.drop (block.right + block.size))
termination_by a.length
decreasing_by
  all_goals
    have hle := (findLongestMatch frequent a b).left_add_size_le
    simp only [List.length_take, List.length_drop]
    omega

/-- The blocks fit into both sequences. -/
theorem matched_le (frequent : α → Bool) (a b : List α) :
    matched frequent a b ≤ a.length ∧ matched frequent a b ≤ b.length := by
  fun_induction matched frequent a b with
  | case1 => exact ⟨Nat.zero_le _, Nat.zero_le _⟩
  | case2 a b hsize block ihleft ihright =>
    have hleft := block.left_add_size_le
    have hright := block.right_add_size_le
    simp only [List.length_take, List.length_drop] at ihleft ihright
    omega

/-- Whether an element is too frequent in a sequence to start a block: it makes up more than one in
a hundred of a sequence of at least two hundred. -/
def isPopular (b : List α) (x : α) : Bool :=
  decide (200 ≤ b.length ∧ b.length / 100 + 1 < b.count x)

/-- The share of the elements that are in blocks. -/
def similarity (a b : List α) : ℚ :=
  if a.length + b.length = 0 then 1
  else 2 * matched (isPopular b) a b / (a.length + b.length)

theorem similarity_nil_right {a : List α} (h : a ≠ []) : similarity a [] = 0 := by
  have hmatched : matched (isPopular []) a [] = 0 :=
    Nat.le_zero.mp (matched_le (isPopular []) a []).2
  have hlength : a.length + ([] : List α).length ≠ 0 := by
    rw [List.length_nil, Nat.add_zero]
    exact mt List.length_eq_zero_iff.mp h
  rw [similarity, if_neg hlength, hmatched, Nat.cast_zero, mul_zero, zero_div]

/-- A similarity is a number of the unit interval. -/
theorem similarity_mem (a b : List α) : 0 ≤ similarity a b ∧ similarity a b ≤ 1 := by
  rw [similarity]
  split_ifs with hlength
  · exact ⟨zero_le_one, le_rfl⟩
  · obtain ⟨hleft, hright⟩ := matched_le (isPopular b) a b
    have hsum : (2 * matched (isPopular b) a b : ℚ) ≤ a.length + b.length := by
      exact_mod_cast (by omega : 2 * matched (isPopular b) a b ≤ a.length + b.length)
    have hpos : (0 : ℚ) < a.length + b.length := by exact_mod_cast Nat.pos_of_ne_zero hlength
    exact ⟨div_nonneg (by positivity) hpos.le, (div_le_one hpos).mpr hsum⟩

/-! ### Blocks are common -/

theorem take_runLength (p : α → Bool) (a b : List α) :
    a.take (runLength p a b) = b.take (runLength p a b) := by
  induction a generalizing b with
  | nil => cases b <;> rfl
  | cons x a ih =>
    cases b with
    | nil => rfl
    | cons y b =>
      rw [runLength]
      split_ifs with h
      · rw [List.take_succ_cons, List.take_succ_cons, h.1, ih b]
      · rfl

section Blocks

omit [DecidableEq α]

/-- What stands at two places of two sequences is the same. -/
def SameAt (a b : List α) (i j n : ℕ) : Prop := (a.drop i).take n = (b.drop j).take n

theorem SameAt.add {a b : List α} {i j m n : ℕ} (h : SameAt a b i j m)
    (h' : SameAt a b (i + m) (j + m) n) : SameAt a b i j (m + n) := by
  rw [SameAt, List.take_add, List.take_add, List.drop_drop, List.drop_drop]
  exact congrArg₂ (· ++ ·) h h'

/-- What is taken from the three parts of a sequence. -/
theorem sublist_of_parts {l before behind : List α} {i n : ℕ} (hbefore : before.Sublist (l.take i))
    (hbehind : behind.Sublist (l.drop (i + n))) :
    (before ++ ((l.drop i).take n ++ behind)).Sublist l := by
  have hparts : l.take i ++ ((l.drop i).take n ++ l.drop (i + n)) = l := by
    rw [← List.drop_drop, List.take_append_drop, List.take_append_drop]
  have hsub := hbefore.append ((List.Sublist.refl ((l.drop i).take n)).append hbehind)
  rwa [hparts] at hsub

end Blocks

/-- A run before two positions. -/
theorem sameAt_before (p : α → Bool) {a b : List α} {i j : ℕ} (hi : i ≤ a.length)
    (hj : j ≤ b.length) : SameAt a b (i - runLength p (a.take i).reverse (b.take j).reverse)
      (j - runLength p (a.take i).reverse (b.take j).reverse)
      (runLength p (a.take i).reverse (b.take j).reverse) := by
  obtain ⟨hbefore, hbefore'⟩ := runLength_reverse_take_le p a b i j
  have hrun := take_runLength p (a.take i).reverse (b.take j).reverse
  rw [List.take_reverse, List.take_reverse, List.reverse_inj, List.length_take_of_le hi,
    List.length_take_of_le hj, List.drop_take, List.drop_take, Nat.sub_sub_self hbefore,
    Nat.sub_sub_self hbefore'] at hrun
  exact hrun

/-- A block is in both sequences. -/
theorem sameAt_extend (frequent : α → Bool) {a b : List α} {i j : ℕ} (hi : i ≤ a.length)
    (hj : j ≤ b.length) : SameAt a b (extend frequent a b i j hi hj).left
      (extend frequent a b i j hi hj).right (extend frequent a b i j hi hj).size := by
  obtain ⟨hbefore, hbefore'⟩ := runLength_reverse_take_le (fun _ => true) a b i j
  refine ((sameAt_before _ hi hj).add ?_).add ?_
  · rw [Nat.sub_add_cancel hbefore, Nat.sub_add_cancel hbefore']
    exact take_runLength _ _ _
  · rw [← Nat.add_assoc, ← Nat.add_assoc, Nat.sub_add_cancel hbefore,
      Nat.sub_add_cancel hbefore']
    exact take_runLength _ _ _

/-- The elements of the blocks are a common subsequence. -/
theorem exists_sublist_matched (frequent : α → Bool) (a b : List α) :
    ∃ c : List α, c.Sublist a ∧ c.Sublist b ∧ c.length = matched frequent a b := by
  fun_induction matched frequent a b with
  | case1 a b => exact ⟨[], List.nil_sublist a, List.nil_sublist b, rfl⟩
  | case2 a b hsize block ihleft ihright =>
    obtain ⟨before, hbefore, hbefore', hlength⟩ := ihleft
    obtain ⟨behind, hbehind, hbehind', hlength'⟩ := ihright
    have hsame : SameAt a b block.left block.right block.size := sameAt_extend frequent _ _
    have hblock : ((a.drop block.left).take block.size).length = block.size := by
      have hle := block.left_add_size_le
      rw [List.length_take, List.length_drop]
      omega
    refine ⟨before ++ ((a.drop block.left).take block.size ++ behind),
      sublist_of_parts hbefore hbehind, ?_, ?_⟩
    · rw [hsame]
      exact sublist_of_parts hbefore' hbehind'
    · rw [List.length_append, List.length_append, hblock, hlength, hlength', Nat.add_assoc]

/-! ### A sequence and itself -/

theorem runLength_le_self (p : α → Bool) (a b : List α) :
    runLength p a b ≤ runLength p a a ∧ runLength p a b ≤ runLength p b b := by
  induction a generalizing b with
  | nil => exact ⟨Nat.zero_le _, Nat.zero_le _⟩
  | cons x a ih =>
    cases b with
    | nil => exact ⟨Nat.zero_le _, Nat.zero_le _⟩
    | cons y b =>
      simp only [runLength, true_and]
      by_cases h : x = y ∧ p y = true
      · obtain ⟨rfl, hp⟩ := h
        simpa only [hp, and_self, if_true, Nat.add_le_add_iff_right] using ih b
      · simp only [if_neg h, Nat.zero_le, and_self]

theorem runLength_true_self (a : List α) : runLength (fun _ => true) a a = a.length := by
  induction a with
  | nil => rfl
  | cons x a ih => rw [runLength, if_pos ⟨rfl, rfl⟩, ih, List.length_cons]

/-- Pairs of positions in the order in which they are tried. -/
theorem pairwise_product_range (m n : ℕ) : (List.range m ×ˢ List.range n).Pairwise
    fun s t => s.1 < t.1 ∨ s.1 = t.1 ∧ s.2 < t.2 := by
  refine List.pairwise_flatMap.mpr ⟨fun i _ => ?_, ?_⟩
  · exact List.pairwise_map.mpr (List.pairwise_lt_range.imp fun h => .inr ⟨rfl, h⟩)
  · refine List.pairwise_lt_range.imp fun h s hs t ht => ?_
    obtain ⟨_, -, rfl⟩ := List.mem_map.mp hs
    obtain ⟨_, -, rfl⟩ := List.mem_map.mp ht
    exact .inl h

/-- In an ordered list what comes first is not greater. -/
theorem eq_or_of_idxOf_le {R : α → α → Prop} {l : List α} (hl : l.Pairwise R) {x y : α}
    (hx : x ∈ l) (hy : y ∈ l) (h : l.idxOf x ≤ l.idxOf y) : x = y ∨ R x y := by
  rcases h.lt_or_eq with hlt | heq
  · have hrel := List.pairwise_iff_getElem.mp hl _ _ (List.idxOf_lt_length_of_mem hx)
      (List.idxOf_lt_length_of_mem hy) hlt
    rw [List.getElem_idxOf, List.getElem_idxOf] at hrel
    exact .inr hrel
  · exact .inl ((List.idxOf_inj hx).mp heq)

/-- The longest run that a sequence shares with itself starts at one place. -/
theorem longestRun_self (p : α → Bool) (a : List α) :
    (longestRun p a a).1 = (longestRun p a a).2 := by
  rw [longestRun]
  cases hstart : (List.range a.length ×ˢ List.range a.length).argmax fun start =>
      runLength p (a.drop start.1) (a.drop start.2) with
  | none => rfl
  | some start =>
    obtain ⟨hmem, -, hfirst⟩ := List.mem_argmax_iff.mp hstart
    obtain ⟨hleft, hright⟩ := List.mem_product.mp hmem
    obtain ⟨hle, hle'⟩ := runLength_le_self p (a.drop start.1) (a.drop start.2)
    -- both positions start a run with themselves that is as long
    have hleft' := eq_or_of_idxOf_le (pairwise_product_range _ _) hmem
      (List.mem_product.mpr ⟨hleft, hleft⟩) (hfirst _ (List.mem_product.mpr ⟨hleft, hleft⟩) hle)
    have hright' := eq_or_of_idxOf_le (pairwise_product_range _ _) hmem
      (List.mem_product.mpr ⟨hright, hright⟩)
      (hfirst _ (List.mem_product.mpr ⟨hright, hright⟩) hle')
    simp only [Prod.ext_iff] at hleft' hright'
    simp only [Option.getD_some]
    omega

/-- Around one place the block of a sequence with itself is the whole sequence. -/
theorem extend_self (frequent : α → Bool) (a : List α) {i j : ℕ} (hij : i = j) (hi : i ≤ a.length)
    (hj : j ≤ a.length) : (extend frequent a a i j hi hj).left = 0 ∧
      (extend frequent a a i j hi hj).right = 0 ∧
        (extend frequent a a i j hi hj).size = a.length := by
  subst hij
  have hrun := (add_runLength_drop_le (fun x => !frequent x) hi hi).1
  simp only [extend, runLength_true_self, List.length_reverse, List.length_take_of_le hi,
    List.length_drop]
  omega

/-- A sequence is one block with itself, however frequent its elements are. -/
theorem matched_self (frequent : α → Bool) (a : List α) : matched frequent a a = a.length := by
  obtain ⟨hleft, hright, hsize⟩ : (findLongestMatch frequent a a).left = 0 ∧
      (findLongestMatch frequent a a).right = 0 ∧
        (findLongestMatch frequent a a).size = a.length :=
    extend_self frequent a (longestRun_self _ a) _ _
  have hnil : matched frequent ([] : List α) [] = 0 :=
    Nat.le_zero.mp (matched_le frequent [] []).1
  rw [matched]
  split_ifs with hzero
  · exact (hsize.symm.trans hzero).symm
  · simp only [hleft, hright, hsize, List.take_zero, Nat.zero_add, List.drop_length, hnil,
      Nat.add_zero]

/-- Only a sequence itself is as similar as possible. -/
theorem similarity_eq_one_iff (a b : List α) : similarity a b = 1 ↔ a = b := by
  constructor
  · intro h
    rw [similarity] at h
    split_ifs at h with hlength
    · obtain ⟨ha, hb⟩ := Nat.add_eq_zero_iff.mp hlength
      rw [List.length_eq_zero_iff.mp ha, List.length_eq_zero_iff.mp hb]
    · have hpos : (a.length + b.length : ℚ) ≠ 0 := by exact_mod_cast hlength
      have hsum : 2 * matched (isPopular b) a b = a.length + b.length := by
        exact_mod_cast (div_eq_one_iff_eq hpos).mp h
      obtain ⟨hleft, hright⟩ := matched_le (isPopular b) a b
      obtain ⟨c, ha, hb, hc⟩ := exists_sublist_matched (isPopular b) a b
      exact (ha.eq_of_length (by omega)).symm.trans (hb.eq_of_length (by omega))
  · rintro rfl
    rw [similarity, matched_self]
    split_ifs with hlength
    · rfl
    · have hpos : (a.length + a.length : ℚ) ≠ 0 := by exact_mod_cast hlength
      rw [two_mul, div_self hpos]

end ZubotIngestion.Text
