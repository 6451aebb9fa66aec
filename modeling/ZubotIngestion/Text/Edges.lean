import Mathlib.Data.List.DropRight

/-!
# Texts cut at their edges

What is dropped from the edges of a text while a test holds ends at a symbol that fails the test,
whatever stands behind that symbol; and the first or last place of a symbol is found by what stands
before or behind it.

## Main definitions

* `findSub?`: the first place of a text in another one.

## Main results

* `dropWhile_append_cons`, `rdropWhile_append_cons`: a symbol that is kept keeps the other side.
* `idxOf?_append_cons`, `idxOf?_reverse_append_cons`: the first and the last place of a symbol.
* `append_cons_inj_of_notMem_left`: the first place of a symbol cuts a text.
* `findSub?_append`: the first place of a text that begins with a new symbol.
-/

namespace ZubotIngestion.Text

variable {α : Type}

theorem dropWhile_append_cons {q : α → Bool} {c : α} (hc : q c = false) (before rest : List α) :
    (before ++ c :: rest).dropWhile q = before.dropWhile q ++ c :: rest := by
  have hrest : (c :: rest).dropWhile q = c :: rest :=
    List.dropWhile_cons_of_neg (by rw [hc]; exact Bool.false_ne_true)
  rw [List.dropWhile_append, hrest]
  split_ifs with hempty
  · rw [List.isEmpty_iff.mp hempty, List.nil_append]
  · rfl

theorem rdropWhile_append_cons {q : α → Bool} {c : α} (hc : q c = false) (rest after : List α) :
    (rest ++ c :: after).rdropWhile q = rest ++ c :: after.rdropWhile q := by
  rw [List.rdropWhile, List.reverse_append, List.reverse_cons, List.append_assoc,
    List.singleton_append, dropWhile_append_cons hc, List.reverse_append, List.reverse_cons,
    List.reverse_reverse, List.append_assoc, List.singleton_append, List.rdropWhile]

theorem idxOf?_append_cons [BEq α] [LawfulBEq α] {c : α} {before : List α} (hc : c ∉ before)
    (rest : List α) : (before ++ c :: rest).idxOf? c = some before.length := by
  induction before with
  | nil => rw [List.nil_append, List.idxOf?_cons, beq_self_eq_true, if_pos rfl, List.length_nil]
  | cons d before ih =>
    obtain ⟨hd, hbefore⟩ := List.ne_and_not_mem_of_not_mem_cons hc
    rw [List.cons_append, List.idxOf?_cons, ih hbefore, if_neg (by simpa using Ne.symm hd)]
    rfl

theorem idxOf?_reverse_append_cons [BEq α] [LawfulBEq α] {c : α} {after : List α} (hc : c ∉ after)
    (rest : List α) : (rest ++ c :: after).reverse.idxOf? c = some after.length := by
  rw [List.reverse_append, List.reverse_cons, List.append_assoc, List.singleton_append,
    idxOf?_append_cons (fun h => hc (List.mem_reverse.mp h)), List.length_reverse]

theorem notMem_getLast?_append {c : α} {back : List α} (hne : back ≠ []) (hc : c ∉ back)
    (front : List α) : c ∉ (front ++ back).getLast? := by
  rw [List.getLast?_append_of_ne_nil _ hne]
  exact fun h => hc (List.mem_of_mem_getLast? h)

/-- A text is cut at the first place of a symbol in one way only. -/
theorem append_cons_inj_of_notMem_left [BEq α] [LawfulBEq α] {c : α} {before before' : List α}
    (hc : c ∉ before) (hc' : c ∉ before') {rest rest' : List α} :
    before ++ c :: rest = before' ++ c :: rest' ↔ before = before' ∧ rest = rest' := by
  refine ⟨fun h => ?_, fun ⟨h, h'⟩ => h ▸ h' ▸ rfl⟩
  have hplace := congrArg (List.idxOf? c) h
  rw [idxOf?_append_cons hc, idxOf?_append_cons hc', Option.some_inj] at hplace
  obtain ⟨hbefore, hrest⟩ := List.append_inj h hplace
  exact ⟨hbefore, List.tail_eq_of_cons_eq hrest⟩

/-- The first place at which `sub` stands. -/
def findSub? [BEq α] (sub : List α) : List α → Option ℕ
  | [] => if sub.isEmpty then some 0 else none
  | c :: text => if sub.isPrefixOf (c :: text) then some 0 else (findSub? sub text).map (· + 1)

theorem findSub?_append [BEq α] [LawfulBEq α] {c : α} {before : List α} (hc : c ∉ before)
    (sub rest : List α) :
    findSub? (c :: sub) (before ++ (c :: sub ++ rest)) = some before.length := by
  induction before with
  | nil =>
    have hprefix : (c :: sub).isPrefixOf (c :: sub ++ rest) = true :=
      List.isPrefixOf_iff_prefix.mpr (List.prefix_append _ _)
    exact if_pos hprefix
  | cons d before ih =>
    obtain ⟨hd, hbefore⟩ := List.ne_and_not_mem_of_not_mem_cons hc
    have hprefix : ¬ (c :: sub).isPrefixOf (d :: (before ++ (c :: sub ++ rest))) = true := by
      rw [List.isPrefixOf_iff_prefix, List.cons_prefix_cons]
      exact fun h => hd h.1
    rw [List.cons_append, findSub?, if_neg hprefix, ih hbefore]
    rfl

end ZubotIngestion.Text
