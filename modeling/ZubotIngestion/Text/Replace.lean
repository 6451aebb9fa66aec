import Mathlib.Data.List.Infix

/-!
# Replacing a delimiter

`replaceAll old new` replaces the occurrences of `old` in a text from the left, as long as they do
not overlap. Where the first symbol of `old` stands only at its front and at that of `new`, and
`new` does not begin with `old` whatever follows it, no occurrence is left: neither the
replacements nor a replacement next to a kept piece can make up a new one.

## Main definitions

* `replaceAll`.

## Main results

* `not_infix_replaceAll`: the replaced text does not contain the delimiter.
* `infix_append_cons`: a delimiter without the separator `x` does not span a separator.
* `append_eq_append_iff_of_unique`: where a delimiter occurs, if it occurs neither before nor
  behind its own copy.
-/

namespace ZubotIngestion.Text

variable {α : Type}

section Replace

variable [DecidableEq α]

/-- The text with the occurrences of `old` replaced, from the left; the first `skip` symbols
belong to an occurrence that has been replaced already. -/
def replaceFrom (old new : List α) : ℕ → List α → List α
  | _, [] => []
  | skip + 1, _ :: text => replaceFrom old new skip text
  | 0, x :: text =>
    if old <+: x :: text then new ++ replaceFrom old new (old.length - 1) text
    else x :: replaceFrom old new 0 text

/-- `text.replace(old, new)`, where `old` is not empty. -/
def replaceAll (old new text : List α) : List α := replaceFrom old new 0 text

theorem replaceFrom_cons_of_not_isPrefix {old new text : List α} {x : α}
    (h : ¬ old <+: x :: text) :
    replaceFrom old new 0 (x :: text) = x :: replaceFrom old new 0 text :=
  if_neg h

theorem replaceFrom_cons_of_isPrefix {old new text : List α} {x : α} (h : old <+: x :: text) :
    replaceFrom old new 0 (x :: text) = new ++ replaceFrom old new (old.length - 1) text :=
  if_pos h

/-- A text without the delimiter is kept. -/
theorem replaceAll_of_not_infix {old new text : List α} (h : ¬ old <:+: text) :
    replaceAll old new text = text := by
  rw [replaceAll]
  induction text with
  | nil => rfl
  | cons x text ih =>
    rw [List.infix_cons_iff, not_or] at h
    rw [replaceFrom_cons_of_not_isPrefix h.1, ih h.2]

end Replace

/-! ### Where a delimiter can begin -/

/-- A delimiter does not begin in a piece without its first symbol. -/
theorem infix_of_infix_append {c : α} {tail piece text : List α} (hpiece : c ∉ piece)
    (h : c :: tail <:+: piece ++ text) : c :: tail <:+: text := by
  induction piece with
  | nil => exact h
  | cons x piece ih =>
    rw [List.mem_cons, not_or] at hpiece
    rcases List.infix_cons_iff.mp h with h | h
    · exact absurd (List.cons_prefix_cons.mp h).1 hpiece.1
    · exact ih hpiece.2 h

theorem prefix_of_prefix_append_cons {d before after : List α} {x : α} (hd : x ∉ d)
    (h : d <+: before ++ x :: after) : d <+: before := by
  induction before generalizing d with
  | nil =>
    cases d with
    | nil => exact List.nil_prefix
    | cons y d => exact absurd (List.cons_prefix_cons.mp h).1 (List.ne_of_not_mem_cons hd).symm
  | cons y before ih =>
    cases d with
    | nil => exact List.nil_prefix
    | cons z d =>
      obtain ⟨hzy, htail⟩ := List.cons_prefix_cons.mp h
      exact List.cons_prefix_cons.mpr ⟨hzy, ih (List.not_mem_of_not_mem_cons hd) htail⟩

/-- A delimiter without the separator `x` lies on one side of it. -/
theorem infix_append_cons {d before after : List α} {x : α} (hd : x ∉ d)
    (h : d <:+: before ++ x :: after) : d <:+: before ∨ d <:+: after := by
  induction before with
  | nil =>
    rcases List.infix_cons_iff.mp h with h | h
    · exact .inl (@prefix_of_prefix_append_cons _ d [] after x hd h).isInfix
    · exact .inr h
  | cons y before ih =>
    rcases List.infix_cons_iff.mp h with h | h
    · exact .inl (@prefix_of_prefix_append_cons _ d (y :: before) after x hd h).isInfix
    · exact (ih h).imp_left fun h => h.trans (List.suffix_cons y before).isInfix

/-- Where a delimiter occurs, if it ends neither before the end of its copy behind `before` nor
begins behind the front of this copy. -/
theorem append_eq_append_iff_of_unique {d before after pre post : List α}
    (hleft : ¬ d <:+: before ++ d.dropLast) (hright : ¬ d <:+: d.tail ++ after) :
    before ++ d ++ after = pre ++ d ++ post ↔ pre = before ∧ post = after := by
  have hd : d ≠ [] := by
    rintro rfl
    exact hleft List.nil_infix
  have hpos : 0 < d.length := List.length_pos_iff.mpr hd
  constructor
  · intro heq
    have hlength := congrArg List.length heq
    simp only [List.length_append] at hlength
    rcases lt_trichotomy pre.length before.length with hlt | hlen | hgt
    · refine absurd ?_ hleft
      have hpre : pre ++ d <+: before ++ d.dropLast := by
        have hcopy : before ++ d.dropLast <+: before ++ d ++ after := by
          rw [List.append_assoc]
          exact (List.prefix_append_right_inj before).mpr
            (d.dropLast_prefix.trans (List.prefix_append d after))
        refine List.prefix_of_prefix_length_le (heq ▸ List.prefix_append (pre ++ d) post) hcopy ?_
        simp only [List.length_append, List.length_dropLast]
        omega
      exact (List.suffix_append pre d).isInfix.trans hpre.isInfix
    · obtain ⟨hfront, rfl⟩ := List.append_inj' heq (by omega)
      exact ⟨(List.append_inj hfront hlen.symm).1.symm, rfl⟩
    · refine absurd ?_ hright
      have hsuffix : d ++ post <:+ d.tail ++ after := by
        have hwhole : d ++ post <:+ before ++ d ++ after := by
          rw [heq, List.append_assoc]
          exact List.suffix_append pre (d ++ post)
        have hcopy : d.tail ++ after <:+ before ++ d ++ after := by
          rw [List.append_assoc]
          exact List.suffix_append_of_suffix (List.suffix_append_self_iff.mpr d.tail_suffix)
        refine List.suffix_of_suffix_length_le hwhole hcopy ?_
        simp only [List.length_append, List.length_tail]
        omega
      exact (List.prefix_append d post).isInfix.trans hsuffix.isInfix
  · rintro ⟨rfl, rfl⟩
    rfl

section Delimiters

variable [DecidableEq α] {c : α} {tail tail' : List α}

/-- What a replaced text begins with, apart from replacements, its text begins with. -/
theorem prefix_of_prefix_replaceFrom {u text : List α} (hu : c ∉ u)
    (h : u <+: replaceFrom (c :: tail) (c :: tail') 0 text) : u <+: text := by
  induction text generalizing u with
  | nil => exact h
  | cons x text ih =>
    by_cases hpre : c :: tail <+: x :: text
    · rw [replaceFrom_cons_of_isPrefix hpre, List.cons_append] at h
      cases u with
      | nil => exact List.nil_prefix
      | cons y u => exact absurd (List.cons_prefix_cons.mp h).1 (List.ne_of_not_mem_cons hu).symm
    · rw [replaceFrom_cons_of_not_isPrefix hpre] at h
      cases u with
      | nil => exact List.nil_prefix
      | cons y u =>
        obtain ⟨rfl, htail⟩ := List.cons_prefix_cons.mp h
        exact List.cons_prefix_cons.mpr ⟨rfl, ih (List.not_mem_of_not_mem_cons hu) htail⟩

/-- The replaced text does not contain the delimiter `c :: tail`. -/
theorem not_infix_replaceFrom (htail : c ∉ tail) (htail' : c ∉ tail')
    (hnew : ∀ rest, ¬ c :: tail <+: c :: tail' ++ rest) (skip : ℕ) (text : List α) :
    ¬ c :: tail <:+: replaceFrom (c :: tail) (c :: tail') skip text := by
  induction text generalizing skip with
  | nil => simp [replaceFrom]
  | cons x text ih =>
    cases skip with
    | succ skip => exact ih skip
    | zero =>
      by_cases hpre : c :: tail <+: x :: text
      · rw [replaceFrom_cons_of_isPrefix hpre]
        intro h
        rcases List.infix_cons_iff.mp h with h | h
        · exact hnew _ h
        · exact ih _ (infix_of_infix_append htail' h)
      · rw [replaceFrom_cons_of_not_isPrefix hpre]
        intro h
        rcases List.infix_cons_iff.mp h with h | h
        · obtain ⟨rfl, hrest⟩ := List.cons_prefix_cons.mp h
          exact hpre (List.cons_prefix_cons.mpr ⟨rfl, prefix_of_prefix_replaceFrom htail hrest⟩)
        · exact ih 0 h

theorem not_infix_replaceAll (htail : c ∉ tail) (htail' : c ∉ tail')
    (hnew : ∀ rest, ¬ c :: tail <+: c :: tail' ++ rest) (text : List α) :
    ¬ c :: tail <:+: replaceAll (c :: tail) (c :: tail') text :=
  not_infix_replaceFrom htail htail' hnew 0 text

end Delimiters

end ZubotIngestion.Text
