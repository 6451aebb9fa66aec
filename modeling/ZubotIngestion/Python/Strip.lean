import ZubotIngestion.Python.Text

/-!
# Stripped texts

A text is stripped if there is no white space at its edges. Joining stripped texts that are not
empty gives a stripped text.

## Main results

* `strip_strip`, `strip_eq_self_iff`.
* `strip_intercalate`: joined texts.
-/

namespace ZubotIngestion

/-- Stripping text twice changes nothing. -/
theorem strip_strip (text : String) : strip (strip text) = strip text := by
  have hfront : ((text.toList.dropWhile isSpace).rdropWhile isSpace).dropWhile isSpace =
      (text.toList.dropWhile isSpace).rdropWhile isSpace := by
    rw [List.dropWhile_eq_self_iff]
    intro hl
    have hkept := List.rdropWhile_prefix (l := text.toList.dropWhile isSpace) isSpace
    rw [hkept.getElem hl]
    exact List.dropWhile_get_zero_not _ _ _
  rw [strip, strip, String.toList_ofList, hfront, List.rdropWhile_idempotent]

/-- There is no white space at the edges. -/
def BareEdges (text : List Char) : Prop :=
  (∀ c ∈ text.head?, isSpace c = false) ∧ ∀ c ∈ text.getLast?, isSpace c = false

theorem BareEdges.append {front back : List Char} (hfront : BareEdges front)
    (hback : BareEdges back) (hfront' : front ≠ []) (hback' : back ≠ []) (between : List Char) :
    BareEdges (front ++ between ++ back) := by
  constructor
  · rw [List.append_assoc, List.head?_append_of_ne_nil _ hfront']
    exact hfront.1
  · rw [List.getLast?_append_of_ne_nil _ hback']
    exact hback.2

theorem dropWhile_eq_self_iff_head? {text : List Char} :
    text.dropWhile isSpace = text ↔ ∀ c ∈ text.head?, isSpace c = false := by
  rw [List.dropWhile_eq_self_iff]
  cases text <;> simp

theorem rdropWhile_eq_self_iff_getLast? {text : List Char} :
    text.rdropWhile isSpace = text ↔ ∀ c ∈ text.getLast?, isSpace c = false := by
  rw [List.rdropWhile_eq_self_iff]
  rcases text.eq_nil_or_concat with rfl | ⟨front, c, rfl⟩ <;> simp

theorem strip_eq_self_iff {text : String} : strip text = text ↔ BareEdges text.toList := by
  rw [BareEdges, ← dropWhile_eq_self_iff_head?, ← rdropWhile_eq_self_iff_getLast?, strip,
    ← String.toList_inj, String.toList_ofList]
  constructor
  · intro h
    have hsuffix := List.dropWhile_suffix (l := text.toList) isSpace
    have hprefix := List.rdropWhile_prefix (l := text.toList.dropWhile isSpace) isSpace
    rw [h] at hprefix
    have hfront := hsuffix.eq_of_length (le_antisymm hsuffix.length_le hprefix.length_le)
    rw [hfront] at h
    exact ⟨hfront, h⟩
  · rintro ⟨hfront, hback⟩
    rw [hfront, hback]

/-- Stripped texts that are not empty make up a stripped text, which is empty only if there is no
text. -/
theorem bareEdges_intercalate (sep : List Char) {texts : List (List Char)} (hne : texts ≠ [])
    (h : ∀ text ∈ texts, BareEdges text ∧ text ≠ []) :
    BareEdges (sep.intercalate texts) ∧ sep.intercalate texts ≠ [] := by
  induction texts with
  | nil => exact absurd rfl hne
  | cons text texts ih =>
    obtain ⟨⟨htext, htext'⟩, hrest⟩ := List.forall_mem_cons.mp h
    cases texts with
    | nil =>
      rw [List.intercalate_singleton]
      exact ⟨htext, htext'⟩
    | cons next texts =>
      obtain ⟨hjoined, hjoined'⟩ := ih (List.cons_ne_nil _ _) hrest
      rw [List.intercalate_cons_cons]
      exact ⟨htext.append hjoined htext' hjoined' sep,
        List.append_ne_nil_of_right_ne_nil _ hjoined'⟩

theorem strip_intercalate (sep : String) {texts : List String}
    (h : ∀ text ∈ texts, strip text = text ∧ text ≠ "") :
    strip (sep.intercalate texts) = sep.intercalate texts := by
  rw [strip_eq_self_iff, String.toList_intercalate]
  by_cases hne : texts = []
  · rw [hne, BareEdges]
    simp
  · refine (bareEdges_intercalate _ (by simpa using hne) ?_).1
    intro chars hchars
    obtain ⟨text, htext, rfl⟩ := List.mem_map.mp hchars
    obtain ⟨hstrip, hempty⟩ := h text htext
    exact ⟨strip_eq_self_iff.mp hstrip, fun hnil => hempty (String.toList_eq_nil_iff.mp hnil)⟩

end ZubotIngestion
