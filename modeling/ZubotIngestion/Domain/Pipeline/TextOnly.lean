import ZubotIngestion.Domain.Pipeline.Companion
import ZubotIngestion.Infrastructure.PdfProcessor

/-!
# Documents without text

The companion generator skips a document of many pages with much text. It measures the text that
was extracted, separators included, and these alone are longer than the threshold in a document of
enough pages.

## Main results

* `threshold_lt_length_iff`: from which page count on the separators exceed the threshold.
* `isTextOnly_of_empty_iff`: just then a document of empty pages is taken for a text.
-/

namespace ZubotIngestion

variable {pages : List (Except PyException String)}

/-- The separators of 284 pages exceed the threshold, those of 283 pages do not. -/
theorem threshold_lt_length_iff (h : ∀ page ∈ pages, textOfPage page = "") :
    textOnlyThresholdChars < (extractText pages).length ↔ 283 < pages.length := by
  have hlength := length_extractText h
  have hle := le_length_extractText h
  rw [textOnlyThresholdChars]
  generalize pages.length = n at hlength hle ⊢
  rcases Nat.lt_or_ge n 1000 with hsmall | hlarge
  · -- up to three digits
    have hdigits : Text.digitCount 10 n ≤ 3 :=
      (Text.digitCount_le_iff (by norm_num) (by norm_num)).mpr hsmall
    have htwo : Text.digitCount 10 n ≤ 2 ↔ n < 100 :=
      Text.digitCount_le_iff (by norm_num) (by norm_num)
    have hpos := Text.digitCount_pos 10 n
    generalize Text.digitCount 10 n = digits at hlength hdigits htwo hpos
    have hcases : digits = 1 ∨ digits = 2 ∨ digits = 3 := by omega
    rcases hcases with rfl | rfl | rfl <;>
      simp only [Finset.sum_range_succ, Finset.sum_range_zero] at hlength <;> omega
  · -- fifteen characters for each page are enough
    omega

theorem isTextOnly_of_empty_iff (h : ∀ page ∈ pages, textOfPage page = "") :
    isTextOnly (some (extractText pages)) pages.length = true ↔ 283 < pages.length := by
  rw [isTextOnly, Bool.and_eq_true, decide_eq_true_eq, decide_eq_true_eq, threshold_lt_length_iff h,
    textOnlyThresholdPages]
  omega

/-- A document without any text is taken for a text just if it has more than 283 pages. -/
theorem not_isTextOnly_iff (h : ∀ page ∈ pages, textOfPage page = "") :
    isTextOnly (some (extractText pages)) pages.length = false ↔ pages.length ≤ 283 := by
  rw [← Bool.not_eq_true, isTextOnly_of_empty_iff h, not_lt]

/-- Two scanned pages, and one whose text layer cannot be read. -/
theorem not_isTextOnly_iff_scanned :
    isTextOnly (some (extractText [.ok "", .ok "", .error (.error "RuntimeError" "no text")])) 3 =
      false := by
  refine (not_isTextOnly_iff ?_).mpr (by norm_num)
  simp [textOfPage]

/-- A scanned set of 284 drawings is skipped. -/
theorem isTextOnly_scannedSet :
    isTextOnly (some (extractText (List.replicate 284 (.ok "")))) 284 = true := by
  have h : ∀ page ∈ List.replicate 284 (Except.ok "" : Except PyException String),
      textOfPage page = "" := by
    intro page hpage
    rw [List.eq_of_mem_replicate hpage, textOfPage]
  have hskipped := (isTextOnly_of_empty_iff h).mpr (by norm_num)
  rwa [List.length_replicate] at hskipped

/-- So the generator does not render every document that has no text. -/
theorem not_forall_not_isTextOnly : ¬ ∀ pages : List (Except PyException String),
    (∀ page ∈ pages, textOfPage page = "") →
      isTextOnly (some (extractText pages)) pages.length = false := by
  intro h
  have hnot := h (List.replicate 284 (.ok "")) fun page hpage => by
    rw [List.eq_of_mem_replicate hpage, textOfPage]
  rw [List.length_replicate, isTextOnly_scannedSet] at hnot
  exact Bool.noConfusion hnot

end ZubotIngestion
