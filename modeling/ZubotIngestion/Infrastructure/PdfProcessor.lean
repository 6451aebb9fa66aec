import ZubotIngestion.Python.Text
import ZubotIngestion.Text.Digits

/-!
# The text of a document

`PyMuPDFProcessor.extract_text` joins the texts of the pages, each behind a separator that numbers
it. A page whose text cannot be read counts as empty. Nothing in a page is escaped. The texts of
single pages come from `extract_page_text`, or for many pages at once from `extract_page_texts`,
which catches the failures that concern one page.

## Main definitions

* `pageSeparator`, `extractText`.
* `resolvePageIndex`, `extractPageText`, `extractPageTexts`.
* `pagesFrom`, `numberedPage`: the characters of the joined pages, and of one of them.

## Main results

* `toList_extractText`: the joined text, page by page.
* `length_extractText`: its length, if every page is empty.
* `lookup_extractPageTexts`: the texts of many pages are those of the single pages.
-/

namespace ZubotIngestion

/-! ### The processor -/

/-- `_PAGE_SEPARATOR.format(n=n)`. -/
def pageSeparator (n : ℕ) : String := "\n\n---PAGE " ++ toString n ++ "---\n\n"

/-- What `get_text` of a page contributes: nothing if it raises. -/
def textOfPage : Except PyException String → String
  | .ok text => text
  | .error _ => ""

/-- The loop of `extract_text`, from page `i` on. -/
def pageParts (i : ℕ) : List (Except PyException String) → List String
  | [] => []
  | page :: pages => pageSeparator i :: textOfPage page :: pageParts (i + 1) pages

/-- `extract_text` of an open document, given what `get_text` does on its pages. -/
def extractText (pages : List (Except PyException String)) : String :=
  String.join (pageParts 1 pages)

/-- `_resolve_page_index`. -/
def resolvePageIndex (pageNumber pageCount : ℤ) : Except PyException ℤ :=
  if pageCount ≤ 0 then .error (.error "PageNotFoundError" "PDF has no pages")
  else
    let idx := if pageNumber < 0 then pageCount + pageNumber else pageNumber
    if idx < 0 ∨ pageCount ≤ idx then
      .error (.error "PageNotFoundError"
        s!"Page {pageNumber} out of range (page_count={pageCount})")
    else .ok idx

/-- What `_open_document` gives: an exception, or what `load_page` and `get_text` do on the
pages. -/
abbrev OpenedDocument : Type := Except PyException (List (Except PyException String))

/-- The text of the page with an index; what `load_page` or `get_text` raises is caught. -/
def textOfIndex (pages : List (Except PyException String)) (idx : ℤ) : String :=
  (pages[idx.toNat]?.map textOfPage).getD ""

/-- `extract_page_text`: a page number out of range is an exception of its own. -/
def extractPageText (document : OpenedDocument) (pageNumber : ℤ) : Except PyException String := do
  let pages ← document
  let idx ← resolvePageIndex pageNumber pages.length
  return textOfIndex pages idx

/-- `results[page_number] = text`. -/
def setPageText : List (ℤ × String) → ℤ → String → List (ℤ × String)
  | [], pageNumber, text => [(pageNumber, text)]
  | (n, t) :: results, pageNumber, text =>
    if n = pageNumber then (n, text) :: results
    else (n, t) :: setPageText results pageNumber text

/-- What one turn of the loop of `extract_page_texts` stores for a page number: its `try` also
holds the resolution of the number. -/
def batchPageText (pages : List (Except PyException String)) (pageNumber : ℤ) : String :=
  match resolvePageIndex pageNumber pages.length with
  | .ok idx => textOfIndex pages idx
  | .error _ => ""

/-- `extract_page_texts`. -/
def extractPageTexts (document : OpenedDocument) (pageNumbers : List ℤ) :
    Except PyException (List (ℤ × String)) :=
  if pageNumbers = [] then .ok []
  else do
    let pages ← document
    return pageNumbers.foldl
      (fun results pageNumber => setPageText results pageNumber (batchPageText pages pageNumber)) []

/-! ### Single pages -/

theorem lookup_setPageText_self (results : List (ℤ × String)) (pageNumber : ℤ) (text : String) :
    (setPageText results pageNumber text).lookup pageNumber = some text := by
  induction results with
  | nil => simp [setPageText]
  | cons item results ih =>
    obtain ⟨n, t⟩ := item
    by_cases h : n = pageNumber
    · simp [setPageText, h]
    · simp [setPageText, h, ih, List.lookup_cons, beq_false_of_ne (Ne.symm h)]

theorem lookup_setPageText_of_ne {pageNumber pageNumber' : ℤ} (h : pageNumber ≠ pageNumber')
    (results : List (ℤ × String)) (text : String) :
    (setPageText results pageNumber text).lookup pageNumber' = results.lookup pageNumber' := by
  induction results with
  | nil => simp [setPageText, List.lookup_cons, beq_false_of_ne (Ne.symm h)]
  | cons item results ih =>
    obtain ⟨n, t⟩ := item
    by_cases hn : n = pageNumber
    · simp [setPageText, hn, List.lookup_cons, beq_false_of_ne (Ne.symm h)]
    · simp [setPageText, hn, List.lookup_cons, ih]

/-- Every page number that the loop has gone through is stored with its text. -/
theorem lookup_batch (pages : List (Except PyException String)) (pageNumbers : List ℤ)
    (results : List (ℤ × String)) {n : ℤ}
    (h : n ∈ pageNumbers ∨ results.lookup n = some (batchPageText pages n)) :
    (pageNumbers.foldl (fun results pageNumber =>
      setPageText results pageNumber (batchPageText pages pageNumber)) results).lookup n =
        some (batchPageText pages n) := by
  induction pageNumbers generalizing results with
  | nil => exact h.resolve_left List.not_mem_nil
  | cons pageNumber pageNumbers ih =>
    refine ih _ ?_
    by_cases hn : pageNumber = n
    · subst hn
      exact Or.inr (lookup_setPageText_self _ _ _)
    · rw [lookup_setPageText_of_ne hn]
      exact h.imp_left fun hmem => (List.mem_cons.mp hmem).resolve_left (Ne.symm hn)

/-- A number that cannot be resolved has no text, in the batch as for the single page. -/
theorem batchPageText_eq (pages : List (Except PyException String)) (pageNumber : ℤ) :
    batchPageText pages pageNumber = textOfPage (extractPageText (.ok pages) pageNumber) := by
  have hsingle : extractPageText (.ok pages) pageNumber =
      resolvePageIndex pageNumber pages.length >>= fun idx => .ok (textOfIndex pages idx) := rfl
  rw [batchPageText, hsingle]
  cases resolvePageIndex pageNumber pages.length <;> rfl

/-- The batch has the text of every page that is asked for; a failure counts as the empty one. -/
theorem lookup_extractPageTexts {document : OpenedDocument} {pageNumbers : List ℤ}
    {texts : List (ℤ × String)} (h : extractPageTexts document pageNumbers = .ok texts) {n : ℤ}
    (hn : n ∈ pageNumbers) :
    (texts.lookup n).getD "" = textOfPage (extractPageText document n) := by
  rw [extractPageTexts, if_neg (List.ne_nil_of_mem hn)] at h
  cases document with
  | error exc => cases h
  | ok pages =>
    obtain rfl := Except.ok.inj h
    rw [lookup_batch pages pageNumbers [] (Or.inl hn), Option.getD_some, batchPageText_eq]

/-- The batch raises only what opening the document raises, and then every single page does. -/
theorem extractPageText_of_batch_error {document : OpenedDocument} {pageNumbers : List ℤ}
    {exc : PyException} (h : extractPageTexts document pageNumbers = .error exc) (n : ℤ) :
    extractPageText document n = .error exc := by
  rw [extractPageTexts] at h
  split_ifs at h
  cases document with
  | error exc' =>
    obtain rfl := Except.error.inj h
    rfl
  | ok pages => cases h

/-! ### Page by page -/

/-- What stands before the number of a page, behind the empty line. -/
def pageToken : String := "---PAGE "

/-- What stands behind the number of a page. -/
def pageTail : String := "---\n\n"

/-- The characters of the joined pages, from page `i` on. -/
def pagesFrom (i : ℕ) : List (Except PyException String) → List Char
  | [] => []
  | page :: pages => (pageSeparator i).toList ++ (textOfPage page).toList ++ pagesFrom (i + 1) pages

theorem toList_pageSeparator (n : ℕ) : (pageSeparator n).toList =
    ['\n', '\n'] ++ pageToken.toList ++ (Nat.toDigits 10 n ++ pageTail.toList) := by
  have hfront : "\n\n---PAGE ".toList = ['\n', '\n'] ++ pageToken.toList := by
    rw [pageToken]
    rfl
  have hnumber : (toString n).toList = Nat.toDigits 10 n := Nat.toList_repr
  rw [pageSeparator, String.toList_append, String.toList_append, hfront, hnumber, pageTail,
    List.append_assoc]

/-- A page behind the token of its separator. -/
def numberedPage (n : ℕ) (page : Except PyException String) : List Char :=
  Nat.toDigits 10 n ++ pageTail.toList ++ (textOfPage page).toList

theorem pagesFrom_cons (i : ℕ) (page : Except PyException String)
    (pages : List (Except PyException String)) : pagesFrom i (page :: pages) =
      ['\n', '\n'] ++ pageToken.toList ++ (numberedPage i page ++ pagesFrom (i + 1) pages) := by
  rw [pagesFrom, toList_pageSeparator, numberedPage]
  simp only [List.append_assoc]

theorem pagesFrom_append (i : ℕ) (pages pages' : List (Except PyException String)) :
    pagesFrom i (pages ++ pages') = pagesFrom i pages ++ pagesFrom (i + pages.length) pages' := by
  induction pages generalizing i with
  | nil => rfl
  | cons page pages ih =>
    rw [List.cons_append, pagesFrom, ih, pagesFrom, List.length_cons, Nat.add_assoc i 1,
      Nat.add_comm 1]
    simp only [List.append_assoc]

theorem toList_join_pageParts (i : ℕ) (pages : List (Except PyException String)) :
    (String.join (pageParts i pages)).toList = pagesFrom i pages := by
  induction pages generalizing i with
  | nil => rfl
  | cons page pages ih =>
    rw [pageParts, String.join_cons, String.join_cons, String.toList_append, String.toList_append,
      ih, pagesFrom, List.append_assoc]

theorem toList_extractText (pages : List (Except PyException String)) :
    (extractText pages).toList = pagesFrom 1 pages :=
  toList_join_pageParts 1 pages

theorem extractText_ne_empty (page : Except PyException String)
    (pages : List (Except PyException String)) : extractText (page :: pages) ≠ "" := by
  intro h
  have htext := toList_extractText (page :: pages)
  rw [h, pagesFrom_cons] at htext
  exact List.cons_ne_nil _ _ htext.symm

theorem extractText_eq_empty {pages : List (Except PyException String)} :
    extractText pages = "" ↔ pages = [] := by
  cases pages with
  | nil => exact iff_of_true rfl rfl
  | cons page pages => exact iff_of_false (extractText_ne_empty page pages) (List.cons_ne_nil _ _)

/-! ### Empty pages -/

theorem length_pageSeparator (n : ℕ) :
    (pageSeparator n).toList.length = 15 + Text.digitCount 10 n := by
  have htoken : pageToken.toList.length = 8 := rfl
  have htail : pageTail.toList.length = 5 := rfl
  rw [toList_pageSeparator, List.length_append, List.length_append, List.length_append, htoken,
    htail, Text.digitCount]
  simp only [List.length_cons, List.length_nil]
  omega

/-- Only the separators are left of empty pages. -/
theorem length_pagesFrom {pages : List (Except PyException String)}
    (h : ∀ page ∈ pages, textOfPage page = "") (i : ℕ) :
    (pagesFrom i pages).length =
      15 * pages.length + ∑ k ∈ Finset.range pages.length, Text.digitCount 10 (k + i) := by
  induction pages generalizing i with
  | nil => rfl
  | cons page pages ih =>
    obtain ⟨hpage, hpages⟩ := List.forall_mem_cons.mp h
    have hshift : ∑ k ∈ Finset.range pages.length, Text.digitCount 10 (k + 1 + i) =
        ∑ k ∈ Finset.range pages.length, Text.digitCount 10 (k + (i + 1)) :=
      Finset.sum_congr rfl fun k _ => by rw [Nat.add_right_comm, Nat.add_assoc]
    rw [pagesFrom, List.length_append, List.length_append, length_pageSeparator, hpage,
      String.toList_empty, List.length_nil, ih hpages, List.length_cons, Finset.sum_range_succ',
      hshift, Nat.zero_add]
    omega

theorem le_length_extractText {pages : List (Except PyException String)}
    (h : ∀ page ∈ pages, textOfPage page = "") :
    15 * pages.length ≤ (extractText pages).length := by
  rw [← String.length_toList, toList_extractText, length_pagesFrom h]
  exact Nat.le_add_right _ _

/-- The length of what is extracted from `n` empty pages, with the repunit of as many digits as `n`
has. -/
theorem length_extractText {pages : List (Except PyException String)}
    (h : ∀ page ∈ pages, textOfPage page = "") :
    (extractText pages).length +
        ∑ d ∈ Finset.range (Text.digitCount 10 pages.length), 10 ^ d =
      15 * pages.length + Text.digitCount 10 pages.length * (pages.length + 1) := by
  rw [← String.length_toList, toList_extractText, length_pagesFrom h,
    ← Text.sum_digitCount (by norm_num) pages.length]
  omega

end ZubotIngestion
