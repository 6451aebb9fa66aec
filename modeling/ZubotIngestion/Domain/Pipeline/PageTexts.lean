import Mathlib.Data.Bool.AllAny
import ZubotIngestion.Domain.Pipeline.SentTexts
import ZubotIngestion.Infrastructure.PdfProcessor
import ZubotIngestion.Text.Split

/-!
# The first and the last page

The title extractor sends the text of the first and of the last page to the text model. It finds
them in the joined text by the separators, which nothing keeps out of the pages.
-/

namespace ZubotIngestion

open Effects String

/-! ### Behind the first separator -/

section AfterFirst

variable {sep text : String}

theorem afterFirst_of_absent (hsep : sep ≠ "") (h : ¬ sep.toList <:+: text.toList) :
    afterFirst sep text = text := by
  have hsplit := Text.splitOn_of_splits hsep (.last h)
  rw [afterFirst, hsplit, List.map_singleton]

theorem toList_afterFirst (hsep : sep ≠ "") {before rest : List Char}
    (htext : text.toList = before ++ sep.toList ++ rest)
    (hfirst : ¬ sep.toList <:+: before ++ sep.toList.dropLast) :
    (afterFirst sep text).toList = rest := by
  have hne : sep.toList ≠ [] := fun hnil => hsep (String.toList_eq_nil_iff.mp hnil)
  obtain ⟨parts, hparts⟩ := Text.exists_splits hne rest
  have hsplit := Text.splitOn_of_splits hsep (htext ▸ Text.Splits.cut hfirst hparts)
  have hjoin := hparts.intercalate_eq
  obtain ⟨part, parts, rfl⟩ := List.exists_cons_of_ne_nil hparts.ne_nil
  rw [afterFirst, hsplit, List.map_cons, List.map_cons]
  dsimp only
  rw [String.toList_intercalate, ← List.map_cons, List.map_map]
  have hid : String.toList ∘ String.ofList = id := funext fun _ => String.toList_ofList
  rw [hid, List.map_id, hjoin]

/-- What is behind the first separator is the end of the text. -/
theorem toList_afterFirst_suffix (hsep : sep ≠ "") (text : String) :
    (afterFirst sep text).toList <:+ text.toList := by
  by_cases h : sep.toList <:+: text.toList
  · have hne : sep.toList ≠ [] := fun hnil => hsep (String.toList_eq_nil_iff.mp hnil)
    obtain ⟨before, rest, htext, hfirst⟩ := Text.exists_first hne h
    rw [toList_afterFirst hsep htext hfirst, htext]
    exact List.suffix_append _ _
  · rw [afterFirst_of_absent hsep h]

end AfterFirst

/-! ### Where the token can stand -/

theorem pageToken_ne_empty : pageToken ≠ "" := by decide

theorem pageTail_ne_empty : pageTail ≠ "" := by decide

theorem newline_notMem_pageToken : '\n' ∉ pageToken.toList := by decide

/-- A token does not reach over a line break. -/
theorem pageToken_infix_of_newline {text : List Char} (h : pageToken.toList <:+: '\n' :: text) :
    pageToken.toList <:+: text := by
  rcases @Text.infix_append_cons _ _ [] text '\n' newline_notMem_pageToken h with hnil | htext
  · exact absurd (List.infix_nil.mp hnil) (by decide)
  · exact htext

theorem dash_notMem_toDigits (n : ℕ) : '-' ∉ Nat.toDigits 10 n := by
  intro h
  have hdigit := Nat.isDigit_of_mem_toDigits (by norm_num) (by norm_num) h
  exact absurd hdigit (by decide)

/-- The number and the rest of the separator do not make up a token with the text behind them. -/
theorem pageToken_infix_numberedPage {n : ℕ} {page : Except PyException String}
    (h : pageToken.toList <:+: numberedPage n page) :
    pageToken.toList <:+: (textOfPage page).toList := by
  have htoken : pageToken.toList = '-' :: ['-', '-', 'P', 'A', 'G', 'E', ' '] := by decide
  have htail : pageTail.toList = ['-', '-', '-'] ++ '\n' :: ['\n'] := by decide
  have hdashes : ¬ pageToken.toList <:+: ['-', '-', '-'] := by
    intro hinfix
    have hle := hinfix.length_le
    rw [htoken] at hle
    exact absurd hle (by decide)
  rw [numberedPage, List.append_assoc, htoken] at h
  have hbehind := Text.infix_of_infix_append (dash_notMem_toDigits n) h
  rw [← htoken, htail, List.append_assoc] at hbehind
  rcases Text.infix_append_cons newline_notMem_pageToken hbehind with hleft | hright
  · exact absurd hleft hdashes
  · exact pageToken_infix_of_newline hright

/-- Behind the number of a page and the rest of the separator is the text of the page. -/
theorem toList_afterFirst_numberedPage (n : ℕ) (page : Except PyException String)
    (behind : List Char) :
    (afterFirst pageTail (ofList (numberedPage n page ++ behind))).toList =
      (textOfPage page).toList ++ behind := by
  refine @toList_afterFirst pageTail _ pageTail_ne_empty (Nat.toDigits 10 n) _ ?_ ?_
  · rw [String.toList_ofList, numberedPage, List.append_assoc]
  · have htail : pageTail.toList = '-' :: ['-', '-', '\n', '\n'] := by decide
    intro h
    rw [htail] at h
    have hle := (Text.infix_of_infix_append (dash_notMem_toDigits n) h).length_le
    exact absurd hle (by decide)

/-! ### The first and the last page of a document -/

/-- The pieces of the joined text that the extractor looks at: those behind the first separator and
behind the last. -/
theorem toList_firstAndLastPageText {text : String} {lead first last : List Char}
    {parts : List (List Char)}
    (h : Text.Splits pageToken.toList text.toList (lead :: first :: parts))
    (hlast : parts.getLast? = some last) :
    (firstAndLastPageText text).toList =
      (afterFirst pageTail (ofList first)).toList ++ ['\n', '\n'] ++
        (afterFirst pageTail (ofList last)).toList := by
  have hsplit : text.splitOn "---PAGE " = (lead :: first :: parts).map ofList :=
    Text.splitOn_of_splits pageToken_ne_empty h
  rw [firstAndLastPageText, hsplit, List.map_cons, List.map_cons]
  dsimp only
  rw [List.getLast?_map, hlast, Option.map_some]
  dsimp only
  rw [String.toList_append, String.toList_append]
  rfl

/-- Something is kept of every text that is not empty. -/
theorem firstAndLastPageText_eq_empty {text : String} :
    firstAndLastPageText text = "" ↔ text = "" := by
  obtain ⟨parts, hsplits⟩ :=
    Text.exists_splits (show pageToken.toList ≠ [] by decide) text.toList
  have hsplit : text.splitOn "---PAGE " = parts.map ofList :=
    Text.splitOn_of_splits pageToken_ne_empty hsplits
  match parts, hsplits, hsplit with
  | [], hsplits, _ => exact absurd rfl hsplits.ne_nil
  | [_], _, hsplit => rw [firstAndLastPageText, hsplit, List.map_singleton]
  | [_, _], _, hsplit =>
    rw [firstAndLastPageText, hsplit, List.map_cons, List.map_singleton]
    rfl
  | lead :: first :: part :: parts, hsplits, _ =>
    have hlast := List.getLast?_eq_some_getLast (List.cons_ne_nil part parts)
    have htext := toList_firstAndLastPageText hsplits hlast
    refine iff_of_false (fun hempty => ?_) (fun hempty => ?_)
    · rw [hempty] at htext
      simp at htext
    · have hjoin := hsplits.intercalate_eq
      rw [hempty, List.intercalate_cons_cons] at hjoin
      simp [pageToken] at hjoin

/-- The text consists of the two texts and of white space. -/
def HoldsJust (text first last : String) : Prop :=
  ∃ before between behind : List Char,
    (∀ c ∈ before ++ between ++ behind, isSpace c = true) ∧
      text.toList = before ++ first.toList ++ between ++ last.toList ++ behind

section Document

variable (first : Except PyException String) (middle : List (Except PyException String))
  (last : Except PyException String)

/-- The front of the joined text: two separators, and the first page between them. -/
theorem exists_front : ∃ rest : List Char, (extractText (first :: middle ++ [last])).toList =
    ['\n', '\n'] ++ pageToken.toList ++
      (numberedPage 1 first ++ ['\n', '\n'] ++ pageToken.toList ++ rest) := by
  obtain ⟨second, pages, hpages⟩ : ∃ second pages, middle ++ [last] = second :: pages := by
    cases middle with
    | nil => exact ⟨last, [], rfl⟩
    | cons second middle => exact ⟨second, middle ++ [last], rfl⟩
  refine ⟨numberedPage 2 second ++ pagesFrom 3 pages, ?_⟩
  rw [toList_extractText, List.cons_append, hpages, pagesFrom_cons, pagesFrom_cons]
  simp only [List.append_assoc]

/-- The end of the joined text: the last separator, and the last page behind it. -/
theorem exists_end : ∃ before : List Char, (extractText (first :: middle ++ [last])).toList =
    before ++ '\n' :: (pageToken.toList ++ numberedPage (middle.length + 2) last) := by
  refine ⟨pagesFrom 1 (first :: middle) ++ ['\n'], ?_⟩
  rw [toList_extractText, pagesFrom_append, pagesFrom_cons (1 + _), List.length_cons,
    Nat.add_comm 1, Nat.add_assoc, pagesFrom]
  simp

theorem not_infix_lead : ¬ pageToken.toList <:+: ['\n', '\n'] ++ pageToken.toList.dropLast := by
  intro h
  have hle := (pageToken_infix_of_newline (pageToken_infix_of_newline h)).length_le
  exact absurd hle (by decide)

/-- The joined text is split into at least three pieces. -/
theorem exists_pieces : ∃ piece parts, parts ≠ [] ∧
    Text.Splits pageToken.toList (extractText (first :: middle ++ [last])).toList
      (['\n', '\n'] :: piece :: parts) := by
  obtain ⟨rest, hfront⟩ := exists_front first middle last
  have hne : pageToken.toList ≠ [] := by decide
  obtain ⟨piece, behind, hpiece, hfirst⟩ := Text.exists_first hne
    (List.infix_append (numberedPage 1 first ++ ['\n', '\n']) pageToken.toList rest)
  obtain ⟨parts, hparts⟩ := Text.exists_splits hne behind
  refine ⟨piece, parts, hparts.ne_nil, ?_⟩
  rw [hfront, hpiece]
  exact .cut not_infix_lead (.cut hfirst hparts)

/-- No token is sent. -/
theorem not_infix_firstAndLastPageText : ¬ pageToken.toList <:+:
    (firstAndLastPageText (extractText (first :: middle ++ [last]))).toList := by
  obtain ⟨piece, parts, hne, hsplits⟩ := exists_pieces first middle last
  have hlast := List.getLast?_eq_some_getLast hne
  have hnot := hsplits.not_infix
  intro h
  rw [toList_firstAndLastPageText hsplits hlast, List.append_assoc, List.cons_append,
    List.singleton_append] at h
  rcases Text.infix_append_cons newline_notMem_pageToken h with hleft | hright
  · refine hnot piece (by simp) (hleft.trans ?_)
    have hsuffix := toList_afterFirst_suffix pageTail_ne_empty (ofList piece)
    rw [String.toList_ofList] at hsuffix
    exact hsuffix.isInfix
  · refine hnot (parts.getLast hne) (by simp) ((pageToken_infix_of_newline hright).trans ?_)
    have hsuffix := toList_afterFirst_suffix pageTail_ne_empty (ofList (parts.getLast hne))
    rw [String.toList_ofList] at hsuffix
    exact hsuffix.isInfix

/-- Where neither page contains a token, both are sent. -/
theorem toList_firstAndLastPageText_of_absent
    (hfirst : ¬ pageToken.toList <:+: (textOfPage first).toList)
    (hlast : ¬ pageToken.toList <:+: (textOfPage last).toList) :
    (firstAndLastPageText (extractText (first :: middle ++ [last]))).toList =
      (textOfPage first).toList ++ ['\n', '\n', '\n', '\n'] ++ (textOfPage last).toList := by
  obtain ⟨rest, hfront⟩ := exists_front first middle last
  obtain ⟨before, hend⟩ := exists_end first middle last
  obtain ⟨parts, hparts⟩ := Text.exists_splits (show pageToken.toList ≠ [] by decide) rest
  have hpiece : ¬ pageToken.toList <:+:
      numberedPage 1 first ++ ['\n', '\n'] ++ pageToken.toList.dropLast := by
    intro h
    rw [List.append_assoc, List.cons_append] at h
    rcases Text.infix_append_cons newline_notMem_pageToken h with hleft | hright
    · exact hfirst (pageToken_infix_numberedPage hleft)
    · exact not_infix_lead (List.infix_cons hright)
  have hsplits := Text.Splits.cut not_infix_lead (.cut hpiece hparts)
  rw [← hfront] at hsplits
  have hgetLast := hsplits.getLast?_eq newline_notMem_pageToken
    (fun h => hlast (pageToken_infix_numberedPage h)) hend
  obtain ⟨part, parts, rfl⟩ := List.exists_cons_of_ne_nil hparts.ne_nil
  rw [List.getLast?_cons_cons, List.getLast?_cons_cons] at hgetLast
  have hbehind := toList_afterFirst_numberedPage (middle.length + 2) last []
  rw [List.append_nil, List.append_nil] at hbehind
  rw [toList_firstAndLastPageText hsplits hgetLast, toList_afterFirst_numberedPage, hbehind]
  simp only [List.append_assoc, List.cons_append, List.nil_append]

/-- The first and the last page are sent as they are just if neither contains a token. -/
theorem holdsJust_firstAndLastPageText_iff :
    HoldsJust (firstAndLastPageText (extractText (first :: middle ++ [last])))
        (textOfPage first) (textOfPage last) ↔
      ¬ pageToken.toList <:+: (textOfPage first).toList ∧
        ¬ pageToken.toList <:+: (textOfPage last).toList := by
  constructor
  · rintro ⟨before, between, behind, -, htext⟩
    have hnot := not_infix_firstAndLastPageText first middle last
    rw [htext] at hnot
    refine ⟨fun h => hnot (h.trans ?_), fun h => hnot (h.trans ?_)⟩
    · refine ⟨before, between ++ (textOfPage last).toList ++ behind, ?_⟩
      simp only [List.append_assoc]
    · exact List.infix_append _ _ _
  · rintro ⟨hfirst, hlast⟩
    refine ⟨[], ['\n', '\n', '\n', '\n'], [], List.all_iff_forall_prop.mp (by decide), ?_⟩
    rw [toList_firstAndLastPageText_of_absent first middle last hfirst hlast, List.nil_append,
      List.append_nil]

end Document

end ZubotIngestion
