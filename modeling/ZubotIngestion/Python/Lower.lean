import ZubotIngestion.Python.Text
import ZubotIngestion.Text.Context

/-!
# Lower case

`str.lower` maps every character by the Unicode tables, except for the capital sigma: it has a
lower-case form of its own at the end of a word, which depends on the cased characters around it.
The tables are a parameter. White space is neither cased nor ignored when the end of a word is
looked for, so a piece of a text between white space is lowered as if it stood alone.

## Main definitions

* `CaseTables`, `CaseTables.lower`.
* `contains`: `part in text`.

## Main results

* `CaseTables.contains_lower`: a stripped piece between white space is found again in the lowered
  text.
-/

namespace ZubotIngestion

open Text

/-- `part in text`. -/
def contains (part text : String) : Bool := decide (part.toList <:+: text.toList)

theorem contains_iff {part text : String} :
    contains part text = true ↔ part.toList <:+: text.toList := decide_eq_true_iff

/-- What `str.lower` reads of the Unicode tables. -/
structure CaseTables where
  /-- The lower-case mapping of a single character. -/
  lowerChar : Char → List Char
  /-- The property `Cased`. -/
  cased : Char → Bool
  /-- The property `Case_Ignorable`. -/
  caseIgnorable : Char → Bool
  cased_of_isSpace : ∀ c, isSpace c = true → cased c = false
  caseIgnorable_of_isSpace : ∀ c, isSpace c = true → caseIgnorable c = false

namespace CaseTables

variable (tables : CaseTables)

/-- Whether the first character that is not ignored is cased. -/
def nextCased (text : List Char) : Bool :=
  (text.dropWhile tables.caseIgnorable).head?.any tables.cased

/-- The lower-case form of a character in its context. What stands before it is given from back to
front. -/
def lowerIn (before : List Char) (c : Char) (after : List Char) : List Char :=
  if c = 'Σ' then
    [if tables.nextCased before && !tables.nextCased after then 'ς' else 'σ']
  else tables.lowerChar c

/-- `text.lower()`. -/
def lower (text : String) : String :=
  String.ofList (mapInContext tables.lowerIn [] text.toList)

theorem nextCased_append_cons {x : Char} (hx : isSpace x = true) (near far : List Char) :
    tables.nextCased (near ++ x :: far) = tables.nextCased near := by
  have hcased := tables.cased_of_isSpace x hx
  have hignorable := tables.caseIgnorable_of_isSpace x hx
  induction near with
  | nil => simp [nextCased, hcased, hignorable]
  | cons c near ih =>
    by_cases hc : tables.caseIgnorable c = true
    · simpa only [nextCased, List.cons_append, List.dropWhile_cons_of_pos hc] using ih
    · simp only [nextCased, List.cons_append, List.dropWhile_cons_of_neg hc, List.head?_cons]

/-- The lower-case form of a character does not depend on what is beyond white space. -/
theorem stops_lowerIn {x : Char} (hx : isSpace x = true) : Stops tables.lowerIn x where
  behind near far c after := by
    simp only [lowerIn, tables.nextCased_append_cons hx]
  ahead before c near far := by
    simp only [lowerIn, tables.nextCased_append_cons hx]

end CaseTables

/-! ### Stripped pieces -/

/-- A text is its stripped form between white space. -/
theorem exists_strip (text : String) : ∃ front back : List Char,
    text.toList = front ++ ((strip text).toList ++ back) ∧
      (∀ c ∈ front, isSpace c = true) ∧ ∀ c ∈ back, isSpace c = true := by
  refine ⟨text.toList.takeWhile isSpace,
    (text.toList.dropWhile isSpace).rtakeWhile isSpace, ?_, fun _ => List.mem_takeWhile_imp,
    fun _ => List.mem_rtakeWhile_imp⟩
  rw [strip, String.toList_ofList, List.rdropWhile_append_rtakeWhile,
    List.takeWhile_append_dropWhile]

/-- Where a text stands behind white space and before the end or white space, the lowered text
contains the lower-case form of the stripped text. -/
theorem CaseTables.contains_lower (tables : CaseTables) {text part : String}
    {before after : List Char} {x : Char} (hx : isSpace x = true)
    (htext : text.toList = before ++ x :: (part.toList ++ after))
    (hafter : ∀ y ∈ after.head?, isSpace y = true) :
    contains (tables.lower (strip part)) (tables.lower text) = true := by
  obtain ⟨front, back, hpart, hfront, hback⟩ := exists_strip part
  -- the last white space before the stripped part, and the first one behind it
  obtain ⟨before', y, hbefore⟩ : ∃ before' y, x :: front = before' ++ [y] :=
    ⟨_, _, (List.dropLast_append_getLast (List.cons_ne_nil x front)).symm⟩
  have hy : isSpace y = true := by
    have hmem : y ∈ x :: front := by simp [hbefore]
    rcases List.mem_cons.mp hmem with rfl | hmem
    · exact hx
    · exact hfront y hmem
  have hrest : ∀ z ∈ (back ++ after).head?, Stops tables.lowerIn z := by
    intro z hz
    refine tables.stops_lowerIn ?_
    cases back with
    | nil => exact hafter z hz
    | cons w back => exact hback z (List.mem_of_mem_head? hz)
  have hsplit : text.toList =
      (before ++ before') ++ y :: ((strip part).toList ++ (back ++ after)) :=
    calc text.toList
        = before ++ (x :: front) ++ ((strip part).toList ++ (back ++ after)) := by
          rw [htext, hpart]
          simp only [List.append_assoc, List.cons_append]
      _ = (before ++ before') ++ y :: ((strip part).toList ++ (back ++ after)) := by
          rw [hbefore]
          simp only [List.append_assoc, List.cons_append, List.nil_append]
  rw [contains_iff, CaseTables.lower, CaseTables.lower, String.toList_ofList,
    String.toList_ofList, hsplit]
  exact mapInContext_infix (tables.stops_lowerIn hy) _ _ hrest

/-- The tables on ASCII text. -/
def asciiTables : CaseTables where
  lowerChar c := [c.toLower]
  cased c := decide (65 ≤ c.toNat ∧ c.toNat ≤ 90) || decide (97 ≤ c.toNat ∧ c.toNat ≤ 122)
  caseIgnorable c := ['\'', '.', ':', '^', '`'].contains c
  cased_of_isSpace c hc := by
    simp [isSpace] at hc ⊢
    omega
  caseIgnorable_of_isSpace c hc := by
    have hmarks : ∀ mark ∈ ['\'', '.', ':', '^', '`'], isSpace mark = false := by
      simp [isSpace]
    by_contra hignorable
    have hmem : c ∈ ['\'', '.', ':', '^', '`'] :=
      List.contains_iff_mem.mp (Bool.not_eq_false _ ▸ hignorable)
    rw [hmarks c hmem] at hc
    cases hc

end ZubotIngestion
