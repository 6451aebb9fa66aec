import Mathlib.Data.String.Basic
import ZubotIngestion.Text.Replace

/-!
# Splitting at a separator

A text is cut at the occurrences of a separator, from the left. `Splits` says so for lists of
symbols, by the first occurrence and what is behind it; `String.splitOn` computes these pieces.

## Main definitions

* `Splits`: the pieces of a text.

## Main results

* `exists_splits`: every text has pieces.
* `Splits.not_infix`: no piece contains the separator.
* `Splits.intercalate_eq`: the pieces make up the text.
* `Splits.getLast?_eq`: the last piece, if the separator cannot reach over what is before it.
* `splitOn_of_splits`: the pieces are what `String.splitOn` returns.
-/

namespace ZubotIngestion.Text

section Splits

variable {α : Type}

/-- The pieces of a text that is cut at the occurrences of `sep`: the text itself if there is none,
and otherwise what is before the first occurrence, and the pieces of the rest. -/
inductive Splits (sep : List α) : List α → List (List α) → Prop
  | last {text : List α} (h : ¬ sep <:+: text) : Splits sep text [text]
  | cut {before rest : List α} {parts : List (List α)} (h : ¬ sep <:+: before ++ sep.dropLast)
      (hrest : Splits sep rest parts) : Splits sep (before ++ sep ++ rest) (before :: parts)

theorem prefix_dropLast (before sep rest : List α) :
    before ++ sep.dropLast <+: before ++ sep ++ rest := by
  rw [List.append_assoc]
  exact (List.prefix_append_right_inj before).mpr
    ((List.dropLast_prefix sep).trans (List.prefix_append sep rest))

/-- An occurrence at the front leaves no room before the first one. -/
theorem eq_nil_of_append_eq {sep rest before behind : List α}
    (h : ¬ sep <:+: before ++ sep.dropLast) (heq : sep ++ rest = before ++ sep ++ behind) :
    before = [] := by
  by_contra hne
  have hpos : 0 < before.length := List.length_pos_iff.mpr hne
  have hle : sep.length ≤ (before ++ sep.dropLast).length := by
    rw [List.length_append, List.length_dropLast]
    omega
  have hfront : sep <+: before ++ sep ++ behind := heq ▸ List.prefix_append sep rest
  exact h (List.prefix_of_prefix_length_le hfront (prefix_dropLast before sep behind) hle).isInfix

/-- A separator that occurs has a first occurrence. -/
theorem exists_first {sep : List α} (hsep : sep ≠ []) :
    ∀ {text : List α}, sep <:+: text →
      ∃ before rest, text = before ++ sep ++ rest ∧ ¬ sep <:+: before ++ sep.dropLast := by
  have hshort : ¬ sep <:+: sep.dropLast := by
    intro h
    have hle := h.length_le
    have hpos := List.length_pos_iff.mpr hsep
    rw [List.length_dropLast] at hle
    omega
  intro text
  induction text with
  | nil => exact fun h => absurd (List.infix_nil.mp h) hsep
  | cons x text ih =>
    intro h
    by_cases hprefix : sep <+: x :: text
    · obtain ⟨rest, hrest⟩ := hprefix
      exact ⟨[], rest, hrest.symm, hshort⟩
    · obtain ⟨before, rest, rfl, hbefore⟩ := ih ((List.infix_cons_iff.mp h).resolve_left hprefix)
      refine ⟨x :: before, rest, rfl, fun hinfix => ?_⟩
      rcases List.infix_cons_iff.mp hinfix with hfront | hbehind
      · -- an occurrence at the front would be one of the whole text
        exact hprefix (hfront.trans (prefix_dropLast (x :: before) sep rest))
      · exact hbefore hbehind

/-- Every text can be split. -/
theorem exists_splits {sep : List α} (hsep : sep ≠ []) (text : List α) :
    ∃ parts, Splits sep text parts := by
  by_cases h : sep <:+: text
  · obtain ⟨before, rest, htext, hbefore⟩ := exists_first hsep h
    have hshorter : rest.length < text.length := by
      have hpos := List.length_pos_iff.mpr hsep
      rw [htext, List.length_append, List.length_append]
      omega
    obtain ⟨parts, hparts⟩ := exists_splits hsep rest
    rw [htext]
    exact ⟨before :: parts, .cut hbefore hparts⟩
  · exact ⟨[text], .last h⟩
termination_by text.length

namespace Splits

variable {sep text : List α} {parts : List (List α)}

theorem ne_nil (h : Splits sep text parts) : parts ≠ [] := by
  cases h with
  | last => exact List.cons_ne_nil _ _
  | cut => exact List.cons_ne_nil _ _

/-- No piece contains the separator. -/
theorem not_infix (h : Splits sep text parts) : ∀ part ∈ parts, ¬ sep <:+: part := by
  induction h with
  | last h => exact List.forall_mem_singleton.mpr h
  | cut h _ ih =>
    refine List.forall_mem_cons.mpr ⟨fun hinfix => h ?_, ih⟩
    exact hinfix.trans (List.infix_append' [] _ _)

/-- The pieces with the separator in between make up the text. -/
theorem intercalate_eq (h : Splits sep text parts) : sep.intercalate parts = text := by
  induction h with
  | last h => exact List.intercalate_singleton
  | @cut before rest parts _ hrest ih =>
    obtain ⟨part, parts, rfl⟩ := List.exists_cons_of_ne_nil hrest.ne_nil
    rw [List.intercalate_cons_cons, ih]

/-- A text without the separator is its only piece. -/
theorem eq_singleton (h : Splits sep text parts) (htext : ¬ sep <:+: text) : parts = [text] := by
  cases h with
  | last => rfl
  | cut => exact absurd (List.infix_append _ _ _) htext

/-- The text behind the last occurrence is the last piece, if a symbol that is not in the separator
stands before this occurrence. -/
theorem getLast?_eq {x : α} (hx : x ∉ sep) {before rest : List α} (hrest : ¬ sep <:+: rest)
    (h : Splits sep text parts) (htext : text = before ++ x :: (sep ++ rest)) :
    parts.getLast? = some rest := by
  induction h generalizing before with
  | last h =>
    refine absurd ?_ h
    rw [htext]
    exact ⟨before ++ [x], rest, by simp⟩
  | @cut first behind parts hfirst hbehind ih =>
    have hlast : (first :: parts).getLast? = parts.getLast? := by
      obtain ⟨part, parts, rfl⟩ := List.exists_cons_of_ne_nil hbehind.ne_nil
      exact List.getLast?_cons_cons
    rw [hlast]
    rcases List.append_eq_append_iff.mp htext with ⟨gap, hbefore, hgap⟩ | ⟨gap, hfirst', hgap⟩
    · -- the symbol is behind the first occurrence
      exact ih hgap
    · cases gap with
      | nil => exact @ih [] hgap.symm
      | cons y gap =>
        obtain ⟨rfl, htail⟩ := List.cons.inj hgap
        rcases List.append_eq_append_iff.mp hfirst' with ⟨e, -, he⟩ | ⟨e, rfl, he⟩
        · -- the symbol would be in the separator
          exact absurd (he ▸ List.mem_append_right e List.mem_cons_self) hx
        · cases e with
          | nil => exact absurd (List.nil_append sep ▸ he ▸ List.mem_cons_self) hx
          | cons z e =>
            obtain ⟨rfl, rfl⟩ := List.cons.inj he
            have hnil : e = [] := by
              refine eq_nil_of_append_eq (fun hinfix => hfirst ?_) htail
              rw [List.append_cons, List.append_assoc]
              exact hinfix.trans (List.suffix_append (before ++ [x]) _).isInfix
            subst hnil
            have hrest' : rest = behind := List.append_cancel_left htail
            rw [hrest'] at hrest ⊢
            rw [hbehind.eq_singleton hrest, List.getLast?_singleton]

end Splits

end Splits

/-! ### The pieces of a string -/

section SplitOn

open String

/-- The position behind a list of characters. -/
def posAfter (cs : List Char) : Pos.Raw := ⟨utf8Len cs⟩

theorem get_posAfter (cs : List Char) (c : Char) (rest : List Char) :
    (posAfter cs).get (ofList (cs ++ c :: rest)) = c := by
  rw [posAfter, get_of_valid, List.headD_cons]

theorem next_posAfter (cs : List Char) (c : Char) (rest : List Char) :
    (posAfter cs).next (ofList (cs ++ c :: rest)) = posAfter (cs ++ [c]) := by
  rw [posAfter, next_of_valid, posAfter, utf8Len_append, utf8Len_cons, utf8Len_nil, Nat.zero_add]

theorem atEnd_posAfter (cs : List Char) : (posAfter cs).atEnd (ofList cs) = true := by
  have h := (atEnd_of_valid cs []).mpr rfl
  rwa [List.append_nil] at h

theorem not_atEnd_posAfter (cs : List Char) (c : Char) (rest : List Char) :
    ¬ (posAfter cs).atEnd (ofList (cs ++ c :: rest)) = true :=
  fun h => List.cons_ne_nil c rest ((atEnd_of_valid cs (c :: rest)).mp h)

theorem unoffsetBy_posAfter (cs piece : List Char) :
    (posAfter (cs ++ piece)).unoffsetBy (posAfter piece) = posAfter cs := by
  rw [posAfter, posAfter, posAfter, Pos.Raw.unoffsetBy, utf8Len_append, Nat.add_sub_cancel]

theorem extract_posAfter (before piece rest : List Char) :
    (posAfter before).extract (ofList (before ++ piece ++ rest)) (posAfter (before ++ piece)) =
      ofList piece := by
  rw [posAfter, posAfter, utf8Len_append, extract_of_valid]

/-! The steps of the scan: `start` is behind the piece that is read so far, and the symbols
`matched` behind it are the front of the separator. -/

section Steps

variable (b : Pos.Raw) (acc : List String)

theorem splitOnAux_end (sep : String) (j : Pos.Raw) (before piece : List Char) :
    splitOnAux (ofList (before ++ piece)) sep (posAfter before) (posAfter (before ++ piece)) j acc =
      (ofList piece :: acc).reverse := by
  have h := extract_posAfter before piece []
  rw [List.append_nil] at h
  rw [splitOnAux, if_pos (atEnd_posAfter _), h]

theorem splitOnAux_same (start matched more rest : List Char) (c d : Char) :
    splitOnAux (ofList (start ++ matched ++ c :: rest)) (ofList (matched ++ c :: d :: more)) b
        (posAfter (start ++ matched)) (posAfter matched) acc =
      splitOnAux (ofList (start ++ matched ++ c :: rest)) (ofList (matched ++ c :: d :: more)) b
        (posAfter (start ++ matched ++ [c])) (posAfter (matched ++ [c])) acc := by
  have hopen : ¬ (posAfter (matched ++ [c])).atEnd (ofList (matched ++ c :: d :: more)) = true := by
    have h := not_atEnd_posAfter (matched ++ [c]) d more
    rwa [List.append_assoc, List.singleton_append] at h
  conv_lhs => rw [splitOnAux]
  rw [if_neg (not_atEnd_posAfter _ _ _), get_posAfter, get_posAfter, if_pos (beq_self_eq_true c)]
  simp only [next_posAfter]
  rw [if_neg hopen]

theorem splitOnAux_match (before piece matched rest : List Char) (c : Char) :
    splitOnAux (ofList (before ++ piece ++ matched ++ c :: rest)) (ofList (matched ++ [c]))
        (posAfter before) (posAfter (before ++ piece ++ matched)) (posAfter matched) acc =
      splitOnAux (ofList (before ++ piece ++ matched ++ c :: rest)) (ofList (matched ++ [c]))
        (posAfter (before ++ piece ++ matched ++ [c]))
        (posAfter (before ++ piece ++ matched ++ [c])) 0 (ofList piece :: acc) := by
  have hpiece : (posAfter before).extract (ofList (before ++ piece ++ matched ++ c :: rest))
      ((posAfter (before ++ piece ++ matched ++ [c])).unoffsetBy (posAfter (matched ++ [c]))) =
        ofList piece := by
    have h := extract_posAfter before piece (matched ++ c :: rest)
    rw [List.append_assoc (before ++ piece) matched [c], unoffsetBy_posAfter]
    rwa [← List.append_assoc] at h
  conv_lhs => rw [splitOnAux]
  rw [if_neg (not_atEnd_posAfter _ _ _), get_posAfter, get_posAfter, if_pos (beq_self_eq_true c)]
  simp only [next_posAfter]
  rw [if_pos (atEnd_posAfter _), hpiece]

theorem splitOnAux_other (start matched more rest : List Char) {c d : Char} (hcd : c ≠ d) :
    splitOnAux (ofList (start ++ matched ++ c :: rest)) (ofList (matched ++ d :: more)) b
        (posAfter (start ++ matched)) (posAfter matched) acc =
      splitOnAux (ofList (start ++ matched ++ c :: rest)) (ofList (matched ++ d :: more)) b
        ((posAfter start).next (ofList (start ++ matched ++ c :: rest))) 0 acc := by
  conv_lhs => rw [splitOnAux]
  rw [if_neg (not_atEnd_posAfter _ _ _), get_posAfter, get_posAfter,
    if_neg (fun h => hcd (beq_iff_eq.mp h)), unoffsetBy_posAfter]

end Steps

section Runs

variable (acc : List String) (before : List Char) {sep : List Char}

/-- Where the separator does not begin, the scan goes on behind the next symbol, or it has reached
the end of the text in the middle of the separator. -/
theorem splitOnAux_of_not_prefix {x : Char} {text : List Char} (h : ¬ sep <+: x :: text)
    (piece : List Char) {matched unread more : List Char} (htext : x :: text = matched ++ unread)
    (hsep : sep = matched ++ more) :
    splitOnAux (ofList (before ++ piece ++ x :: text)) (ofList sep) (posAfter before)
        (posAfter (before ++ piece ++ matched)) (posAfter matched) acc =
      splitOnAux (ofList (before ++ piece ++ x :: text)) (ofList sep) (posAfter before)
        (posAfter (before ++ piece ++ [x])) 0 acc ∨
    x :: text <+: sep ∧
      splitOnAux (ofList (before ++ piece ++ x :: text)) (ofList sep) (posAfter before)
        (posAfter (before ++ piece ++ matched)) (posAfter matched) acc =
      (ofList (piece ++ x :: text) :: acc).reverse := by
  induction more generalizing matched unread with
  | nil =>
    refine absurd ?_ h
    rw [hsep, htext, List.append_nil]
    exact List.prefix_append matched unread
  | cons d more ih =>
    cases unread with
    | nil =>
      rw [List.append_nil] at htext
      refine Or.inr ⟨hsep ▸ htext ▸ List.prefix_append _ _, ?_⟩
      rw [← htext, List.append_assoc]
      exact splitOnAux_end acc _ _ before (piece ++ x :: text)
    | cons c unread =>
      by_cases hcd : c = d
      · subst hcd
        cases more with
        | nil =>
          refine absurd ?_ h
          rw [htext, hsep, List.append_cons matched c unread]
          exact List.prefix_append _ _
        | cons e more =>
          have hstep := splitOnAux_same (posAfter before) acc (before ++ piece) matched more unread
            c e
          rw [List.append_assoc (before ++ piece) matched (c :: unread), ← htext, ← hsep,
            List.append_assoc (before ++ piece) matched [c]] at hstep
          rw [hstep]
          exact ih (htext.trans (List.append_cons _ _ _)) (hsep.trans (List.append_cons _ _ _))
      · have hstep := splitOnAux_other (posAfter before) acc (before ++ piece) matched more unread
          hcd
        rw [List.append_assoc (before ++ piece) matched (c :: unread), ← htext, ← hsep,
          next_posAfter] at hstep
        exact Or.inl hstep

/-- Where the separator stands, the piece ends, and the next one begins behind the separator. -/
theorem splitOnAux_of_prefix (piece rest : List Char) {matched more : List Char} (hmore : more ≠ [])
    (hsep : sep = matched ++ more) :
    splitOnAux (ofList (before ++ piece ++ sep ++ rest)) (ofList sep) (posAfter before)
        (posAfter (before ++ piece ++ matched)) (posAfter matched) acc =
      splitOnAux (ofList (before ++ piece ++ sep ++ rest)) (ofList sep)
        (posAfter (before ++ piece ++ sep)) (posAfter (before ++ piece ++ sep)) 0
        (ofList piece :: acc) := by
  induction more generalizing matched with
  | nil => exact absurd rfl hmore
  | cons c more ih =>
    cases more with
    | nil =>
      have hstep := splitOnAux_match acc before piece matched rest c
      rw [List.append_cons, List.append_assoc (before ++ piece) matched [c], ← hsep] at hstep
      exact hstep
    | cons d more =>
      have hstep := splitOnAux_same (posAfter before) acc (before ++ piece) matched more
        (d :: more ++ rest) c d
      have htext : before ++ piece ++ matched ++ c :: (d :: more ++ rest) =
          before ++ piece ++ sep ++ rest := by
        rw [hsep]
        simp
      rw [htext, ← hsep, List.append_assoc (before ++ piece) matched [c]] at hstep
      rw [hstep]
      exact ih (List.cons_ne_nil _ _) (hsep.trans (List.append_cons _ _ _))

/-- A text without the separator is the last piece. -/
theorem splitOnAux_last {text : List Char} (h : ¬ sep <:+: text) (piece : List Char) :
    splitOnAux (ofList (before ++ piece ++ text)) (ofList sep) (posAfter before)
        (posAfter (before ++ piece)) 0 acc =
      (ofList (piece ++ text) :: acc).reverse := by
  induction text generalizing piece with
  | nil =>
    rw [List.append_nil, List.append_nil]
    exact splitOnAux_end acc _ _ before piece
  | cons x text ih =>
    rw [List.infix_cons_iff, not_or] at h
    have hstep := splitOnAux_of_not_prefix acc before h.1 piece (List.nil_append _).symm
      (List.nil_append _).symm
    rw [List.append_nil] at hstep
    rcases hstep with hnext | ⟨-, hend⟩
    · have hrest := ih h.2 (piece ++ [x])
      rw [← List.append_assoc before, ← List.append_cons, ← List.append_cons] at hrest
      exact hnext.trans hrest
    · exact hend

/-- The scan ends a piece at the first occurrence of the separator. -/
theorem splitOnAux_cut (hsep : sep ≠ []) (rest : List Char) {first : List Char}
    (h : ¬ sep <:+: first ++ sep.dropLast) (piece : List Char) :
    splitOnAux (ofList (before ++ piece ++ (first ++ sep ++ rest))) (ofList sep) (posAfter before)
        (posAfter (before ++ piece)) 0 acc =
      splitOnAux (ofList (before ++ piece ++ (first ++ sep ++ rest))) (ofList sep)
        (posAfter (before ++ piece ++ (first ++ sep)))
        (posAfter (before ++ piece ++ (first ++ sep))) 0 (ofList (piece ++ first) :: acc) := by
  induction first generalizing piece with
  | nil =>
    have hmatch := splitOnAux_of_prefix acc before piece rest hsep (List.nil_append sep).symm
    rw [List.append_nil, List.append_assoc (before ++ piece) sep rest] at hmatch
    rw [List.nil_append, List.append_nil]
    exact hmatch
  | cons x first ih =>
    have hprefix : ¬ sep <+: x :: (first ++ sep ++ rest) := by
      rintro ⟨behind, hbehind⟩
      exact List.cons_ne_nil x first (eq_nil_of_append_eq h hbehind)
    have hstep := splitOnAux_of_not_prefix acc before hprefix piece (List.nil_append _).symm
      (List.nil_append _).symm
    rw [List.append_nil] at hstep
    rcases hstep with hnext | ⟨hend, -⟩
    · have hrest := ih (fun hinfix => h (List.infix_cons hinfix)) (piece ++ [x])
      simp only [List.append_assoc, List.cons_append, List.nil_append] at hnext hrest ⊢
      exact hnext.trans hrest
    · have hle := hend.length_le
      rw [List.length_cons, List.length_append, List.length_append] at hle
      omega

/-- The scan ends every piece where the text is cut. -/
theorem splitOnAux_of_splits (hsep : sep ≠ []) {text : List Char} {parts : List (List Char)}
    (h : Splits sep text parts) :
    splitOnAux (ofList (before ++ text)) (ofList sep) (posAfter before) (posAfter before) 0 acc =
      acc.reverse ++ parts.map ofList := by
  induction h generalizing acc before with
  | @last text hlast =>
    have h := splitOnAux_last acc before hlast []
    rw [List.append_nil, List.nil_append] at h
    rw [h, List.reverse_cons, List.map_singleton]
  | @cut first rest parts hfirst _ ih =>
    have hcut := splitOnAux_cut acc before hsep rest hfirst []
    have hrest := ih (ofList first :: acc) (before ++ (first ++ sep))
    rw [List.append_nil, List.nil_append] at hcut
    rw [List.append_assoc before (first ++ sep) rest] at hrest
    rw [hcut, hrest, List.reverse_cons, List.append_assoc, List.singleton_append, List.map_cons]

end Runs

/-- `String.splitOn` cuts the text at the occurrences of the separator. -/
theorem splitOn_of_splits {text sep : String} (hsep : sep ≠ "") {parts : List (List Char)}
    (h : Splits sep.toList text.toList parts) : text.splitOn sep = parts.map ofList := by
  have hne : sep.toList ≠ [] := fun hnil => hsep (String.toList_eq_nil_iff.mp hnil)
  have hscan := splitOnAux_of_splits [] [] hne h
  rw [List.nil_append, String.ofList_toList, String.ofList_toList, List.reverse_nil,
    List.nil_append] at hscan
  rw [splitOn, if_neg (by simpa using hsep)]
  exact hscan

end SplitOn

end ZubotIngestion.Text
