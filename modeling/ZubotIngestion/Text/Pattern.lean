import Mathlib.Data.List.Basic
import Mathlib.Data.List.Infix
import Mathlib.Data.List.TakeWhile

/-!
# Patterns of repeated classes

A regular expression without alternatives is a list of classes of symbols, each with bounds for the
number of its repetitions. A backtracking engine tries the longest repetition of the first class
first, and gives symbols back as long as the rest does not match. It finds a match at a place if
there is one, and as it goes from left to right, the first place. Which of the matches of this
place it finds depends on the pattern; where each repetition ends at a symbol that it cannot
contain, it is the longest one.

## Main definitions

* `Repeat`, `Repeat.Fits`: a class with bounds, and what it may stand for.
* `greedy?`, `search?`: the match at the front of a text, and the first match in it.
* `Occurs`: a match somewhere in a text.
* `Bounded`: every repetition but the last ends where the symbols of its class end.
* `Matched`, `FirstLongest`: the texts of a pattern, and which of them is found in a text.

## Main results

* `search?_eq_none_iff`: the search finds a match iff there is one.
* `search?_leftmost`: it is one of the first place.
* `search?_firstLongest`: of a bounded pattern it is the longest one of this place.
-/

namespace ZubotIngestion.Text

variable {α : Type}

/-- A class of symbols that is repeated, at least and at most so many times. -/
structure Repeat (α : Type) where
  accepts : α → Bool
  least : ℕ
  /-- Without a value there is no bound. -/
  most : Option ℕ

namespace Repeat

/-- `x{n}`. -/
def exactly (n : ℕ) (accepts : α → Bool) : Repeat α := ⟨accepts, n, some n⟩

/-- The text is a repetition of the class. -/
structure Fits (r : Repeat α) (u : List α) : Prop where
  accepts : ∀ x ∈ u, r.accepts x = true
  least : r.least ≤ u.length
  most : ∀ m ∈ r.most, u.length ≤ m

variable (r : Repeat α) (text : List α)

/-- The length of the longest repetition at the front of a text. -/
def longest : ℕ :=
  let run := (text.takeWhile r.accepts).length
  r.most.elim run (min run)

/-- The lengths of the repetitions at the front of a text, the longest first. -/
def lengths : List ℕ :=
  (List.range (r.longest text + 1)).reverse.filter fun n => decide (r.least ≤ n)

variable {r text}

theorem le_longest_iff {n : ℕ} :
    n ≤ r.longest text ↔ n ≤ (text.takeWhile r.accepts).length ∧ ∀ m ∈ r.most, n ≤ m := by
  rw [longest]
  cases r.most with
  | none => simp
  | some most => exact Nat.le_min.trans (and_congr_right fun _ => by simp)

/-- Which of the first symbols all belong to the class. -/
theorem le_length_takeWhile_iff {q : α → Bool} {n : ℕ} (hn : n ≤ text.length) :
    n ≤ (text.takeWhile q).length ↔ ∀ x ∈ text.take n, q x = true := by
  induction text generalizing n with
  | nil => simp_all
  | cons y text ih =>
    cases n with
    | zero => simp
    | succ n =>
      by_cases hy : q y = true
      · simp [hy, ih (Nat.le_of_succ_le_succ hn)]
      · simp [hy]

theorem mem_lengths_iff {n : ℕ} (hn : n ≤ text.length) :
    n ∈ r.lengths text ↔ r.Fits (text.take n) := by
  have hlength : (text.take n).length = n := List.length_take_of_le hn
  simp only [lengths, List.mem_filter, List.mem_reverse, List.mem_range, Nat.lt_succ_iff,
    decide_eq_true_eq, le_longest_iff, le_length_takeWhile_iff hn]
  constructor
  · rintro ⟨⟨haccepts, hmost⟩, hleast⟩
    exact ⟨haccepts, hlength.symm ▸ hleast, hlength.symm ▸ hmost⟩
  · rintro ⟨haccepts, hleast, hmost⟩
    rw [hlength] at hleast hmost
    exact ⟨⟨haccepts, hmost⟩, hleast⟩

theorem le_length_of_mem_lengths {n : ℕ} (h : n ∈ r.lengths text) : n ≤ text.length := by
  rw [lengths, List.mem_filter, List.mem_reverse, List.mem_range] at h
  exact (le_longest_iff.mp (Nat.le_of_lt_succ h.1)).1.trans
    (List.takeWhile_prefix _).length_le

/-- The lengths are tried in descending order. -/
theorem pairwise_lengths (r : Repeat α) (text : List α) :
    (r.lengths text).Pairwise (· > ·) := by
  refine List.Pairwise.filter _ (List.pairwise_reverse.mpr ?_)
  exact List.pairwise_lt_range

end Repeat

/-! ### Matches -/

/-- The match of a pattern at the front of a text, one piece for each class. -/
def greedy? : List (Repeat α) → List α → Option (List (List α))
  | [], _ => some []
  | r :: rs, text =>
    (r.lengths text).findSome? fun n => (greedy? rs (text.drop n)).map (text.take n :: ·)

/-- The first match in a text. -/
def search? (rs : List (Repeat α)) : List α → Option (List (List α))
  | [] => greedy? rs []
  | x :: text => greedy? rs (x :: text) <|> search? rs text

/-- The pieces are repetitions of the classes, one by one. -/
abbrev Matches (rs : List (Repeat α)) (pieces : List (List α)) : Prop :=
  List.Forall₂ Repeat.Fits rs pieces

/-- The pieces match the pattern where they stand in the text, behind `before`. -/
structure Occurs (rs : List (Repeat α)) (text before : List α) (pieces : List (List α)) : Prop where
  matched : Matches rs pieces
  place : before ++ pieces.flatten <+: text

theorem greedy?_sound {rs : List (Repeat α)} {text : List α} {pieces : List (List α)}
    (h : greedy? rs text = some pieces) : Matches rs pieces ∧ pieces.flatten <+: text := by
  induction rs generalizing text pieces with
  | nil =>
    obtain rfl := Option.some.inj h
    exact ⟨.nil, List.nil_prefix⟩
  | cons r rs ih =>
    obtain ⟨n, hn, hrest⟩ := List.exists_of_findSome?_eq_some h
    obtain ⟨rest, hgreedy, rfl⟩ := Option.map_eq_some_iff.mp hrest
    obtain ⟨hmatch, after, hafter⟩ := ih hgreedy
    have hfits := (Repeat.mem_lengths_iff (Repeat.le_length_of_mem_lengths hn)).mp hn
    refine ⟨.cons hfits hmatch, after, ?_⟩
    rw [List.flatten_cons, List.append_assoc, hafter, List.take_append_drop]

/-- Backtracking does not miss a match. -/
theorem greedy?_complete {rs : List (Repeat α)} {pieces : List (List α)} (h : Matches rs pieces)
    {text : List α} (hplace : pieces.flatten <+: text) : (greedy? rs text).isSome := by
  induction h generalizing text with
  | nil => rfl
  | @cons r u rs pieces hfits _ ih =>
    obtain ⟨after, rfl⟩ := hplace
    rw [List.flatten_cons, List.append_assoc]
    have hmem : u.length ∈ r.lengths (u ++ (pieces.flatten ++ after)) := by
      rw [Repeat.mem_lengths_iff (by simp), List.take_left]
      exact hfits
    rw [greedy?, List.findSome?_isSome_iff]
    refine ⟨u.length, hmem, ?_⟩
    rw [Option.isSome_map, List.drop_left]
    exact ih (List.prefix_append _ _)

/-- Behind the first piece the rest of the pattern is matched. -/
theorem greedy?_tail {r : Repeat α} {rs : List (Repeat α)} {text u : List α}
    {pieces : List (List α)} (h : greedy? (r :: rs) text = some (u :: pieces)) :
    greedy? rs (text.drop u.length) = some pieces := by
  obtain ⟨n, hn, hrest⟩ := List.exists_of_findSome?_eq_some h
  obtain ⟨rest, hgreedy, hcons⟩ := Option.map_eq_some_iff.mp hrest
  obtain ⟨rfl, rfl⟩ := List.cons.inj hcons
  rw [List.length_take_of_le (Repeat.le_length_of_mem_lengths hn)]
  exact hgreedy

/-- The first piece is the longest one that a match can begin with. -/
theorem length_le_of_greedy? {r : Repeat α} {rs : List (Repeat α)} {text u u' : List α}
    {pieces pieces' : List (List α)} (h : greedy? (r :: rs) text = some (u :: pieces))
    (hmatch : Matches (r :: rs) (u' :: pieces')) (hplace : (u' :: pieces').flatten <+: text) :
    u'.length ≤ u.length := by
  obtain ⟨hfits, hrest⟩ := List.forall₂_cons.mp hmatch
  obtain ⟨after, rfl⟩ := hplace
  rw [List.flatten_cons, List.append_assoc] at h
  obtain ⟨longer, n, shorter, hlengths, hn, hlonger⟩ := List.findSome?_eq_some_iff.mp h
  obtain ⟨_, -, hcons⟩ := Option.map_eq_some_iff.mp hn
  obtain ⟨rfl, rfl⟩ := List.cons.inj hcons
  have hmem : n ∈ r.lengths (u' ++ (pieces'.flatten ++ after)) := by
    rw [hlengths]
    exact List.mem_append_right _ List.mem_cons_self
  have hmem' : u'.length ∈ r.lengths (u' ++ (pieces'.flatten ++ after)) := by
    rw [Repeat.mem_lengths_iff (by simp), List.take_left]
    exact hfits
  rw [List.length_take_of_le (Repeat.le_length_of_mem_lengths hmem)]
  have hsorted := r.pairwise_lengths (u' ++ (pieces'.flatten ++ after))
  rw [hlengths] at hmem' hsorted
  rcases List.mem_append.mp hmem' with hlong | hshort
  · -- a longer piece has been tried, and nothing was found behind it
    have hnone := hlonger _ hlong
    rw [Option.map_eq_none_iff, List.drop_left] at hnone
    have hsome := greedy?_complete hrest (List.prefix_append pieces'.flatten after)
    rw [hnone] at hsome
    cases hsome
  · rcases List.mem_cons.mp hshort with heq | hshort
    · exact heq.le
    · exact (List.rel_of_pairwise_cons (List.pairwise_append.mp hsorted).2.1 hshort).le

/-! ### Bounded patterns -/

/-- What follows the repetition begins with a symbol outside its class. -/
def Apart (r : Repeat α) (rs : List (Repeat α)) : Prop :=
  ∀ pieces, Matches rs pieces → ∃ x ∈ pieces.flatten.head?, r.accepts x = false

/-- A class that has to be there and has no symbol in common with the repetition. -/
theorem apart_cons {r r' : Repeat α} (hleast : 0 < r'.least)
    (hdisjoint : ∀ x, r'.accepts x = true → r.accepts x = false) (rs : List (Repeat α)) :
    Apart r (r' :: rs) := by
  intro pieces hmatch
  cases hmatch with
  | @cons _ u _ pieces hfits hrest =>
    cases u with
    | nil => exact absurd hfits.least (Nat.not_le.mpr hleast)
    | cons x u => exact ⟨x, rfl, hdisjoint x (hfits.accepts x List.mem_cons_self)⟩

/-- Every repetition but the last has a fixed length or ends where its class ends. -/
def Bounded : List (Repeat α) → Prop
  | [] => True
  | [_] => True
  | r :: r' :: rs => (r.most = some r.least ∨ Apart r (r' :: rs)) ∧ Bounded (r' :: rs)

/-- Of a bounded pattern the longest match of a place is found. -/
theorem greedy?_longest {rs : List (Repeat α)} (hbounded : Bounded rs) {text : List α}
    {pieces pieces' : List (List α)} (h : greedy? rs text = some pieces)
    (hmatch : Matches rs pieces') (hplace : pieces'.flatten <+: text) :
    pieces'.flatten.length ≤ pieces.flatten.length := by
  induction rs generalizing text pieces pieces' with
  | nil =>
    cases hmatch
    exact Nat.zero_le _
  | cons r rs ih =>
    obtain ⟨hfound, hfoundPlace⟩ := greedy?_sound h
    cases hmatch with
    | @cons _ u' _ pieces' hfits' hrest' =>
    cases hfound with
    | @cons _ u _ pieces hfits hrest =>
    have hle : u'.length ≤ u.length := length_le_of_greedy? h (.cons hfits' hrest') hplace
    cases rs with
    | nil =>
      cases hrest
      cases hrest'
      simpa using hle
    | cons r' rs =>
      have hlength : u'.length = u.length := by
        refine hle.antisymm (Nat.not_lt.mp fun hlt => ?_)
        rcases hbounded.1 with hfixed | hapart
        · have hmost := hfits.most _ hfixed
          have hleast := hfits'.least
          omega
        · -- the symbol behind the shorter piece is one of the longer piece
          obtain ⟨x, hx, hreject⟩ := hapart _ hrest'
          obtain ⟨after, hafter⟩ := hplace
          obtain ⟨after', hafter'⟩ := hfoundPlace
          have hget : text[u'.length]? = some x := by
            obtain ⟨tail, htail⟩ := List.head?_eq_some_iff.mp hx
            rw [← hafter, List.flatten_cons, htail]
            simp
          have hget' : text[u'.length]? = u[u'.length]? := by
            rw [← hafter', List.flatten_cons, List.append_assoc, List.getElem?_append_left hlt]
          have hmem : x ∈ u := List.mem_of_getElem? (hget'.symm.trans hget)
          exact Bool.false_ne_true (hreject.symm.trans (hfits.accepts x hmem))
      have hplace' : pieces'.flatten <+: text.drop u.length := by
        obtain ⟨after, rfl⟩ := hplace
        rw [List.flatten_cons, List.append_assoc, ← hlength, List.drop_left]
        exact List.prefix_append _ _
      have hrestLength := ih hbounded.2 (greedy?_tail h) hrest' hplace'
      rw [List.flatten_cons, List.flatten_cons, List.length_append, List.length_append, hlength]
      exact Nat.add_le_add_left hrestLength _

/-! ### The first match -/

/-- The match of the first place that has one. -/
theorem exists_of_search? {rs : List (Repeat α)} {text : List α} {pieces : List (List α)}
    (h : search? rs text = some pieces) : ∃ before rest, text = before ++ rest ∧
      greedy? rs rest = some pieces ∧
        ∀ before' pieces', Occurs rs text before' pieces' → before.length ≤ before'.length := by
  induction text with
  | nil => exact ⟨[], [], rfl, h, fun _ _ _ => Nat.zero_le _⟩
  | cons x text ih =>
    rw [search?] at h
    cases hhere : greedy? rs (x :: text) with
    | some found =>
      rw [hhere] at h
      exact ⟨[], x :: text, rfl, hhere.trans h, fun _ _ _ => Nat.zero_le _⟩
    | none =>
      rw [hhere] at h
      obtain ⟨before, rest, rfl, hgreedy, hfirst⟩ := ih h
      refine ⟨x :: before, rest, rfl, hgreedy, fun before' pieces' hoccurs => ?_⟩
      cases before' with
      | nil =>
        have hsome := greedy?_complete hoccurs.matched hoccurs.place
        rw [hhere] at hsome
        cases hsome
      | cons y before' =>
        obtain ⟨rfl, hplace⟩ := List.cons_prefix_cons.mp hoccurs.place
        exact Nat.succ_le_succ (hfirst before' pieces' ⟨hoccurs.matched, hplace⟩)

/-- What is found stands in the text, and no match begins before it. -/
theorem search?_leftmost {rs : List (Repeat α)} {text : List α} {pieces : List (List α)}
    (h : search? rs text = some pieces) :
    ∃ before, Occurs rs text before pieces ∧
      ∀ before' pieces', Occurs rs text before' pieces' → before.length ≤ before'.length := by
  obtain ⟨before, rest, rfl, hgreedy, hfirst⟩ := exists_of_search? h
  obtain ⟨hmatch, hplace⟩ := greedy?_sound hgreedy
  exact ⟨before, ⟨hmatch, (List.prefix_append_right_inj before).mpr hplace⟩, hfirst⟩

/-- The search finds a match iff there is one. -/
theorem isSome_search?_iff {rs : List (Repeat α)} {text : List α} :
    (search? rs text).isSome ↔ ∃ before pieces, Occurs rs text before pieces := by
  constructor
  · intro h
    obtain ⟨pieces, hpieces⟩ := Option.isSome_iff_exists.mp h
    obtain ⟨before, hoccurs, -⟩ := search?_leftmost hpieces
    exact ⟨before, pieces, hoccurs⟩
  · rintro ⟨before, pieces, hmatch, hplace⟩
    induction text generalizing before with
    | nil =>
      obtain ⟨-, hempty⟩ := List.append_eq_nil_iff.mp (List.prefix_nil.mp hplace)
      exact greedy?_complete hmatch (hempty ▸ List.nil_prefix)
    | cons x text ih =>
      rw [search?, Option.orElse_eq_orElse, Option.orElse_eq_or, Option.isSome_or, Bool.or_eq_true]
      cases before with
      | nil => exact Or.inl (greedy?_complete hmatch hplace)
      | cons y before => exact Or.inr (ih before (List.cons_prefix_cons.mp hplace).2)

/-! ### The texts of a pattern -/

/-- The texts that a pattern matches as a whole. -/
def Matched (rs : List (Repeat α)) (u : List α) : Prop :=
  ∃ pieces, Matches rs pieces ∧ pieces.flatten = u

@[simp] theorem matched_nil {u : List α} : Matched ([] : List (Repeat α)) u ↔ u = [] := by
  constructor
  · rintro ⟨_, ⟨⟩, rfl⟩
    rfl
  · rintro rfl
    exact ⟨[], .nil, rfl⟩

theorem matched_cons {r : Repeat α} {rs : List (Repeat α)} {u : List α} :
    Matched (r :: rs) u ↔ ∃ v w, u = v ++ w ∧ r.Fits v ∧ Matched rs w := by
  constructor
  · rintro ⟨_, hmatch, rfl⟩
    cases hmatch with
    | @cons _ v _ pieces hfits hrest =>
      exact ⟨v, pieces.flatten, List.flatten_cons, hfits, pieces, hrest, rfl⟩
  · rintro ⟨v, _, rfl, hfits, pieces, hrest, rfl⟩
    exact ⟨v :: pieces, .cons hfits hrest, List.flatten_cons⟩

theorem matches_cons {r : Repeat α} {rs : List (Repeat α)} {u : List α} {pieces : List (List α)} :
    Matches (r :: rs) (u :: pieces) ↔ r.Fits u ∧ Matches rs pieces := List.forall₂_cons

/-- A pattern in two parts matches piece by piece. -/
theorem matches_append_iff {rs rs' : List (Repeat α)} {pieces : List (List α)} :
    Matches (rs ++ rs') pieces ↔
      Matches rs (pieces.take rs.length) ∧ Matches rs' (pieces.drop rs.length) := by
  induction rs generalizing pieces with
  | nil => simp
  | cons r rs ih =>
    cases pieces with
    | nil => exact iff_of_false (fun h => nomatch h) fun h => nomatch h.1
    | cons u pieces =>
      rw [List.cons_append, List.length_cons, List.take_succ_cons, List.drop_succ_cons,
        matches_cons, matches_cons, ih, and_assoc]

theorem matched_append {rs rs' : List (Repeat α)} {u : List α} :
    Matched (rs ++ rs') u ↔ ∃ v w, u = v ++ w ∧ Matched rs v ∧ Matched rs' w := by
  induction rs generalizing u with
  | nil => simp
  | cons r rs ih =>
    simp only [List.cons_append, matched_cons, ih]
    constructor
    · rintro ⟨x, _, rfl, hx, y, z, rfl, hy, hz⟩
      exact ⟨x ++ y, z, (List.append_assoc x y z).symm, ⟨x, y, rfl, hx, hy⟩, hz⟩
    · rintro ⟨_, z, rfl, ⟨x, y, rfl, hx, hy⟩, hz⟩
      exact ⟨x, y ++ z, List.append_assoc x y z, hx, y, z, rfl, hy, hz⟩

/-- A text of the language stands in the text, at the first place that has one, and it is the
longest one there. -/
def FirstLongest (language : List α → Prop) (text u : List α) : Prop :=
  ∃ before, before ++ u <+: text ∧ language u ∧ ∀ before' u', before' ++ u' <+: text →
    language u' → before.length < before'.length ∨ before' = before ∧ u'.length ≤ u.length

/-- The search finds nothing iff no text of the pattern stands in the text. -/
theorem search?_eq_none_iff {rs : List (Repeat α)} {text : List α} :
    search? rs text = none ↔ ∀ u, Matched rs u → ¬ u <:+: text := by
  rw [← Option.not_isSome_iff_eq_none, isSome_search?_iff]
  constructor
  · rintro hnone _ ⟨pieces, hmatch, rfl⟩ ⟨before, after, rfl⟩
    exact hnone ⟨before, pieces, hmatch, List.prefix_append _ _⟩
  · rintro hnone ⟨before, pieces, hmatch, after, hafter⟩
    exact hnone _ ⟨pieces, hmatch, rfl⟩ ⟨before, after, hafter⟩

/-- Of a bounded pattern, the longest match of the first place is found. -/
theorem search?_firstLongest {rs : List (Repeat α)} (hbounded : Bounded rs) {text : List α}
    {pieces : List (List α)} (h : search? rs text = some pieces) :
    FirstLongest (Matched rs) text pieces.flatten := by
  obtain ⟨before, rest, rfl, hgreedy, hfirst⟩ := exists_of_search? h
  obtain ⟨hmatch, hplace⟩ := greedy?_sound hgreedy
  refine ⟨before, (List.prefix_append_right_inj before).mpr hplace, ⟨pieces, hmatch, rfl⟩, ?_⟩
  rintro before' _ hplace' ⟨pieces', hmatch', rfl⟩
  rcases (hfirst before' pieces' ⟨hmatch', hplace'⟩).lt_or_eq with hlt | heq
  · exact Or.inl hlt
  · have hprefix : before' <+: before ++ rest := (List.prefix_append _ _).trans hplace'
    obtain rfl : before = before' :=
      (List.prefix_of_prefix_length_le (List.prefix_append before rest) hprefix heq.le).eq_of_length
        heq
    exact Or.inr ⟨rfl, greedy?_longest hbounded hgreedy hmatch'
      ((List.prefix_append_right_inj before).mp hplace')⟩

end ZubotIngestion.Text
