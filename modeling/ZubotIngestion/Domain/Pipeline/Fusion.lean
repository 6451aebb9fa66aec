import Mathlib.Data.Fintype.Fin
import Mathlib.Data.List.ReduceOption
import Mathlib.Tactic.FinCases
import ZubotIngestion.Domain.Pipeline.Title
import ZubotIngestion.Python.Strip

/-!
# The fusion of sources

Two extractors fuse what their sources say: the drawing number by a vote of three sources, the
title by comparing two. Both are sound in the same sense. Without a source there is no result; the
result is what a source says; and a source that agrees with the result can join without changing it,
up to the comparison of the function, and without lowering the confidence.

## Main definitions

* `SoundFusion`: what is asked of a fusion.

## Main results

* `vote_of_majority`, `vote_of_noMajority`: the outcomes of the vote.
* `flattenStr_flattenStr`: flattening a title twice changes nothing.
* `fusion_sound`: both fusions are sound, and the vote follows the majority, or else the priority
  of the sources.
-/

namespace ZubotIngestion

/-! ### Sound fusions -/

/-- A sound fusion of the sources `ι`. `normal` is the normalised form of a source, which a blank
source has not; `compared` is what results are compared by, and `Scored` says which sources have an
admissible confidence. -/
structure SoundFusion {ι σ β κ : Type} [DecidableEq ι] (normal : σ → Option β)
    (compared : Option β → Option κ) (Scored : σ → Prop)
    (fuse : (ι → σ) → Option β × PyFloat) : Prop where
  none_iff (s : ι → σ) : (fuse s).1 = none ↔ ∀ i, normal (s i) = none
  zero (s : ι → σ) : (fuse s).1 = none → (fuse s).2 = 0
  mem (s : ι → σ) (value : β) : (fuse s).1 = some value → ∃ i, normal (s i) = some value
  join (s : ι → σ) (i : ι) (w : σ) : (∀ j, Scored (s j)) → Scored w → normal (s i) = none →
    compared (normal w) = compared (fuse s).1 →
      compared (fuse (Function.update s i w)).1 = compared (fuse s).1 ∧
        (fuse s).2 ≤ (fuse (Function.update s i w)).2

/-! ### Counting votes -/

theorem count_reduceOption (values : List (Option String)) (value : String) :
    values.reduceOption.count value = values.count (some value) := by
  induction values with
  | nil => rfl
  | cons v values ih =>
    cases v with
    | none =>
      rw [List.reduceOption_cons_of_none, ih,
        List.count_cons_of_ne (Option.some_ne_none value).symm]
    | some v =>
      rw [List.reduceOption_cons_of_some, List.count_cons, List.count_cons, ih]
      simp

/-- Two values do not have more votes than there are. -/
theorem count_add_count_le {a b : String} (h : a ≠ b) (candidates : List String) :
    candidates.count a + candidates.count b ≤ candidates.length := by
  induction candidates with
  | nil => exact Nat.le_refl 0
  | cons c candidates ih =>
    simp only [List.count_cons, List.length_cons, beq_iff_eq]
    split_ifs with ha hb
    · exact absurd (ha.symm.trans hb) h
    all_goals omega

/-- The most common value has as many votes as any. -/
theorem mostCommon_spec {candidates : List String} {value : String} {count : ℕ}
    (h : mostCommon candidates = some (value, count)) :
    value ∈ candidates ∧ count = candidates.count value ∧
      ∀ x ∈ candidates, candidates.count x ≤ count := by
  obtain ⟨winner, hwinner, hpair⟩ := Option.map_eq_some_iff.mp h
  obtain ⟨rfl, rfl⟩ := Prod.mk.inj hpair
  exact ⟨List.argmax_mem hwinner, rfl, fun x hx => List.le_of_mem_argmax hx hwinner⟩

theorem exists_mostCommon {candidates : List String} (h : candidates ≠ []) :
    ∃ value count, mostCommon candidates = some (value, count) := by
  cases hcommon : mostCommon candidates with
  | none =>
    exact absurd (List.argmax_eq_none.mp (Option.map_eq_none_iff.mp hcommon)) h
  | some winner => exact ⟨winner.1, winner.2, rfl⟩

theorem orStr_eq_or {a b : Option String} (ha : ∀ s, a = some s → s ≠ "") :
    orStr a b = a.or b := by
  cases a with
  | none => rfl
  | some s => exact if_neg (ha s rfl)

section Vote

variable {vision text filename : Option String}

/-- A value that at least two sources have wins. -/
theorem vote_of_majority {value : String}
    (h : 2 ≤ [vision, text, filename].count (some value)) :
    vote vision text filename = (some value,
      if [vision, text, filename].count (some value) = 3 then confidenceAllAgree
      else confidenceTwoOfThree) := by
  rw [← count_reduceOption] at h ⊢
  have hlength : [vision, text, filename].reduceOption.length ≤ 3 :=
    List.reduceOption_length_le [vision, text, filename]
  rw [vote]
  generalize [vision, text, filename].reduceOption = candidates at h hlength
  have hmem : value ∈ candidates := List.count_pos_iff.mp (by omega)
  obtain ⟨winner, count, hcommon⟩ := exists_mostCommon (List.ne_nil_of_mem hmem)
  obtain ⟨-, rfl, hmost⟩ := mostCommon_spec hcommon
  have hvotes := hmost value hmem
  obtain rfl : winner = value := by
    by_contra hne
    have hboth := count_add_count_le hne candidates
    omega
  have hle := List.count_le_length (a := winner) (l := candidates)
  rw [hcommon]
  dsimp only
  split_ifs with hall hthree hthree
  · rfl
  · exact absurd hall.2 hthree
  · exact absurd ⟨by omega, hthree⟩ hall
  · rfl

/-- Without a majority the first source that has a value wins. -/
theorem vote_of_noMajority (hvision : ∀ s, vision = some s → s ≠ "")
    (htext : ∀ s, text = some s → s ≠ "")
    (h : ∀ value, [vision, text, filename].count (some value) ≤ 1) :
    (vote vision text filename).1 = vision.or (text.or filename) ∧
      (vote vision text filename).2 ≤ confidenceTwoOfThree := by
  have hhead : [vision, text, filename].reduceOption.head? = vision.or (text.or filename) := by
    cases vision <;> cases text <;> cases filename <;> rfl
  have hfirst : orStr (orStr vision text) filename = vision.or (text.or filename) := by
    rw [orStr_eq_or (orStr_ne_empty hvision htext), orStr_eq_or hvision, Option.or_assoc]
  rw [vote]
  cases hcommon : mostCommon [vision, text, filename].reduceOption with
  | none =>
    have hnil := List.argmax_eq_none.mp (Option.map_eq_none_iff.mp hcommon)
    rw [hnil] at hhead
    exact ⟨hhead, PyFloat.fin_le_fin.mpr (by norm_num)⟩
  | some winner =>
    obtain ⟨value, count⟩ := winner
    obtain ⟨-, hcount, -⟩ := mostCommon_spec hcommon
    have hvotes := h value
    rw [← count_reduceOption, ← hcount] at hvotes
    dsimp only
    rw [if_neg (by omega), if_neg (by omega)]
    split_ifs
    · exact ⟨hhead, PyFloat.fin_le_fin.mpr (by norm_num)⟩
    · exact ⟨hfirst, PyFloat.fin_le_fin.mpr (by norm_num)⟩

end Vote

/-! ### The drawing number -/

/-- Two of three sources have a value iff it is counted at least twice. -/
theorem two_le_count_iff (a : Fin 3 → Option String) (x : Option String) :
    2 ≤ [a 0, a 1, a 2].count x ↔ ∃ i j, i ≠ j ∧ a i = x ∧ a j = x := by
  constructor
  · intro h
    by_cases h0 : a 0 = x <;> by_cases h1 : a 1 = x
    · exact ⟨0, 1, by decide, h0, h1⟩
    · refine ⟨0, 2, by decide, h0, ?_⟩
      by_contra h2
      simp [h0, h1, h2] at h
    · refine ⟨1, 2, by decide, h1, ?_⟩
      by_contra h2
      simp [h0, h1, h2] at h
    · exfalso
      simp [h0, h1, List.count_cons] at h
      split_ifs at h <;> omega
  · rintro ⟨i, j, hne, hi, hj⟩
    fin_cases i <;> fin_cases j <;> simp_all [List.count_cons]

/-- Not all sources have a value if one has none. -/
theorem count_le_two {a : Fin 3 → Option String} {i : Fin 3} (hi : a i = none) (value : String) :
    [a 0, a 1, a 2].count (some value) ≤ 2 := by
  fin_cases i <;> simp_all [List.count_cons] <;> split_ifs <;> omega

section DrawingNumber

variable (py : StrMethods) (s : Fin 3 → Option String)

/-- A value that two sources agree on wins, wherever they stand. -/
theorem fuseDrawingNumber_of_agree {i j : Fin 3} (hne : i ≠ j) {value : String}
    (hi : normalise py (s i) = some value) (hj : normalise py (s j) = some value) :
    (fuseDrawingNumber py (s 0) (s 1) (s 2)).1 = some value ∧
      confidenceTwoOfThree ≤ (fuseDrawingNumber py (s 0) (s 1) (s 2)).2 := by
  have hvotes := (two_le_count_iff (fun i => normalise py (s i)) (some value)).mpr
    ⟨i, j, hne, hi, hj⟩
  rw [fuseDrawingNumber, vote_of_majority hvotes]
  refine ⟨rfl, ?_⟩
  dsimp only
  split_ifs <;> exact PyFloat.fin_le_fin.mpr (by norm_num)

/-- Where no two agree, the first source that has a value wins. -/
theorem fuseDrawingNumber_of_disagree
    (h : ∀ i j value, i ≠ j → normalise py (s i) = some value → normalise py (s j) ≠ some value) :
    (fuseDrawingNumber py (s 0) (s 1) (s 2)).1 =
        (normalise py (s 0)).or ((normalise py (s 1)).or (normalise py (s 2))) ∧
      (fuseDrawingNumber py (s 0) (s 1) (s 2)).2 ≤ confidenceTwoOfThree := by
  refine vote_of_noMajority (normalise_ne_empty py _) (normalise_ne_empty py _) fun value => ?_
  by_contra hvotes
  obtain ⟨i, j, hne, hi, hj⟩ := (two_le_count_iff (fun i => normalise py (s i)) (some value)).mp
    (Nat.lt_of_not_le hvotes)
  exact h i j value hne hi hj

/-- Two sources agree, or no two do. -/
theorem agree_or_disagree :
    (∃ i j value, i ≠ j ∧ normalise py (s i) = some value ∧ normalise py (s j) = some value) ∨
      ∀ i j value, i ≠ j → normalise py (s i) = some value → normalise py (s j) ≠ some value := by
  by_cases h : ∃ i j value, i ≠ j ∧ normalise py (s i) = some value ∧
      normalise py (s j) = some value
  · exact Or.inl h
  · exact Or.inr fun i j value hne hi hj => h ⟨i, j, value, hne, hi, hj⟩

/-- No drawing number is found only if no source has one. -/
theorem fuseDrawingNumber_eq_none_iff :
    (fuseDrawingNumber py (s 0) (s 1) (s 2)).1 = none ↔ ∀ i, normalise py (s i) = none := by
  rcases agree_or_disagree py s with ⟨i, j, value, hne, hi, hj⟩ | h
  · rw [(fuseDrawingNumber_of_agree py s hne hi hj).1]
    refine iff_of_false (Option.some_ne_none value) fun hnone => ?_
    rw [hnone i] at hi
    cases hi
  · rw [(fuseDrawingNumber_of_disagree py s h).1, Option.or_eq_none_iff, Option.or_eq_none_iff]
    constructor
    · rintro ⟨h0, h1, h2⟩ i
      fin_cases i
      exacts [h0, h1, h2]
    · exact fun hnone => ⟨hnone 0, hnone 1, hnone 2⟩

/-- The drawing number is the normalised form of a source. -/
theorem exists_normalise_of_fuseDrawingNumber {value : String}
    (h : (fuseDrawingNumber py (s 0) (s 1) (s 2)).1 = some value) :
    ∃ i, normalise py (s i) = some value := by
  rcases agree_or_disagree py s with ⟨i, j, winner, hne, hi, hj⟩ | hdisagree
  · exact ⟨i, hi.trans ((fuseDrawingNumber_of_agree py s hne hi hj).1.symm.trans h)⟩
  · rw [(fuseDrawingNumber_of_disagree py s hdisagree).1, Option.or_eq_some_iff,
      Option.or_eq_some_iff] at h
    rcases h with h0 | ⟨-, h1 | ⟨-, h2⟩⟩
    exacts [⟨0, h0⟩, ⟨1, h1⟩, ⟨2, h2⟩]

/-- Only three sources that agree are surer than two. -/
theorem fuseDrawingNumber_le {i : Fin 3} (hi : normalise py (s i) = none) :
    (fuseDrawingNumber py (s 0) (s 1) (s 2)).2 ≤ confidenceTwoOfThree := by
  rcases agree_or_disagree py s with ⟨j, j', value, hne, hj, hj'⟩ | hdisagree
  · have hvotes := (two_le_count_iff (fun i => normalise py (s i)) (some value)).mpr
      ⟨j, j', hne, hj, hj'⟩
    have hmissing := count_le_two (a := fun i => normalise py (s i)) hi value
    rw [fuseDrawingNumber, vote_of_majority hvotes]
    dsimp only
    rw [if_neg (by omega)]
    exact PyFloat.fin_le_fin.mpr le_rfl
  · exact (fuseDrawingNumber_of_disagree py s hdisagree).2

/-- A source that agrees with the drawing number makes up a majority with the one it is from. -/
theorem soundFusion_drawingNumber :
    SoundFusion (normalise py) id (fun _ => True) fun s : Fin 3 → Option String =>
      fuseDrawingNumber py (s 0) (s 1) (s 2) where
  none_iff := fuseDrawingNumber_eq_none_iff py
  zero s hnone := by
    have hall := (fuseDrawingNumber_eq_none_iff py s).mp hnone
    rw [fuseDrawingNumber, hall 0, hall 1, hall 2]
    rfl
  mem s value := exists_normalise_of_fuseDrawingNumber py s
  join s i w _ _ hi hw := by
    simp only [id] at hw ⊢
    cases hresult : (fuseDrawingNumber py (s 0) (s 1) (s 2)).1 with
    | none =>
      -- no source has a value, and the new one has none either
      have hall := (fuseDrawingNumber_eq_none_iff py s).mp hresult
      have hupdate : ∀ j, normalise py (Function.update s i w j) = none := by
        intro j
        by_cases hj : j = i
        · rw [hj, Function.update_self, hw, hresult]
        · rw [Function.update_of_ne hj, hall j]
      refine ⟨(fuseDrawingNumber_eq_none_iff py _).mpr hupdate, ?_⟩
      simp only [fuseDrawingNumber, hall, hupdate]
      exact PyFloat.fin_le_fin.mpr le_rfl
    | some value =>
      obtain ⟨j, hj⟩ := exists_normalise_of_fuseDrawingNumber py s hresult
      have hne : j ≠ i := by
        rintro rfl
        rw [hi] at hj
        cases hj
      have hnew : normalise py (Function.update s i w i) = some value := by
        rw [Function.update_self, hw, hresult]
      have hold : normalise py (Function.update s i w j) = some value := by
        rw [Function.update_of_ne hne, hj]
      have hmajority := fuseDrawingNumber_of_agree py (Function.update s i w) hne hold hnew
      exact ⟨hmajority.1, PyFloat.le_trans (fuseDrawingNumber_le py s hi) hmajority.2⟩

end DrawingNumber

/-! ### Flattened titles -/

/-- White space is made up of single blanks. -/
structure Collapsed (text : List Char) : Prop where
  blank : ∀ c ∈ text, isSpace c = true → c = ' '
  single : text.IsChain fun c d => ¬ (isSpace c = true ∧ isSpace d = true)

theorem Collapsed.of_part {text part : List Char} (h : Collapsed text) (hpart : part <:+: text) :
    Collapsed part :=
  ⟨fun c hc => h.blank c (hpart.subset hc), List.IsChain.infix h.single hpart⟩

/-- What a run of white space is collapsed to. -/
theorem collapsed_collapseRuns (inRun : Bool) (text : List Char) :
    Collapsed (collapseRuns inRun text) ∧
      (inRun = true → ∀ c ∈ (collapseRuns inRun text).head?, isSpace c = false) := by
  induction text generalizing inRun with
  | nil => exact ⟨⟨fun c h => absurd h List.not_mem_nil, List.isChain_nil⟩, fun _ c h => by cases h⟩
  | cons c text ih =>
    rw [collapseRuns]
    split_ifs with hc hrun
    · exact ⟨(ih true).1, fun _ => (ih true).2 rfl⟩
    · refine ⟨⟨fun d hd hspace => ?_, ?_⟩, fun h => absurd h hrun⟩
      · rcases List.mem_cons.mp hd with rfl | hd
        · rfl
        · exact (ih true).1.blank d hd hspace
      · refine List.isChain_cons.mpr ⟨fun d hd hboth => ?_, (ih true).1.single⟩
        rw [(ih true).2 rfl d hd] at hboth
        exact Bool.false_ne_true hboth.2
    · refine ⟨⟨fun d hd hspace => ?_, ?_⟩, fun _ d hd => ?_⟩
      · rcases List.mem_cons.mp hd with rfl | hd
        · exact absurd hspace hc
        · exact (ih false).1.blank d hd hspace
      · exact List.isChain_cons.mpr ⟨fun d _ hboth => hc hboth.1, (ih false).1.single⟩
      · obtain rfl := Option.some.inj hd
        exact Bool.eq_false_iff.mpr hc

/-- Collapsed text is kept. -/
theorem Collapsed.collapseRuns_eq {text : List Char} (h : Collapsed text) (inRun : Bool)
    (hrun : inRun = true → ∀ c ∈ text.head?, isSpace c = false) :
    collapseRuns inRun text = text := by
  induction text generalizing inRun with
  | nil => rfl
  | cons c text ih =>
    have htail : Collapsed text := h.of_part (List.suffix_cons c text).isInfix
    have hnext := (List.isChain_cons.mp h.single).1
    rw [collapseRuns]
    by_cases hc : isSpace c = true
    · have hstart : inRun ≠ true := fun hin => by
        rw [hrun hin c rfl] at hc
        exact Bool.false_ne_true hc
      rw [if_pos hc, if_neg hstart, ih htail true fun _ d hd => ?_, h.blank c List.mem_cons_self hc]
      exact Bool.eq_false_iff.mpr fun hd' => hnext d hd ⟨hc, hd'⟩
    · rw [if_neg hc, ih htail false fun hfalse => absurd hfalse Bool.false_ne_true]

/-- Flattening a title twice changes nothing. -/
theorem flattenStr_flattenStr {text title : String} (h : flattenStr text = some title) :
    flattenStr title = some title := by
  obtain ⟨htitle, hne⟩ := orNone_eq_some_iff.mp h
  have hpart : title.toList <:+: collapseRuns false text.toList := by
    rw [← htitle, strip, String.toList_ofList, collapseWhitespace, String.toList_ofList]
    exact (List.rdropWhile_prefix _ _).isInfix.trans (List.dropWhile_suffix _).isInfix
  have hcollapsed := (collapsed_collapseRuns false text.toList).1.of_part hpart
  have hsame : collapseWhitespace title = title := by
    rw [collapseWhitespace, hcollapsed.collapseRuns_eq false fun h => absurd h Bool.false_ne_true,
      String.ofList_toList]
  rw [flattenStr, hsame]
  exact orNone_eq_some_iff.mpr ⟨by rw [← htitle, strip_strip], hne⟩

/-! ### The title -/

section Title

variable (py : StrMethods)

/-- The fusion of two strings does not raise. -/
theorem fuseTitle_ofOptionStr (vision text : Option String) (visionConf textConf : PyFloat) :
    fuseTitle py (.ofOptionStr vision) visionConf (.ofOptionStr text) textConf =
      .ok (reconcileTitles py (vision.bind flattenStr) visionConf (text.bind flattenStr)
        textConf) := by
  have hflatten (title : Option String) :
      flattenTitle (.ofOptionStr title) = .ok (title.bind flattenStr) := by
    cases title with
    | none => rfl
    | some title => rw [Option.bind_some, PyVal.ofOptionStr, flattenTitle]
  simp only [fuseTitle, hflatten, bind, Except.bind, pure, Except.pure]

/-- The comparison of titles that are flattened already. -/
def comparedTitle (title : Option String) : Option String := title.bind (normaliseForCompare py)

/-- The fusion of two sources, as their titles and confidences. -/
def fuseTitles (s : Fin 2 → Option String × PyFloat) : Option String × PyFloat :=
  reconcileTitles py ((s 0).1.bind flattenStr) (s 0).2 ((s 1).1.bind flattenStr) (s 1).2

/-- A confidence of the unit interval. -/
def ScoredTitle (source : Option String × PyFloat) : Prop :=
  ∃ q : ℚ, source.2 = .fin q ∧ 0 ≤ q ∧ q ≤ 1

/-- A title that is there is compared by something. -/
theorem comparedTitle_eq_none_iff {source title : Option String}
    (h : source.bind flattenStr = title) : comparedTitle py title = none ↔ title = none := by
  cases title with
  | none => exact iff_of_true rfl rfl
  | some title =>
    obtain ⟨text, -, htext⟩ := Option.bind_eq_some_iff.mp h
    refine iff_of_false ?_ (Option.some_ne_none title)
    rw [comparedTitle, Option.bind_some, normaliseForCompare, flattenStr_flattenStr htext]
    exact Option.some_ne_none _

/-- Neither of two titles lowers the confidence of the other one if they agree. -/
theorem le_agreeing {a b : PyFloat} {p q : ℚ} (ha : a = .fin p) (hb : b = .fin q) :
    a ≤ (a.pyMax b).pyMax (.fin (9 / 10)) ∧ b ≤ (a.pyMax b).pyMax (.fin (9 / 10)) := by
  subst ha hb
  simp only [PyFloat.pyMax_fin, PyFloat.fin_le_fin]
  exact ⟨(le_max_left p q).trans (le_max_left _ _), (le_max_right p q).trans (le_max_left _ _)⟩

/-- A title is that of the first source that has one. -/
theorem fst_reconcileTitles {vision text : Option String} {visionConf textConf : PyFloat} :
    (reconcileTitles py vision visionConf text textConf).1 = vision.or text := by
  cases vision with
  | none => cases text <;> rw [reconcileTitles, Option.none_or]
  | some v =>
    rw [Option.some_or]
    cases text with
    | none => rw [reconcileTitles]
    | some t =>
      rw [reconcileTitles]
      split_ifs <;> rfl

/-- Two titles that are compared as equal are fused to the first one. -/
theorem reconcileTitles_of_agree {v t : String}
    (h : comparedTitle py (some v) = comparedTitle py (some t)) (visionConf textConf : PyFloat) :
    reconcileTitles py (some v) visionConf (some t) textConf =
      (some v, (visionConf.pyMax textConf).pyMax (.fin (9 / 10))) := by
  rw [comparedTitle, comparedTitle, Option.bind_some, Option.bind_some] at h
  rw [reconcileTitles, if_pos h]

/-- A vision title may join the title of the text. -/
theorem reconcileTitles_join_vision {vision text : Option String}
    (hvision : comparedTitle py vision = none ↔ vision = none)
    (htext : comparedTitle py text = none ↔ text = none)
    (h : comparedTitle py vision = comparedTitle py text) {a b : PyFloat} {p q : ℚ}
    (ha : a = .fin p) (hb : b = .fin q) (old : PyFloat) :
    comparedTitle py (reconcileTitles py vision a text b).1 = comparedTitle py text ∧
      (reconcileTitles py none old text b).2 ≤ (reconcileTitles py vision a text b).2 := by
  rw [fst_reconcileTitles]
  cases text with
  | none =>
    obtain rfl := hvision.mp (h.trans (htext.mpr rfl))
    exact ⟨rfl, PyFloat.fin_le_fin.mpr le_rfl⟩
  | some t =>
    cases vision with
    | none => exact absurd (htext.mp (h.symm.trans (hvision.mpr rfl))) (Option.some_ne_none t)
    | some v =>
      refine ⟨h, ?_⟩
      rw [reconcileTitles_of_agree py h, reconcileTitles]
      exact (le_agreeing ha hb).2

/-- A text title may join the title of the vision model. -/
theorem reconcileTitles_join_text {vision text : Option String}
    (hvision : comparedTitle py vision = none ↔ vision = none)
    (htext : comparedTitle py text = none ↔ text = none)
    (h : comparedTitle py text = comparedTitle py vision) {a b : PyFloat} {p q : ℚ}
    (ha : a = .fin p) (hb : b = .fin q) (old : PyFloat) :
    comparedTitle py (reconcileTitles py vision a text b).1 = comparedTitle py vision ∧
      (reconcileTitles py vision a none old).2 ≤ (reconcileTitles py vision a text b).2 := by
  rw [fst_reconcileTitles]
  cases vision with
  | none =>
    obtain rfl := htext.mp (h.trans (hvision.mpr rfl))
    exact ⟨rfl, PyFloat.fin_le_fin.mpr le_rfl⟩
  | some v =>
    cases text with
    | none => exact absurd (hvision.mp (h.symm.trans (htext.mpr rfl))) (Option.some_ne_none v)
    | some t =>
      refine ⟨rfl, ?_⟩
      rw [reconcileTitles_of_agree py h.symm, reconcileTitles]
      exact (le_agreeing ha hb).1

/-- A source that agrees with the title is compared with the one it is from. -/
theorem soundFusion_title :
    SoundFusion (fun source : Option String × PyFloat => source.1.bind flattenStr)
      (comparedTitle py) ScoredTitle (fuseTitles py) where
  none_iff s := by
    rw [fuseTitles, fst_reconcileTitles, Option.or_eq_none_iff]
    constructor
    · rintro ⟨h0, h1⟩ i
      fin_cases i
      exacts [h0, h1]
    · exact fun hnone => ⟨hnone 0, hnone 1⟩
  zero s hnone := by
    rw [fuseTitles, fst_reconcileTitles, Option.or_eq_none_iff] at hnone
    rw [fuseTitles, hnone.1, hnone.2, reconcileTitles]
  mem s value h := by
    rw [fuseTitles, fst_reconcileTitles, Option.or_eq_some_iff] at h
    rcases h with h0 | ⟨-, h1⟩
    exacts [⟨0, h0⟩, ⟨1, h1⟩]
  join s i w hs hw hi hagrees := by
    obtain ⟨p, hp, -⟩ := hw
    obtain ⟨q, hq, -⟩ := hs 0
    obtain ⟨q', hq', -⟩ := hs 1
    have hthere (source : Option String × PyFloat) :
        comparedTitle py (source.1.bind flattenStr) = none ↔ source.1.bind flattenStr = none :=
      comparedTitle_eq_none_iff py rfl
    fin_cases i
    · have hi : (s 0).1.bind flattenStr = none := hi
      have hold : (fuseTitles py s).1 = (s 1).1.bind flattenStr := by
        rw [fuseTitles, fst_reconcileTitles, hi, Option.none_or]
      rw [hold] at hagrees ⊢
      have hjoin := reconcileTitles_join_vision py (hthere w) (hthere (s 1)) hagrees hp hq' (s 0).2
      rw [← hi] at hjoin
      exact hjoin
    · have hi : (s 1).1.bind flattenStr = none := hi
      have hold : (fuseTitles py s).1 = (s 0).1.bind flattenStr := by
        rw [fuseTitles, fst_reconcileTitles, hi, Option.or_none]
      rw [hold] at hagrees ⊢
      have hjoin := reconcileTitles_join_text py (hthere (s 0)) (hthere w) hagrees hq hp (s 1).2
      rw [← hi] at hjoin
      exact hjoin

end Title

/-- Both fusions are sound. Two sources that agree on a drawing number win, wherever they stand,
and otherwise the first source that has one, in the order vision, text, filename. -/
theorem fusion_sound (py : StrMethods) :
    (SoundFusion (normalise py) id (fun _ => True) fun s : Fin 3 → Option String =>
        fuseDrawingNumber py (s 0) (s 1) (s 2)) ∧
      (∀ (s : Fin 3 → Option String) (i j : Fin 3) (value : String), i ≠ j →
        normalise py (s i) = some value → normalise py (s j) = some value →
          (fuseDrawingNumber py (s 0) (s 1) (s 2)).1 = some value) ∧
      (∀ s : Fin 3 → Option String,
        (∀ i j value, i ≠ j → normalise py (s i) = some value →
          normalise py (s j) ≠ some value) →
          (fuseDrawingNumber py (s 0) (s 1) (s 2)).1 =
            (normalise py (s 0)).or ((normalise py (s 1)).or (normalise py (s 2)))) ∧
      (∀ s : Fin 2 → Option String × PyFloat,
        fuseTitle py (.ofOptionStr (s 0).1) (s 0).2 (.ofOptionStr (s 1).1) (s 1).2 =
          .ok (fuseTitles py s)) ∧
      SoundFusion (fun source : Option String × PyFloat => source.1.bind flattenStr)
        (comparedTitle py) ScoredTitle (fuseTitles py) :=
  ⟨soundFusion_drawingNumber py,
    fun s _ _ _ hne hi hj => (fuseDrawingNumber_of_agree py s hne hi hj).1,
    fun s h => (fuseDrawingNumber_of_disagree py s h).1,
    fun _ => fuseTitle_ofOptionStr py _ _ _ _, soundFusion_title py⟩

end ZubotIngestion
