import ZubotIngestion.Domain.Pipeline.JsonParser
import ZubotIngestion.Text.Edges

/-!
# Recovery of a JSON object from noise

A model puts prose and code fences around the object it was asked for. As long as there are no
braces in this noise, nothing the parser does to the text touches the object: white space and
fences are removed from the noise, and the slice between the outermost braces is the object. What
is in the strings of the object does not matter.

## Main definitions

* `Braced`: a text that begins and ends with braces.
* `JsonLibrary.AcceptsJson`: `json.loads` accepts JSON values surrounded by white space only.

## Main results

* `exists_stripCodeFences_eq`, `sliceOuterBraces_append`: what the two stages leave of a text.
* `get?_applySchema`: the schema gives the values of the keys that are missing.
* `parse_recovers`: the parser returns the object, filled from the schema.
-/

namespace ZubotIngestion

open Effects Text

/-- `{`. -/
def openBrace : CodePoint := .of '{'

/-- `}`. -/
def closeBrace : CodePoint := .of '}'

/-- The text begins and ends with braces. -/
structure Braced (text : PyStr) : Prop where
  head : text.head? = some openBrace
  last : text.getLast? = some closeBrace

namespace Braced

variable {core : PyStr}

/-- Behind the opening brace there is the closing one. -/
theorem exists_eq_cons (h : Braced core) :
    ∃ inner, core = openBrace :: (inner ++ [closeBrace]) := by
  obtain ⟨rest, hrest⟩ := List.getLast?_eq_some_iff.mp h.last
  have hhead := h.head
  rw [hrest] at hhead
  cases rest with
  | nil => exact absurd (Option.some.inj hhead) (by decide)
  | cons c inner => exact ⟨inner, by rw [hrest, ← Option.some.inj hhead]; rfl⟩

end Braced

/-! ### White space and fences -/

/-- White space is stripped from the noise only. -/
theorem strip_append {core : PyStr} (h : Braced core) (before after : PyStr) :
    PyStr.strip (before ++ core ++ after) =
      before.dropWhile CodePoint.isSpace ++ core ++ after.rdropWhile CodePoint.isSpace := by
  obtain ⟨inner, rfl⟩ := h.exists_eq_cons
  have hopen : openBrace.isSpace = false := by decide
  have hclose : closeBrace.isSpace = false := by decide
  rw [PyStr.strip, List.append_assoc, List.cons_append, dropWhile_append_cons hopen,
    List.append_assoc, List.singleton_append, ← List.cons_append, ← List.append_assoc,
    rdropWhile_append_cons hclose]
  simp only [List.append_assoc, List.cons_append, List.nil_append]

/-- An opening fence is dropped from the noise only. -/
theorem dropOpeningFence_append {core : PyStr} (h : Braced core) {before : PyStr}
    (hfence : fence <+: before) (after : PyStr) :
    dropOpeningFence (before ++ core ++ after) = dropOpeningFence before ++ core ++ after := by
  obtain ⟨inner, rfl⟩ := h.exists_eq_cons
  have hopen : openBrace.isLetter = false := by decide
  have hlineFeed (text rest : PyStr) :
      dropLineFeed (text ++ openBrace :: rest) = dropLineFeed text ++ openBrace :: rest := by
    cases text with
    | nil =>
      have hne : openBrace ≠ lineFeed := by decide
      simp only [List.nil_append, dropLineFeed, if_neg hne]
    | cons c text =>
      simp only [List.cons_append, dropLineFeed]
      split_ifs <;> rfl
  rw [dropOpeningFence, dropOpeningFence, List.append_assoc, List.append_assoc, List.cons_append,
    List.drop_append_of_le_length hfence.length_le, dropWhile_append_cons hopen, hlineFeed]

/-- A closing fence is not looked for before a closing brace. -/
theorem dropClosingFence_append_cons (text after : PyStr) :
    dropClosingFence (text ++ closeBrace :: after) =
      text ++ closeBrace :: dropClosingFence after := by
  have hmem {text : PyStr} (h : closeBrace ∈ text) : closeBrace ∈ dropLineFeed text := by
    cases text with
    | nil => exact h
    | cons c text =>
      rw [dropLineFeed]
      split_ifs with hc
      · refine (List.mem_cons.mp h).resolve_left fun hclose => ?_
        exact absurd (hclose.trans hc) (by decide)
      · exact h
  have hfence {text : PyStr} (h : closeBrace ∈ text) : dropLineFeed text ≠ fence := by
    intro heq
    exact absurd (heq ▸ hmem h) (by decide)
  have hfence' {text : PyStr} (h : closeBrace ∈ text) :
      dropLineFeed text ≠ fence ++ [lineFeed] := by
    intro heq
    exact absurd (heq ▸ hmem h) (by decide)
  induction text with
  | nil =>
    rw [List.nil_append, dropClosingFence, if_neg (hfence List.mem_cons_self),
      if_neg (hfence' List.mem_cons_self), List.nil_append]
  | cons c text ih =>
    have hclose : closeBrace ∈ c :: (text ++ closeBrace :: after) :=
      List.mem_cons_of_mem c (List.mem_append_right text List.mem_cons_self)
    rw [List.cons_append, dropClosingFence, if_neg (hfence hclose), if_neg (hfence' hclose), ih,
      List.cons_append]

theorem dropLineFeed_subset (text : PyStr) : dropLineFeed text ⊆ text := by
  cases text with
  | nil => exact List.Subset.refl []
  | cons c text =>
    rw [dropLineFeed]
    split_ifs
    · exact List.subset_cons_self c text
    · exact List.Subset.refl _

theorem dropOpeningFence_subset (text : PyStr) : dropOpeningFence text ⊆ text :=
  List.Subset.trans (dropLineFeed_subset _)
    (List.Subset.trans (List.dropWhile_subset _) (List.drop_subset _ text))

theorem dropClosingFence_subset (text : PyStr) : dropClosingFence text ⊆ text := by
  induction text with
  | nil => exact List.Subset.refl []
  | cons c text ih =>
    rw [dropClosingFence]
    split_ifs with hfence hfence'
    · exact List.nil_subset _
    · have hlineFeed : lineFeed ∈ dropLineFeed (c :: text) := by
        rw [hfence']
        exact List.mem_append_right _ (List.mem_singleton_self lineFeed)
      exact List.cons_subset.mpr ⟨dropLineFeed_subset _ hlineFeed, List.nil_subset _⟩
    · exact List.cons_subset_cons c ih

/-- A fence at the front of the text is in the noise. -/
theorem fence_prefix_of_append {before rest : PyStr} (h : fence <+: before ++ openBrace :: rest) :
    fence <+: before := by
  rcases List.prefix_or_prefix_of_prefix h (List.prefix_append before _) with h | ⟨text, htext⟩
  · exact h
  · cases text with
    | nil => rw [← htext, List.append_nil]
    | cons c text =>
      rw [← htext, List.prefix_append_right_inj, List.cons_prefix_cons] at h
      have hmem : openBrace ∈ fence := by
        rw [← htext, h.1]
        exact List.mem_append_right before List.mem_cons_self
      exact absurd hmem (by decide)

/-- White space and fences are removed from the noise only. -/
theorem exists_stripCodeFences_eq {core : PyStr} (h : Braced core) (before after : PyStr) :
    ∃ before' after', stripCodeFences (before ++ core ++ after) = before' ++ core ++ after' ∧
      before' ⊆ before ∧ after' ⊆ after := by
  have hstrip (p s : PyStr) : ∃ p' s', PyStr.strip (p ++ core ++ s) = p' ++ core ++ s' ∧
      p' ⊆ p ∧ s' ⊆ s :=
    ⟨_, _, strip_append h p s, List.dropWhile_subset _, (List.rdropWhile_prefix _ _).subset⟩
  obtain ⟨p, s, hps, hp, hs⟩ := hstrip before after
  rw [stripCodeFences, hps]
  split_ifs with hfence
  · -- the fence has no brace, so it is in the noise
    obtain ⟨p', hp', hsubset⟩ : ∃ p', dropOpeningFence (p ++ core ++ s) = p' ++ core ++ s ∧
        p' ⊆ p := by
      have hfenced : fence <+: p := by
        obtain ⟨inner, rfl⟩ := h.exists_eq_cons
        rw [List.append_assoc, List.cons_append] at hfence
        exact fence_prefix_of_append hfence
      exact ⟨_, dropOpeningFence_append h hfenced s, dropOpeningFence_subset p⟩
    obtain ⟨s', hs', hsubset'⟩ : ∃ s', dropClosingFence (p' ++ core ++ s) = p' ++ core ++ s' ∧
        s' ⊆ s := by
      obtain ⟨inner, rfl⟩ := h.exists_eq_cons
      refine ⟨dropClosingFence s, ?_, dropClosingFence_subset s⟩
      have hclosed := dropClosingFence_append_cons (p' ++ openBrace :: inner) s
      simpa only [List.append_assoc, List.cons_append, List.nil_append] using hclosed
    rw [hp', hs']
    obtain ⟨p'', s'', hstripped, hp'', hs''⟩ := hstrip p' s'
    exact ⟨p'', s'', hstripped, List.Subset.trans hp'' (List.Subset.trans hsubset hp),
      List.Subset.trans hs'' (List.Subset.trans hsubset' hs)⟩
  · obtain ⟨p', s', hstripped, hp', hs'⟩ := hstrip p s
    exact ⟨p', s', hstripped, List.Subset.trans hp' hp, List.Subset.trans hs' hs⟩

/-! ### The outermost braces -/

/-- Without braces in the noise, the outermost braces are those of the text between. -/
theorem sliceOuterBraces_append {core : PyStr} (h : Braced core) {before after : PyStr}
    (hbefore : openBrace ∉ before) (hafter : closeBrace ∉ after) :
    sliceOuterBraces (before ++ core ++ after) = some core := by
  obtain ⟨inner, rfl⟩ := h.exists_eq_cons
  have hfirst : (before ++ (openBrace :: (inner ++ [closeBrace])) ++ after).idxOf? (.of '{') =
      some before.length := by
    rw [List.append_assoc, List.cons_append]
    exact idxOf?_append_cons hbefore _
  have hlast : PyStr.rfind? (.of '}') (before ++ (openBrace :: (inner ++ [closeBrace])) ++ after) =
      some (before.length + inner.length + 1) := by
    have hsplit : before ++ (openBrace :: (inner ++ [closeBrace])) ++ after =
        (before ++ openBrace :: inner) ++ closeBrace :: after := by
      simp only [List.append_assoc, List.cons_append, List.nil_append]
    rw [hsplit, show CodePoint.of '}' = closeBrace from rfl, PyStr.rfind?_append_cons hafter,
      List.length_append, List.length_cons, Nat.add_assoc]
  have hend : before.length + inner.length + 1 + 1 =
      (before ++ (openBrace :: (inner ++ [closeBrace]))).length := by
    simp only [List.length_append, List.length_cons, List.length_nil]
    omega
  rw [sliceOuterBraces, hfirst, hlast]
  simp only [PyStr.slice]
  rw [if_neg (by omega), hend, List.take_left, List.drop_left]

/-! ### The schema -/

/-- A key has the value that was parsed, or else its default. -/
theorem get?_applySchema {o : JsonDict} (h : o.keys.Nodup) (expectedSchema : Option JsonDict)
    (key : PyStr) : (applySchema (some o) expectedSchema).get? key =
      (o.get? key).or ((expectedSchema.getD []).get? key) := by
  cases expectedSchema with
  | none => exact Option.or_none.symm
  | some schema =>
    rw [applySchema, Option.getD_some, Option.getD_some]
    induction o generalizing schema with
    | nil => rfl
    | cons item o ih =>
      obtain ⟨k, v⟩ := item
      obtain ⟨hk, ho⟩ := List.nodup_cons.mp h
      rw [List.foldl_cons, ih ho, JsonDict.get?_set, JsonDict.get?]
      by_cases hkey : k = key
      · subst hkey
        rw [if_pos rfl, if_pos rfl, JsonDict.get?_eq_none hk, Option.none_or, Option.some_or]
      · rw [if_neg hkey, if_neg hkey]

/-! ### The parser -/

/-- White space between the tokens of JSON. -/
def IsJsonSpace (c : CodePoint) : Prop :=
  c = .of ' ' ∨ c = .of '\t' ∨ c = .of '\n' ∨ c = .of '\r'

instance (c : CodePoint) : Decidable (IsJsonSpace c) := inferInstanceAs (Decidable (_ ∨ _))

/-- `json.loads` accepts a text only if it is the text of a value with white space around it, and
the text of an object is in braces. -/
def JsonLibrary.AcceptsJson (lib : JsonLibrary) : Prop :=
  ∀ text value, lib.loads text = .ok value → ∃ before core after, text = before ++ core ++ after ∧
    (∀ c ∈ before, IsJsonSpace c) ∧ (∀ c ∈ after, IsJsonSpace c) ∧
    lib.loads core = .ok value ∧ ∀ items, value = .dict items → Braced core

section Recovery

variable {lib : JsonLibrary} {py : JsonMethods}

/-- An accepted text is free of braces around the object that it is the text of. -/
theorem JsonLibrary.AcceptsJson.exists_braced (hlib : lib.AcceptsJson) {text : PyStr}
    {items : JsonDict} (h : lib.loads text = .ok (.dict items)) :
    ∃ before core after, text = before ++ core ++ after ∧ openBrace ∉ before ∧
      closeBrace ∉ before ∧ openBrace ∉ after ∧ closeBrace ∉ after ∧
      lib.loads core = .ok (.dict items) ∧ Braced core := by
  obtain ⟨before, core, after, rfl, hbefore, hafter, hcore, hbraced⟩ := hlib text _ h
  have hopen : ¬ IsJsonSpace openBrace := by
    rintro (h | h | h | h) <;> exact absurd h (by decide)
  have hclose : ¬ IsJsonSpace closeBrace := by
    rintro (h | h | h | h) <;> exact absurd h (by decide)
  exact ⟨before, core, after, rfl, fun hc => hopen (hbefore _ hc), fun hc => hclose (hbefore _ hc),
    fun hc => hopen (hafter _ hc), fun hc => hclose (hafter _ hc), hcore, hbraced items rfl⟩

/-- A dictionary that is decoded from the cleaned text is decoded from its outermost braces. -/
theorem loads_eq_of_slice (hlib : lib.AcceptsJson) {text core : PyStr} {items : JsonDict}
    (h : lib.loads text = .ok (.dict items)) (hslice : sliceOuterBraces text = some core) :
    lib.loads core = .ok (.dict items) := by
  obtain ⟨before, core', after, rfl, hbefore, -, -, hafter, hcore', hbraced⟩ := hlib.exists_braced h
  rw [sliceOuterBraces_append hbraced hbefore hafter] at hslice
  rwa [← Option.some.inj hslice]

/-- The search for a dictionary ends with the object between the outermost braces. -/
theorem findSomeM?_attempts_of_slice (hlib : lib.AcceptsJson) {cleaned core : PyStr}
    {o : JsonDict} (hslice : sliceOuterBraces cleaned = some core)
    (hcore : lib.loads core = .ok (.dict o)) (hlimit : lib.loads cleaned ≠ .error .recursionError) :
    (attempts lib cleaned).findSomeM? (attemptStrictJson lib) = .ok (some o) := by
  have hsliced : attemptStrictJson lib core = .ok (some o) := by rw [attemptStrictJson, hcore]
  rw [attempts, hslice, Option.toList_some, List.append_assoc, List.singleton_append]
  rcases hfirst : attemptStrictJson lib cleaned with exc | _ | items
  · -- only a text that is nested too deeply raises
    exact absurd (attemptStrictJson_eq_error_iff.mp hfirst).2 hlimit
  · rw [findSomeM?_cons_none hfirst, findSomeM?_cons_some hsliced]
  · -- the whole text is the object, with white space around it
    have hloads : lib.loads cleaned = .ok (.dict items) := by
      rw [attemptStrictJson] at hfirst
      cases hcleaned : lib.loads cleaned with
      | error exc =>
        rw [hcleaned] at hfirst
        dsimp only at hfirst
        split_ifs at hfirst
        cases hfirst
      | ok value =>
        rw [hcleaned] at hfirst
        cases value <;> cases hfirst
        rfl
    have hsame := loads_eq_of_slice hlib hloads hslice
    rw [hcore] at hsame
    obtain rfl := JsonValue.dict.inj (Except.ok.inj hsame)
    exact findSomeM?_cons_some hfirst _

end Recovery

/-- The parser recovers an object from a text that has no braces around it, whatever the object
and the text around it are: it returns the object, filled from the schema. The text that is left
when the fences are removed is not nested too deeply for `json.loads`. -/
theorem parse_recovers (lib : JsonLibrary) (py : JsonMethods) (dumps : JsonDict → PyStr)
    (hlib : lib.AcceptsJson) (o : JsonDict) (hkeys : o.keys.Nodup)
    (hdumps : lib.loads (dumps o) = .ok (.dict o)) (before after : PyStr)
    (hbefore : openBrace ∉ before ∧ closeBrace ∉ before)
    (hafter : openBrace ∉ after ∧ closeBrace ∉ after)
    (hlimit : lib.loads (stripCodeFences (before ++ dumps o ++ after)) ≠ .error .recursionError)
    (expectedSchema : Option JsonDict) :
    JsonResponseParser.parse lib py (before ++ dumps o ++ after) expectedSchema =
        .ok (applySchema (some o) expectedSchema) ∧
      ∀ key, (applySchema (some o) expectedSchema).get? key =
        (o.get? key).or ((expectedSchema.getD []).get? key) := by
  refine ⟨?_, get?_applySchema hkeys expectedSchema⟩
  obtain ⟨p, core, s, htext, hp, -, -, hs, hcore, hbraced⟩ := hlib.exists_braced hdumps
  have hsplit : before ++ dumps o ++ after = (before ++ p) ++ core ++ (s ++ after) := by
    rw [htext]
    simp only [List.append_assoc]
  rw [hsplit] at hlimit ⊢
  obtain ⟨p', s', hcleaned, hp', hs'⟩ :=
    exists_stripCodeFences_eq hbraced (before ++ p) (s ++ after)
  have hopen : openBrace ∉ p' := fun h => (List.mem_append.mp (hp' h)).elim hbefore.1 hp
  have hclose : closeBrace ∉ s' := fun h => (List.mem_append.mp (hs' h)).elim hs hafter.2
  have hne : stripCodeFences ((before ++ p) ++ core ++ (s ++ after)) ≠ [] := by
    obtain ⟨inner, rfl⟩ := hbraced.exists_eq_cons
    rw [hcleaned]
    simp
  have hslice := sliceOuterBraces_append hbraced hopen hclose
  rw [parse_eq hne, findSomeM?_attempts_of_slice hlib (hcleaned ▸ hslice) hcore hlimit]
  rfl

/-! ### An object in a code fence -/

/-- An object with a brace and a fence in its string. -/
def fencedObject : JsonDict := [(.of "a", .str (.of "```\x7d"))]

/-- The text of this object. -/
def fencedText : PyStr := .of "\x7b\"a\": \"```\x7d\"\x7d"

theorem braced_fencedText : Braced fencedText := ⟨by decide, by decide⟩

/-- A decoder that knows one object. -/
def fencedLibrary : JsonLibrary where
  loads text :=
    if (text.dropWhile (IsJsonSpace ·)).rdropWhile (IsJsonSpace ·) = fencedText
      then .ok (.dict fencedObject)
    else .error (.jsonDecodeError "Expecting value")
  repairJson? _ := none

theorem loads_fencedText : fencedLibrary.loads fencedText = .ok (.dict fencedObject) := by
  have hstripped : (fencedText.dropWhile (IsJsonSpace ·)).rdropWhile (IsJsonSpace ·) =
      fencedText := by
    decide
  simp only [fencedLibrary, hstripped, if_pos]

theorem acceptsJson_fencedLibrary : fencedLibrary.AcceptsJson := by
  intro text value h
  simp only [fencedLibrary] at h
  split_ifs at h with htext
  obtain rfl := Except.ok.inj h
  refine ⟨text.takeWhile (IsJsonSpace ·), fencedText,
    (text.dropWhile (IsJsonSpace ·)).rtakeWhile (IsJsonSpace ·), ?_,
    fun c hc => of_decide_eq_true (List.mem_takeWhile_imp hc :),
    fun c hc => of_decide_eq_true (List.mem_rtakeWhile_imp hc :), loads_fencedText,
    fun _ _ => braced_fencedText⟩
  rw [← htext, List.append_assoc, List.rdropWhile_append_rtakeWhile,
    List.takeWhile_append_dropWhile]

/-- The object is recovered from a fence with a language tag; the schema adds its default. -/
theorem parse_recovers_fencedText :
    JsonResponseParser.parse fencedLibrary bracketMethods
        (.of "```json\n" ++ fencedText ++ .of "\n```") (some [(.of "b", .null)]) =
      .ok [(.of "b", .null), (.of "a", .str (.of "```\x7d"))] := by
  have hlimit (text : PyStr) : fencedLibrary.loads text ≠ .error .recursionError := by
    simp only [fencedLibrary]
    split_ifs <;> simp
  exact (parse_recovers fencedLibrary bracketMethods (fun _ => fencedText) acceptsJson_fencedLibrary
    fencedObject (by decide) loads_fencedText _ _ (by decide) (by decide) (hlimit _) _).1

end ZubotIngestion
