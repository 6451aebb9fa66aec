import ZubotIngestion.Domain.Pipeline.JsonText
import ZubotIngestion.Effects.Attempts
import ZubotIngestion.Python.Float

/-!
# The response parser

`JsonResponseParser`: a model response is decoded by `json.loads`, as it is, between its outermost
braces, and repaired; the first decoder that gives a dictionary ends the search. If none does, the
pairs of keys and values in the text make up a dictionary. `json.loads` and `repair_json` are
parameters. Of the exceptions of `json.loads`, only those that are a `ValueError` are caught; and a
string with a surrogate has no UTF-8 encoding, which the fallback asks for.

## Main definitions

* `JsonValue`, `JsonDict`, `JsonLibrary`, `JsonMethods`.
* `JsonResponseParser.parse`, `JsonResponseParser.parseWithSchema`.
* `Overflows`, `Unencodable`: where an exception escapes.

## Main results

* `parse_eq_error_iff`: the exceptions that escape.
* `parser_returnsFilled_iff`: when the parser keeps its promise.
-/

namespace ZubotIngestion

open Effects

/-! ### Values and libraries -/

/-- A decoded value; the keys and strings of decoded texts may contain surrogates. -/
inductive JsonValue : Type where
  /-- `None`. -/
  | null
  /-- A Boolean. -/
  | bool (b : Bool)
  /-- An integer. -/
  | int (i : ℤ)
  /-- A float. -/
  | float (f : PyFloat)
  /-- A string. -/
  | str (s : PyStr)
  /-- A list. -/
  | list (items : List JsonValue)
  /-- A dictionary, as its items in insertion order. -/
  | dict (items : List (PyStr × JsonValue))

/-- A dictionary, as its items in insertion order. -/
abbrev JsonDict : Type := List (PyStr × JsonValue)

namespace JsonDict

/-- `d[key] = value`. -/
def set : JsonDict → PyStr → JsonValue → JsonDict
  | [], key, value => [(key, value)]
  | (k, v) :: d, key, value => if k = key then (k, value) :: d else (k, v) :: set d key value

/-- `d.keys()`. -/
def keys (d : JsonDict) : List PyStr := d.map Prod.fst

/-- A key that is set stays, and so do the others. -/
theorem mem_keys_set {d : JsonDict} {key k : PyStr} {value : JsonValue} :
    k ∈ keys (set d key value) ↔ k = key ∨ k ∈ keys d := by
  induction d with
  | nil => simp [set, keys]
  | cons item d ih =>
    obtain ⟨k', v⟩ := item
    rw [set]
    split_ifs with h
    · subst h
      simp [keys]
    · simp only [keys, List.map_cons, List.mem_cons] at ih ⊢
      rw [ih]
      exact or_left_comm

/-- `d.get(key)`. -/
def get? : JsonDict → PyStr → Option JsonValue
  | [], _ => none
  | (k, v) :: d, key => if k = key then some v else get? d key

theorem get?_set (d : JsonDict) (key k : PyStr) (value : JsonValue) :
    get? (set d key value) k = if key = k then some value else get? d k := by
  induction d with
  | nil => rfl
  | cons item d ih =>
    obtain ⟨k', v⟩ := item
    rw [set]
    by_cases hkey : k' = key
    · subst hkey
      simp only [if_pos, get?]
      split_ifs <;> rfl
    · simp only [if_neg hkey, get?, ih]
      split_ifs with hk hk'
      · exact absurd (hk.trans hk'.symm) hkey
      · rfl
      · rfl
      · rfl

theorem get?_eq_none {d : JsonDict} {key : PyStr} (h : key ∉ keys d) : get? d key = none := by
  induction d with
  | nil => rfl
  | cons item d ih =>
    obtain ⟨hne, hd⟩ := List.ne_and_not_mem_of_not_mem_cons h
    rw [get?, if_neg (Ne.symm hne), ih hd]

end JsonDict

/-- The exceptions of the decoders and encoders. -/
inductive DecodeException : Type where
  /-- `json.JSONDecodeError`. -/
  | jsonDecodeError (message : String)
  /-- `ValueError`, of an integer literal with too many digits. -/
  | valueError (message : String)
  /-- `UnicodeEncodeError`. -/
  | unicodeEncodeError
  /-- `RecursionError`, of a text that is nested too deeply. -/
  | recursionError

/-- `isinstance(exc, ValueError)`: only `RecursionError` is a `RuntimeError` instead. -/
def DecodeException.isValueError : DecodeException → Bool
  | recursionError => false
  | _ => true

/-- The libraries that decode and repair. -/
structure JsonLibrary where
  /-- `json.loads(text)`. -/
  loads : PyStr → Except DecodeException JsonValue
  /-- `repair_json(text)`, without a value where it raises. -/
  repairJson? : PyStr → Option PyStr

/-- The built-in operations on strings that are left open. -/
structure JsonMethods where
  /-- The class `\d`. -/
  isDecimal : CodePoint → Bool
  /-- `raw.lower()`. -/
  lower : PyStr → PyStr
  /-- `float(raw)`, without a value where it raises `ValueError`. -/
  float? : PyStr → Option PyFloat
  /-- `int(raw)`, without a value where it raises `ValueError`. -/
  int? : PyStr → Option ℤ
  /-- `inner.encode("utf-8").decode("unicode_escape", errors="replace")` of a string that can be
  encoded. -/
  unescape : PyStr → PyStr

/-! ### The fallback -/

/-- `text[1:-1]`. -/
def unquote (text : PyStr) : PyStr := text.tail.dropLast

/-- The value of a JSON literal. -/
def literal? (lowered : PyStr) : Option JsonValue :=
  if lowered = .of "null" then some .null
  else if lowered = .of "true" then some (.bool true)
  else if lowered = .of "false" then some (.bool false)
  else none

/-- `raw` begins and ends with the same quote. -/
def IsQuoted (raw : PyStr) : Prop :=
  raw.head? = some doubleQuote ∧ raw.getLast? = some doubleQuote ∨
    raw.head? = some singleQuote ∧ raw.getLast? = some singleQuote

instance (raw : PyStr) : Decidable (IsQuoted raw) := inferInstanceAs (Decidable (_ ∨ _))

/-- The number that a captured value is, or else the value itself. -/
def coerceNumber (py : JsonMethods) (raw : PyStr) : JsonValue :=
  if CodePoint.of '.' ∈ raw then ((py.float? raw).map JsonValue.float).getD (.str raw)
  else ((py.int? raw).map JsonValue.int).getD (.str raw)

/-- `inner.encode("utf-8").decode("unicode_escape", errors="replace")`. -/
def decodeInner (py : JsonMethods) (inner : PyStr) : Except DecodeException JsonValue :=
  if ∃ c ∈ inner, c.IsSurrogate then .error .unicodeEncodeError else .ok (.str (py.unescape inner))

/-- `_coerce_kv_value`. -/
def coerceKvValue (py : JsonMethods) (raw : PyStr) : Except DecodeException JsonValue :=
  match literal? (py.lower raw.strip) with
  | some value => .ok value
  | none =>
    if IsQuoted raw.strip then decodeInner py (unquote raw.strip)
    else .ok (coerceNumber py raw.strip)

/-- `_regex_extract`. -/
def regexExtract (py : JsonMethods) (text : PyStr) : Except DecodeException JsonDict :=
  (keyValues py.isDecimal text).foldlM
    (fun out pair => return out.set (unquote pair.1.strip) (← coerceKvValue py pair.2)) []

/-! ### The strategies -/

section Parser

variable (lib : JsonLibrary) (py : JsonMethods)

/-- `_attempt_strict_json`. -/
def attemptStrictJson (text : PyStr) : Except DecodeException (Option JsonDict) :=
  match lib.loads text with
  | .ok (.dict items) => .ok (some items)
  | .ok _ => .ok none
  | .error exc => if exc.isValueError then .ok none else .error exc

/-- The repaired text, if there is one that is not empty. -/
def repaired? (text : PyStr) : Option PyStr :=
  (lib.repairJson? text).filter fun repaired => !repaired.isEmpty

/-- `_attempt_repair_json`. -/
def attemptRepairJson (text : PyStr) : Except DecodeException (Option JsonDict) :=
  match repaired? lib text with
  | none => .ok none
  | some repaired => attemptStrictJson lib repaired

/-- `_apply_schema`. -/
def applySchema (parsed : Option JsonDict) (expectedSchema : Option JsonDict) : JsonDict :=
  match expectedSchema with
  | none => parsed.getD []
  | some schema => (parsed.getD []).foldl (fun out item => out.set item.1 item.2) schema

/-- `_parse_sync`. -/
def JsonResponseParser.parseSync (text : Option PyStr) (expectedSchema : Option JsonDict) :
    Except DecodeException JsonDict := do
  match text with
  | none => return applySchema none expectedSchema
  | some text =>
    let cleaned := stripCodeFences text
    if cleaned = [] then return applySchema none expectedSchema
    if let some parsed ← attemptStrictJson lib cleaned then
      return applySchema parsed expectedSchema
    if let some sliced := sliceOuterBraces cleaned then
      if let some parsed ← attemptStrictJson lib sliced then
        return applySchema parsed expectedSchema
      if let some parsed ← attemptRepairJson lib sliced then
        return applySchema parsed expectedSchema
    if let some parsed ← attemptRepairJson lib cleaned then
      return applySchema parsed expectedSchema
    let parsed ← regexExtract py cleaned
    return applySchema parsed expectedSchema

/-- `parse`. -/
def JsonResponseParser.parse (responseText : PyStr) (expectedSchema : Option JsonDict) :
    Except DecodeException JsonDict :=
  parseSync lib py (some responseText) expectedSchema

/-- `parse_with_schema`. -/
def JsonResponseParser.parseWithSchema (rawResponse : PyStr) (expectedSchema : Option JsonDict) :
    Except DecodeException JsonDict :=
  parseSync lib py (some rawResponse) expectedSchema

end Parser

/-! ### Where an exception escapes -/

/-- A captured value that is encoded although UTF-8 does not encode it: a quoted string with a
surrogate between its quotes. -/
def EncodesSurrogate (py : JsonMethods) (raw : PyStr) : Prop :=
  literal? (py.lower raw.strip) = none ∧ IsQuoted raw.strip ∧
    ∃ c ∈ unquote raw.strip, c.IsSurrogate

section Escapes

variable (lib : JsonLibrary) (py : JsonMethods)

/-- The texts that the strategies decode, one after the other. -/
def attempts (cleaned : PyStr) : List PyStr :=
  cleaned :: ((sliceOuterBraces cleaned).toList ++
    ((sliceOuterBraces cleaned).bind (repaired? lib)).toList ++ (repaired? lib cleaned).toList)

/-- A text that the decoder makes no dictionary of, without overflowing the stack. -/
def PassedOver (text : PyStr) : Prop :=
  (∀ items, lib.loads text ≠ .ok (.dict items)) ∧ lib.loads text ≠ .error .recursionError

/-- A strategy decodes a text that is nested too deeply, and none before it finds a dictionary. -/
def Overflows (cleaned : PyStr) : Prop :=
  ∃ before text after, attempts lib cleaned = before ++ text :: after ∧
    (∀ earlier ∈ before, PassedOver lib earlier) ∧ lib.loads text = .error .recursionError

/-- No strategy finds a dictionary, and the fallback captures a string with a surrogate. -/
def Unencodable (cleaned : PyStr) : Prop :=
  (∀ text ∈ attempts lib cleaned, PassedOver lib text) ∧
    ∃ pair ∈ keyValues py.isDecimal cleaned, EncodesSurrogate py pair.2

/-- The parser keeps its promise: it returns a dictionary with every key of the schema. -/
def ReturnsFilled (r : Except DecodeException JsonDict) (expectedSchema : Option JsonDict) : Prop :=
  ∃ d, r = .ok d ∧ ∀ schema, expectedSchema = some schema → ∀ key ∈ schema.keys, key ∈ d.keys

variable {lib py}

theorem attemptStrictJson_eq_none_iff {text : PyStr} :
    attemptStrictJson lib text = .ok none ↔ PassedOver lib text := by
  rw [attemptStrictJson, PassedOver]
  cases lib.loads text with
  | ok value => cases value <;> simp
  | error exc => cases exc <;> simp [DecodeException.isValueError]

theorem attemptStrictJson_eq_error_iff {text : PyStr} {exc : DecodeException} :
    attemptStrictJson lib text = .error exc ↔
      exc = .recursionError ∧ lib.loads text = .error .recursionError := by
  rw [attemptStrictJson]
  cases lib.loads text with
  | ok value => cases value <;> simp
  | error exc' => cases exc' <;> simp [DecodeException.isValueError, eq_comm]

/-- A repair is an attempt at the repaired text. -/
theorem attemptRepairJson_eq (text : PyStr) : attemptRepairJson lib text =
    (repaired? lib text).toList.findSomeM? (attemptStrictJson lib) := by
  rw [attemptRepairJson]
  cases repaired? lib text with
  | none => rfl
  | some repaired =>
    rw [Option.toList_some, findSomeM?_singleton]

/-- The parser makes the attempts, and falls back to the pairs if none finds a dictionary. -/
theorem parse_eq {text : PyStr} (h : stripCodeFences text ≠ [])
    (expectedSchema : Option JsonDict) :
    JsonResponseParser.parse lib py text expectedSchema =
      ((attempts lib (stripCodeFences text)).findSomeM? (attemptStrictJson lib)).bind
        fun parsed => match parsed with
          | some parsed => .ok (applySchema (some parsed) expectedSchema)
          | none => (regexExtract py (stripCodeFences text)).map fun parsed =>
            applySchema (some parsed) expectedSchema := by
  rw [JsonResponseParser.parse, JsonResponseParser.parseSync]
  simp only [if_neg h, attempts, attemptRepairJson_eq]
  generalize stripCodeFences text = cleaned
  -- the last repair, and the fallback behind it
  have hlast : ((repaired? lib cleaned).toList.findSomeM? (attemptStrictJson lib)).bind
        (fun parsed => match parsed with
          | some parsed => .ok (applySchema (some parsed) expectedSchema)
          | none => (regexExtract py cleaned).map fun parsed =>
            applySchema (some parsed) expectedSchema) =
      ((repaired? lib cleaned).toList.findSomeM? (attemptStrictJson lib)).bind
        (fun parsed => match parsed with
          | some parsed => .ok (applySchema (some parsed) expectedSchema)
          | _ => (regexExtract py cleaned).bind fun parsed =>
            .ok (applySchema (some parsed) expectedSchema)) := by
    refine congrArg (Except.bind _) (funext fun parsed => ?_)
    rcases parsed with _ | parsed
    · cases regexExtract py cleaned <;> rfl
    · rfl
  rw [← List.singleton_append, findSomeM?_append_bind, findSomeM?_singleton]
  refine congrArg (Except.bind (attemptStrictJson lib cleaned)) (funext fun parsed => ?_)
  rcases parsed with _ | parsed
  · cases hslice : sliceOuterBraces cleaned with
    | none => exact hlast.symm
    | some sliced =>
      rw [Option.toList_some, Option.bind_some, findSomeM?_append_bind, findSomeM?_append_bind,
        findSomeM?_singleton]
      refine congrArg (Except.bind (attemptStrictJson lib sliced)) (funext fun parsed => ?_)
      rcases parsed with _ | parsed
      · refine congrArg (Except.bind _) (funext fun parsed => ?_)
        rcases parsed with _ | parsed
        · exact hlast.symm
        · rfl
      · rfl
  · rfl

/-! ### The exceptions that escape -/

theorem coerceKvValue_eq_error_iff {raw : PyStr} {exc : DecodeException} :
    coerceKvValue py raw = .error exc ↔
      exc = .unicodeEncodeError ∧ EncodesSurrogate py raw := by
  rw [coerceKvValue, EncodesSurrogate]
  cases literal? (py.lower raw.strip) with
  | some value => simp
  | none =>
    dsimp only
    split_ifs with hquoted
    · rw [decodeInner]
      split_ifs with hsurrogate
      · simp [hquoted, hsurrogate, eq_comm]
      · simp [hsurrogate]
    · simp [hquoted]

/-- The fallback raises just if one of its values does. -/
theorem regexExtract_eq_error_iff {text : PyStr} {exc : DecodeException} :
    regexExtract py text = .error exc ↔ exc = .unicodeEncodeError ∧
      ∃ pair ∈ keyValues py.isDecimal text, EncodesSurrogate py pair.2 := by
  rw [regexExtract]
  generalize keyValues py.isDecimal text = pairs
  generalize ([] : JsonDict) = out
  induction pairs generalizing out with
  | nil => simp [pure, Except.pure]
  | cons pair pairs ih =>
    rw [List.foldlM_cons]
    cases hcoerce : coerceKvValue py pair.2 with
    | error exc' =>
      obtain ⟨rfl, hencodes⟩ := coerceKvValue_eq_error_iff.mp hcoerce
      constructor
      · intro h
        cases h
        exact ⟨rfl, pair, List.mem_cons_self, hencodes⟩
      · rintro ⟨rfl, -⟩
        rfl
    | ok value =>
      have hpair : ¬ EncodesSurrogate py pair.2 := by
        intro hencodes
        rw [coerceKvValue_eq_error_iff.mpr ⟨rfl, hencodes⟩] at hcoerce
        cases hcoerce
      refine (ih _).trans ?_
      simp [hpair]

/-- A search for a dictionary overflows just if one of its attempts does. -/
theorem findSomeM?_attempts_eq_error_iff {cleaned : PyStr} {exc : DecodeException} :
    (attempts lib cleaned).findSomeM? (attemptStrictJson lib) = .error exc ↔
      exc = .recursionError ∧ Overflows lib cleaned := by
  rw [findSomeM?_eq_error_iff, Overflows]
  simp only [attemptStrictJson_eq_none_iff, attemptStrictJson_eq_error_iff]
  constructor
  · rintro ⟨before, text, after, hattempts, hbefore, rfl, hloads⟩
    exact ⟨rfl, before, text, after, hattempts, hbefore, hloads⟩
  · rintro ⟨rfl, before, text, after, hattempts, hbefore, hloads⟩
    exact ⟨before, text, after, hattempts, hbefore, rfl, hloads⟩

/-- What the parser raises on a text that is not blank: the exception of the first decoder that
overflows, or that of the fallback. -/
theorem parse_eq_error_iff {text : PyStr} (h : stripCodeFences text ≠ [])
    {expectedSchema : Option JsonDict} {exc : DecodeException} :
    JsonResponseParser.parse lib py text expectedSchema = .error exc ↔
      exc = .recursionError ∧ Overflows lib (stripCodeFences text) ∨
        exc = .unicodeEncodeError ∧ Unencodable lib py (stripCodeFences text) := by
  rw [parse_eq h, ← findSomeM?_attempts_eq_error_iff, Unencodable]
  simp only [← attemptStrictJson_eq_none_iff, ← findSomeM?_eq_none_iff]
  generalize (attempts lib (stripCodeFences text)).findSomeM? (attemptStrictJson lib) = found
  rcases found with exc' | _ | parsed
  · simp [Except.bind]
  · have hfallback : regexExtract py (stripCodeFences text) = .error exc ↔ _ :=
      regexExtract_eq_error_iff
    simp only [Except.bind, reduceCtorEq, true_and, false_or]
    rw [← hfallback]
    cases regexExtract py (stripCodeFences text) <;> simp [Except.map]
  · simp [Except.bind]

/-! ### The schema -/

/-- Every key of the schema is a key of the result. -/
theorem mem_keys_applySchema (parsed : Option JsonDict) {schema : JsonDict} {key : PyStr}
    (h : key ∈ schema.keys) : key ∈ (applySchema parsed (some schema)).keys := by
  rw [applySchema]
  generalize parsed.getD [] = items
  induction items generalizing schema with
  | nil => exact h
  | cons item items ih => exact ih (JsonDict.mem_keys_set.mpr (Or.inr h))

/-- Whatever the parser returns is filled from the schema. -/
theorem exists_applySchema {text : PyStr} {expectedSchema : Option JsonDict} {d : JsonDict}
    (h : JsonResponseParser.parse lib py text expectedSchema = .ok d) :
    ∃ parsed, d = applySchema parsed expectedSchema := by
  by_cases hcleaned : stripCodeFences text = []
  · rw [JsonResponseParser.parse, JsonResponseParser.parseSync] at h
    simp only [if_pos hcleaned] at h
    exact ⟨none, (Except.ok.inj h).symm⟩
  · rw [parse_eq hcleaned] at h
    generalize (attempts lib (stripCodeFences text)).findSomeM? (attemptStrictJson lib) = found
      at h
    rcases found with exc | _ | parsed
    · cases h
    · cases hfallback : regexExtract py (stripCodeFences text) with
      | error exc =>
        rw [hfallback] at h
        cases h
      | ok parsed =>
        rw [hfallback] at h
        exact ⟨some parsed, (Except.ok.inj h).symm⟩
    · exact ⟨some parsed, (Except.ok.inj h).symm⟩

/-- Both methods keep their promise on a text that is blank, and else unless an exception escapes:
of a decoder before one has found a dictionary, or of the fallback. -/
theorem parser_returnsFilled_iff (lib : JsonLibrary) (py : JsonMethods) (text : PyStr)
    (expectedSchema : Option JsonDict) :
    ReturnsFilled (JsonResponseParser.parse lib py text expectedSchema) expectedSchema ∧
        ReturnsFilled (JsonResponseParser.parseWithSchema lib py text expectedSchema)
          expectedSchema ↔
      stripCodeFences text = [] ∨
        ¬ Overflows lib (stripCodeFences text) ∧ ¬ Unencodable lib py (stripCodeFences text) := by
  have hsame : JsonResponseParser.parseWithSchema lib py text expectedSchema =
      JsonResponseParser.parse lib py text expectedSchema := rfl
  have hreturns : ReturnsFilled (JsonResponseParser.parse lib py text expectedSchema)
      expectedSchema ↔
        ∀ exc, JsonResponseParser.parse lib py text expectedSchema ≠ .error exc := by
    constructor
    · rintro ⟨d, hd, -⟩ exc hexc
      rw [hd] at hexc
      cases hexc
    · intro hraises
      cases hparse : JsonResponseParser.parse lib py text expectedSchema with
      | error exc => exact absurd hparse (hraises exc)
      | ok d =>
        obtain ⟨parsed, rfl⟩ := exists_applySchema hparse
        refine ⟨_, rfl, ?_⟩
        rintro schema rfl key hkey
        exact mem_keys_applySchema parsed hkey
  rw [hsame, and_self, hreturns]
  by_cases hcleaned : stripCodeFences text = []
  · refine iff_of_true (fun exc hexc => ?_) (Or.inl hcleaned)
    rw [JsonResponseParser.parse, JsonResponseParser.parseSync] at hexc
    simp only [if_pos hcleaned] at hexc
    cases hexc
  · simp only [ne_eq, parse_eq_error_iff hcleaned, hcleaned, false_or]
    constructor
    · intro h
      exact ⟨fun hoverflows => h _ (Or.inl ⟨rfl, hoverflows⟩),
        fun hunencodable => h _ (Or.inr ⟨rfl, hunencodable⟩)⟩
    · rintro ⟨hoverflows, hunencodable⟩ exc (⟨-, h⟩ | ⟨-, h⟩)
      · exact hoverflows h
      · exact hunencodable h

end Escapes

/-! ### A text of opening brackets -/

/-- A decoder that gives up where a text begins with `limit` brackets, and otherwise finds that
they are not closed; nothing is repaired. -/
def nestingLibrary (limit : ℕ) : JsonLibrary where
  loads text :=
    .error (if limit ≤ (text.takeWhile fun c => decide (c = CodePoint.of '[')).length
      then .recursionError else .jsonDecodeError "Expecting value")
  repairJson? _ := none

/-- Methods on ASCII text without letters. -/
def bracketMethods : JsonMethods where
  isDecimal c := decide (48 ≤ c.val ∧ c.val ≤ 57)
  lower := id
  float? _ := none
  int? _ := none
  unescape := id

/-- `"[" * 100000`. -/
def nestedText : PyStr := List.replicate 100000 (.of '[')

theorem loads_nestedText : (nestingLibrary 1000).loads nestedText = .error .recursionError := by
  have htake : nestedText.takeWhile (fun c => decide (c = CodePoint.of '[')) = nestedText := by
    rw [List.takeWhile_eq_self_iff]
    intro c hc
    rw [List.eq_of_mem_replicate hc, decide_eq_true rfl]
  have hlength : 1000 ≤ nestedText.length := by
    rw [nestedText, List.length_replicate]
    omega
  simp only [nestingLibrary, htake, if_pos hlength]

theorem overflows_nestedText : Overflows (nestingLibrary 1000) nestedText :=
  ⟨[], nestedText, _, rfl, fun _ h => absurd h List.not_mem_nil, loads_nestedText⟩

/-- On a text of opening brackets `json.loads` raises `RecursionError`, and so does the parser. -/
theorem not_forall_returnsFilled :
    ¬ ∀ (text : PyStr) (expectedSchema : Option JsonDict),
      ReturnsFilled (JsonResponseParser.parse (nestingLibrary 1000) bracketMethods text
        expectedSchema) expectedSchema := by
  intro hreturns
  have hcleaned : stripCodeFences nestedText = nestedText := by
    refine stripCodeFences_eq_self (fun c hc => ?_) fun hfence => ?_
    · rw [List.eq_of_mem_replicate hc]
      decide
    · have hfirst : CodePoint.of '`' ∈ nestedText :=
        hfence.subset (PyStr.mem_of.mpr (by simp))
      exact absurd (List.eq_of_mem_replicate hfirst) (by decide)
  have hne : stripCodeFences nestedText ≠ [] := by
    rw [hcleaned, nestedText]
    exact List.ne_nil_of_length_eq_add_one List.length_replicate
  obtain ⟨d, hd, -⟩ := hreturns nestedText none
  have hraises : JsonResponseParser.parse (nestingLibrary 1000) bracketMethods nestedText none =
      .error .recursionError :=
    (parse_eq_error_iff hne).mpr (Or.inl ⟨rfl, hcleaned.symm ▸ overflows_nestedText⟩)
  rw [hraises] at hd
  cases hd

end ZubotIngestion
