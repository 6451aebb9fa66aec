import ZubotIngestion.Python.CodePoints
import ZubotIngestion.Python.Nested
import ZubotIngestion.Text.Replace

/-!
# The scrubber of the logs

`scrub_sensitive_processor` of `infrastructure/logging/config.py` replaces the values that are
stored under a sensitive key by a placeholder, at any depth of an event dictionary. What it returns
is determined by the rest of the event, and contains all of it.

## Main definitions

* `isSensitiveKey`, `scrubValue`, `scrubSensitiveProcessor`.
* `DifferBelowSensitive`: two events have the same containers, keys and values elsewhere.

## Main results

* `scrub_noninterfering`: two such events are scrubbed to one, and an event agrees with what is
  left of it.
-/

namespace ZubotIngestion

/-! ### Keys -/

/-- A scalar, which can also be a key: a string, or an object of another type. -/
inductive LogScalar (ρ : Type) : Type where
  | str (text : PyStr)
  | other (object : ρ)
  deriving DecidableEq

/-- `SENSITIVE_KEY_FRAGMENTS`. -/
def sensitiveKeyFragments : List PyStr :=
  ["api_key", "apikey", "jwt", "token", "password", "secret", "file_bytes", "file_contents",
    "authorization"].map PyStr.of

/-- `REDACTION_PLACEHOLDER`. -/
def redactionPlaceholder : PyStr := .of "***REDACTED***"

/-- A value of an event. -/
abbrev LogValue (ρ : Type) : Type := Nested (LogScalar ρ) (LogScalar ρ)

/-- The event dictionary. -/
abbrev EventDict (ρ : Type) : Type := PyDict (LogScalar ρ) (LogValue ρ)

section Scrubber

variable {ρ : Type} (lower : PyStr → PyStr)

/-- `text.replace(c, "_")`. -/
def underscoreFor (c : Char) (text : PyStr) : PyStr := Text.replaceAll [.of c] [.of '_'] text

/-- `_is_sensitive_key`, for the `str.lower` that is given. -/
def isSensitiveKey : LogScalar ρ → Bool
  | .str key =>
    let normalised := underscoreFor ' ' (underscoreFor '.' (underscoreFor '-' (lower key)))
    sensitiveKeyFragments.any fun fragment => decide (fragment <:+: normalised)
  | .other _ => false

/-! ### The scrubber -/

/-- The placeholder as a value. -/
def redacted : LogValue ρ := .scalar (.str redactionPlaceholder)

mutual

/-- `_scrub_value`. -/
def scrubValue : LogValue ρ → LogValue ρ
  | .dict items => .dict (scrubItems items)
  | .list items => .list (scrubAll items)
  | .tuple items => .tuple (scrubAll items)
  | .scalar s => .scalar s

/-- The comprehension over the items of a dictionary. -/
def scrubItems : List (LogScalar ρ × LogValue ρ) → List (LogScalar ρ × LogValue ρ)
  | [] => []
  | (k, v) :: items =>
    (k, if isSensitiveKey lower k then redacted else scrubValue v) :: scrubItems items

/-- The comprehension over the elements of a list or a tuple. -/
def scrubAll : List (LogValue ρ) → List (LogValue ρ)
  | [] => []
  | item :: items => scrubValue item :: scrubAll items

end

/-- The scrubbed value of a key. -/
def scrubUnder (key : LogScalar ρ) (value : LogValue ρ) : LogValue ρ :=
  if isSensitiveKey lower key then redacted else scrubValue lower value

variable {lower}

/-! ### Values -/

theorem scrubItems_eq_map (items : List (LogScalar ρ × LogValue ρ)) :
    scrubItems lower items = items.map fun item => (item.1, scrubUnder lower item.1 item.2) := by
  induction items with
  | nil => rfl
  | cons item items ih => rw [scrubItems, ih, List.map_cons, scrubUnder]

theorem scrubAll_eq_map (items : List (LogValue ρ)) :
    scrubAll lower items = items.map (scrubValue lower) := by
  induction items with
  | nil => rfl
  | cons item items ih => rw [scrubAll, ih, List.map_cons]

/-- What stands below a sensitive key does not matter. -/
theorem scrubValue_eq_of_agree {v w : LogValue ρ} (h : v.AgreeExcept (isSensitiveKey lower) w) :
    scrubValue lower v = scrubValue lower w := by
  induction v using Nested.induction generalizing w with
  | scalar s =>
    cases h
    rfl
  | dict items ih =>
    cases h with
    | dict hitems =>
      rw [scrubValue, scrubValue, scrubItems_eq_map, scrubItems_eq_map]
      refine congrArg Nested.dict
        (Nested.map_eq_map_of_forall₂ hitems fun item hitem item' hagree => ?_)
      cases hagree with
      | hidden hkey v w => rw [scrubUnder, scrubUnder, if_pos hkey, if_pos hkey]
      | shown key hvalue => rw [scrubUnder, scrubUnder, ih _ hitem hvalue]
  | list items ih =>
    cases h with
    | list hitems =>
      rw [scrubValue, scrubValue, scrubAll_eq_map, scrubAll_eq_map]
      exact congrArg Nested.list (Nested.map_eq_map_of_forall₂ hitems fun v hv w => ih v hv)
  | tuple items ih =>
    cases h with
    | tuple hitems =>
      rw [scrubValue, scrubValue, scrubAll_eq_map, scrubAll_eq_map]
      exact congrArg Nested.tuple (Nested.map_eq_map_of_forall₂ hitems fun v hv w => ih v hv)

/-- Nothing else is changed. -/
theorem scrubValue_agree (v : LogValue ρ) :
    (scrubValue lower v).AgreeExcept (isSensitiveKey lower) v := by
  induction v using Nested.induction with
  | scalar s => exact .scalar s
  | dict items ih =>
    rw [scrubValue, scrubItems_eq_map]
    refine .dict (List.forall₂_map_left_iff.mpr (List.forall₂_same.mpr fun item hitem => ?_))
    by_cases hkey : isSensitiveKey lower item.1 = true
    · exact .hidden hkey _ _
    · rw [scrubUnder, if_neg hkey]
      exact .shown _ (ih item hitem)
  | list items ih =>
    rw [scrubValue, scrubAll_eq_map]
    exact .list (List.forall₂_map_left_iff.mpr (List.forall₂_same.mpr ih))
  | tuple items ih =>
    rw [scrubValue, scrubAll_eq_map]
    exact .tuple (List.forall₂_map_left_iff.mpr (List.forall₂_same.mpr ih))

/-! ### Events -/

variable (lower) [DecidableEq ρ]

/-- The body of the loop over the keys. -/
def scrubKey (eventDict : EventDict ρ) (key : LogScalar ρ) : EventDict ρ :=
  if isSensitiveKey lower key then eventDict.set key redacted
  else match eventDict.get? key with
    | some value => eventDict.set key (scrubValue lower value)
    -- a `KeyError`, but the keys are those of the dictionary
    | none => eventDict

/-- `scrub_sensitive_processor`. -/
def scrubSensitiveProcessor (eventDict : EventDict ρ) : EventDict ρ :=
  eventDict.keys.foldl (scrubKey lower) eventDict

/-- Two events have the same containers, keys and values, except for the values that are stored, at
any depth, under a sensitive key. -/
def DifferBelowSensitive (d d' : EventDict ρ) : Prop :=
  Nested.AgreeExcept (isSensitiveKey lower) (.dict d.items : LogValue ρ) (.dict d'.items)

variable {lower}

/-- The loop scrubs an event like a dictionary in it. -/
theorem dict_items_scrubSensitiveProcessor (eventDict : EventDict ρ) :
    (.dict (scrubSensitiveProcessor lower eventDict).items : LogValue ρ) =
      scrubValue lower (.dict eventDict.items) := by
  have hstep (d : EventDict ρ) (key : LogScalar ρ) (value : LogValue ρ)
      (h : d.get? key = some value) :
      scrubKey lower d key = d.set key (scrubUnder lower key value) := by
    rw [scrubKey, scrubUnder, h]
    split_ifs <;> rfl
  rw [scrubSensitiveProcessor, PyDict.items_foldl_set hstep, scrubValue, scrubItems_eq_map]

/-- Two events that differ only below sensitive keys are scrubbed to one, a scrubbed event is not
changed any more, and it differs from the event only below sensitive keys. -/
theorem scrub_noninterfering (lower : PyStr → PyStr) :
    (∀ d d' : EventDict ρ, DifferBelowSensitive lower d d' →
      scrubSensitiveProcessor lower d = scrubSensitiveProcessor lower d') ∧
    (∀ d : EventDict ρ, scrubSensitiveProcessor lower (scrubSensitiveProcessor lower d) =
      scrubSensitiveProcessor lower d) ∧
    ∀ d : EventDict ρ, DifferBelowSensitive lower (scrubSensitiveProcessor lower d) d := by
  have hsame : ∀ d d' : EventDict ρ, DifferBelowSensitive lower d d' →
      scrubSensitiveProcessor lower d = scrubSensitiveProcessor lower d' := by
    intro d d' h
    have hitems := scrubValue_eq_of_agree h
    rw [← dict_items_scrubSensitiveProcessor, ← dict_items_scrubSensitiveProcessor] at hitems
    exact PyDict.ext (Nested.dict.inj hitems)
  have hdiffer : ∀ d : EventDict ρ,
      DifferBelowSensitive lower (scrubSensitiveProcessor lower d) d := by
    intro d
    rw [DifferBelowSensitive, dict_items_scrubSensitiveProcessor]
    exact scrubValue_agree _
  exact ⟨hsame, fun d => hsame _ d (hdiffer d), hdiffer⟩

end Scrubber

/-- A request with a key in its headers. -/
def requestEvent (key : String) : EventDict Empty where
  items := [(.str (.of "event"), .scalar (.str (.of "request.start"))),
    (.str (.of "headers"), .dict [(.str (.of "x-api-key"), .scalar (.str (.of key))),
      (.str (.of "user-agent"), .scalar (.str (.of "curl/8.4.0")))])]
  nodup_keys :=
    (by decide : [LogScalar.str (.of "event"), LogScalar.str (.of "headers")].Nodup)

theorem scrub_noninterfering_requestEvent :
    scrubSensitiveProcessor id (requestEvent "ak_live_abc123") =
      scrubSensitiveProcessor id (requestEvent "") := by
  refine (scrub_noninterfering id).1 _ _
    (.dict (.cons (.shown _ (.scalar _)) (.cons (.shown _ ?_) .nil)))
  exact .dict (.cons (.hidden (by decide) _ _) (.cons (.shown _ (.scalar _)) .nil))

end ZubotIngestion
