import ZubotIngestion.Python.Float

/-!
# JSON-like values and exceptions

Result blobs, traces and model answers are Python dictionaries of JSON-like values. A dictionary
is kept as the list of its items in insertion order; `Dict.insert` overwrites in place, as
`d[key] = value` does, so a dictionary built by insertions has each key once.

## Main definitions

* `PyVal`, `Dict`, `Dict.get?`, `Dict.insert`.
* `PyException`: a raised exception, seen through its type name and its text.

## Main results

* `Dict.get?_insert_self`, `Dict.get?_insert_of_ne`.
* `Dict.get?_eq_some_iff`: what a dictionary with different keys has under a key.
-/

namespace ZubotIngestion

/-- A JSON-like Python value. -/
inductive PyVal : Type where
  /-- `None`. -/
  | none
  /-- A Boolean. -/
  | bool (b : Bool)
  /-- An integer of any size. -/
  | int (i : ℤ)
  /-- A float. -/
  | float (f : PyFloat)
  /-- A string. -/
  | str (s : String)
  /-- A list. -/
  | list (items : List PyVal)
  /-- A dictionary with string keys, as its items in insertion order. -/
  | dict (items : List (String × PyVal))

/-- A Python dictionary with string keys, as its items in insertion order. -/
abbrev Dict : Type := List (String × PyVal)

namespace Dict

/-- `d.get(key)`. -/
def get? : Dict → String → Option PyVal
  | [], _ => none
  | (k, v) :: d, key => if k = key then some v else get? d key

/-- `d[key] = value`: overwrites the item with this key, or appends a new one. -/
def insert : Dict → String → PyVal → Dict
  | [], key, value => [(key, value)]
  | (k, v) :: d, key, value => if k = key then (k, value) :: d else (k, v) :: insert d key value

@[simp] theorem get?_nil (key : String) : get? [] key = none := rfl

theorem get?_cons (k : String) (v : PyVal) (d : Dict) (key : String) :
    get? ((k, v) :: d) key = if k = key then some v else get? d key := rfl

@[simp] theorem get?_insert_self (d : Dict) (key : String) (value : PyVal) :
    get? (insert d key value) key = some value := by
  induction d with
  | nil => simp [insert, get?_cons]
  | cons item d ih =>
    obtain ⟨k, v⟩ := item
    by_cases h : k = key <;> simp [insert, get?_cons, h, ih]

theorem get?_insert_of_ne {key key' : String} (h : key ≠ key') (d : Dict) (value : PyVal) :
    get? (insert d key value) key' = get? d key' := by
  induction d with
  | nil => simp [insert, get?_cons, h]
  | cons item d ih =>
    obtain ⟨k, v⟩ := item
    by_cases hk : k = key
    · simp [insert, get?_cons, hk, h]
    · simp only [insert, if_neg hk, get?_cons, ih]

/-- In a dictionary with each key once, every item is found under its key. -/
theorem get?_eq_some_iff {d : Dict} (h : (d.map Prod.fst).Nodup) {key : String}
    {value : PyVal} : d.get? key = some value ↔ (key, value) ∈ d := by
  induction d with
  | nil => simp
  | cons item d ih =>
    obtain ⟨k, v⟩ := item
    rw [List.map_cons, List.nodup_cons] at h
    rw [Dict.get?_cons, List.mem_cons, Prod.mk.injEq]
    by_cases hkey : k = key
    · subst hkey
      have hrest : (k, value) ∉ d := fun hmem => h.1 (List.mem_map.mpr ⟨_, hmem, rfl⟩)
      simp [hrest, eq_comm]
    · rw [if_neg hkey, ih h.2]
      simp [Ne.symm hkey]

end Dict

/-- `None` or a string, as a value. -/
def PyVal.ofOptionStr : Option String → PyVal
  | .some s => .str s
  | .none => .none

/-- A raised exception. -/
inductive PyException : Type where
  /-- An exception of class `typeName` with text `message`. -/
  | error (typeName message : String)
  /-- The framework's `HTTPException`, answered to the client with `status` and `detail`. -/
  | http (status : ℕ) (detail : String)
  deriving DecidableEq

namespace PyException

/-- `type(exc).__name__`. -/
def typeName : PyException → String
  | error name _ => name
  | http _ _ => "HTTPException"

/-- `str(exc)`. -/
def message : PyException → String
  | error _ text => text
  | http status detail => s!"{status}: {detail}"

end PyException

end ZubotIngestion
