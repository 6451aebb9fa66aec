import Mathlib.Data.List.Forall2
import Mathlib.Data.List.Nodup

/-!
# Dictionaries and nested containers

A dictionary has its keys in the order of their insertion, each of them once. A loop over the keys
that assigns to each key a function of its value leaves the dictionary with all its values mapped.

A nested value is built from scalars with dictionaries, lists and tuples. Two of them agree except
below some keys if they have the same shape and the same scalars there.

## Main definitions

* `PyDict`, `PyDict.get?`, `PyDict.set`.
* `Nested`, `Nested.AgreeExcept`.

## Main results

* `PyDict.items_foldl_set`: a loop over the keys.
* `Nested.induction`: induction over the elements of the containers.
-/

namespace ZubotIngestion

/-! ### Dictionaries -/

section Dictionaries

variable {κ V : Type}

/-- A dictionary, as its items in the order of insertion. -/
structure PyDict (κ V : Type) where
  items : List (κ × V)
  nodup_keys : (items.map Prod.fst).Nodup

namespace PyDict

/-- `list(d.keys())`. -/
def keys (d : PyDict κ V) : List κ := d.items.map Prod.fst

@[ext] theorem ext {d d' : PyDict κ V} (h : d.items = d'.items) : d = d' := by
  cases d
  cases d'
  congr

variable [DecidableEq κ]

/-- `d.get(key)`. -/
def get? (d : PyDict κ V) (key : κ) : Option V := d.items.lookup key

/-- The items after an assignment, which overwrites a value in its place. -/
def setItem (key : κ) (value : V) : List (κ × V) → List (κ × V)
  | [] => [(key, value)]
  | item :: items =>
    if item.1 = key then (key, value) :: items else item :: setItem key value items

/-- An assignment to a key of the dictionary keeps the keys. -/
theorem keys_setItem_of_mem {key : κ} {items : List (κ × V)} (h : key ∈ items.map Prod.fst)
    (value : V) : (setItem key value items).map Prod.fst = items.map Prod.fst := by
  induction items with
  | nil => cases h
  | cons item items ih =>
    rw [setItem]
    split_ifs with hkey
    · rw [List.map_cons, List.map_cons, hkey]
    · rw [List.map_cons, List.map_cons,
        ih ((List.mem_cons.mp h).resolve_left (Ne.symm hkey))]

/-- An assignment to a new key adds it behind the others. -/
theorem setItem_of_notMem {key : κ} {items : List (κ × V)} (h : key ∉ items.map Prod.fst)
    (value : V) : setItem key value items = items ++ [(key, value)] := by
  induction items with
  | nil => rfl
  | cons item items ih =>
    rw [List.map_cons, List.mem_cons, not_or] at h
    rw [setItem, if_neg (Ne.symm h.1), ih h.2, List.cons_append]

theorem nodup_keys_setItem {items : List (κ × V)} (h : (items.map Prod.fst).Nodup) (key : κ)
    (value : V) : ((setItem key value items).map Prod.fst).Nodup := by
  by_cases hkey : key ∈ items.map Prod.fst
  · rwa [keys_setItem_of_mem hkey]
  · rw [setItem_of_notMem hkey, List.map_append, List.map_singleton]
    exact h.append (List.nodup_singleton key) (List.disjoint_singleton.mpr hkey)

/-- `d[key] = value`. -/
def set (d : PyDict κ V) (key : κ) (value : V) : PyDict κ V :=
  ⟨setItem key value d.items, nodup_keys_setItem d.nodup_keys key value⟩

theorem setItem_append_cons {key : κ} {before : List (κ × V)} (h : key ∉ before.map Prod.fst)
    (old value : V) (rest : List (κ × V)) :
    setItem key value (before ++ (key, old) :: rest) = before ++ (key, value) :: rest := by
  induction before with
  | nil => exact if_pos rfl
  | cons item before ih =>
    rw [List.map_cons, List.mem_cons, not_or] at h
    rw [List.cons_append, setItem, if_neg (Ne.symm h.1), ih h.2, List.cons_append]

theorem get?_of_items_eq {d : PyDict κ V} {key : κ} {value : V} {before rest : List (κ × V)}
    (hitems : d.items = before ++ (key, value) :: rest) (h : key ∉ before.map Prod.fst) :
    d.get? key = some value := by
  have hbefore : before.lookup key = none := by
    rw [List.lookup_eq_none_iff]
    intro item hitem
    exact bne_iff_ne.mpr fun heq => h (heq ▸ List.mem_map_of_mem hitem)
  rw [get?, hitems, List.lookup_append, hbefore, Option.none_or, List.lookup_cons_self]

/-- A loop over the keys that assigns to each key a function of its value. -/
theorem items_foldl_set {step : PyDict κ V → κ → PyDict κ V} {f : κ → V → V}
    (hstep : ∀ (d : PyDict κ V) key value, d.get? key = some value →
      step d key = d.set key (f key value)) (d : PyDict κ V) :
    (d.keys.foldl step d).items = d.items.map fun item => (item.1, f item.1 item.2) := by
  -- the keys that have been visited stand before those that have not
  have hloop : ∀ (rest before : List (κ × V)) (d : PyDict κ V), d.items = before ++ rest →
      ((rest.map Prod.fst).foldl step d).items =
        before ++ rest.map fun item => (item.1, f item.1 item.2) := by
    intro rest
    induction rest with
    | nil => exact fun before d hitems => hitems
    | cons item rest ih =>
      intro before d hitems
      obtain ⟨key, value⟩ := item
      have hkey : key ∉ before.map Prod.fst := by
        have hnodup := d.nodup_keys
        rw [hitems, List.map_append, List.map_cons] at hnodup
        exact fun h => List.disjoint_of_nodup_append hnodup h List.mem_cons_self
      have hset : (d.set key (f key value)).items = before ++ [(key, f key value)] ++ rest := by
        have hitem := setItem_append_cons hkey value (f key value) rest
        rw [← hitems] at hitem
        exact hitem.trans (List.append_cons _ _ _)
      rw [List.map_cons, List.foldl_cons, hstep d key value (get?_of_items_eq hitems hkey),
        ih _ _ hset, List.map_cons, List.append_assoc, List.singleton_append]
  exact hloop d.items [] d rfl

end PyDict

end Dictionaries

/-! ### Nested values -/

/-- A value that is built from scalars with dictionaries, lists and tuples. -/
inductive Nested (κ σ : Type) : Type where
  | scalar (s : σ)
  | dict (items : List (κ × Nested κ σ))
  | list (items : List (Nested κ σ))
  | tuple (items : List (Nested κ σ))

namespace Nested

variable {κ σ : Type}

/-- Induction over the elements of the containers. -/
@[elab_as_elim]
theorem induction {motive : Nested κ σ → Prop} (scalar : ∀ s, motive (.scalar s))
    (dict : ∀ items, (∀ item ∈ items, motive item.2) → motive (.dict items))
    (list : ∀ items, (∀ v ∈ items, motive v) → motive (.list items))
    (tuple : ∀ items, (∀ v ∈ items, motive v) → motive (.tuple items)) (v : Nested κ σ) :
    motive v :=
  @Nested.rec κ σ motive (fun items => ∀ item ∈ items, motive item.2)
    (fun items => ∀ v ∈ items, motive v) (fun item => motive item.2)
    scalar dict list tuple (fun _ h => absurd h List.not_mem_nil)
    (fun _ _ hitem hitems => List.forall_mem_cons.mpr ⟨hitem, hitems⟩)
    (fun _ h => absurd h List.not_mem_nil)
    (fun _ _ hv hitems => List.forall_mem_cons.mpr ⟨hv, hitems⟩) (fun _ _ h => h) v

/-- Related elements that a function does not tell apart. -/
theorem map_eq_map_of_forall₂ {α β : Type} {r : α → α → Prop} {f : α → β} {xs ys : List α}
    (h : List.Forall₂ r xs ys) (hf : ∀ x ∈ xs, ∀ y, r x y → f x = f y) : xs.map f = ys.map f := by
  induction h with
  | nil => rfl
  | cons hxy _ ih =>
    obtain ⟨hx, hxs⟩ := List.forall_mem_cons.mp hf
    rw [List.map_cons, List.map_cons, hx _ hxy, ih hxs]

/-- Two items with one key, and with values that are related unless the key is hidden. -/
inductive AgreeItem (hidden : κ → Bool) {V : Type} (r : V → V → Prop) : κ × V → κ × V → Prop
  | hidden {key : κ} (h : hidden key = true) (v w : V) : AgreeItem hidden r (key, v) (key, w)
  | shown (key : κ) {v w : V} (h : r v w) : AgreeItem hidden r (key, v) (key, w)

/-- Two values have the same containers, keys and scalars, except for what stands below a hidden
key. -/
inductive AgreeExcept (hidden : κ → Bool) : Nested κ σ → Nested κ σ → Prop
  | scalar (s : σ) : AgreeExcept hidden (.scalar s) (.scalar s)
  | dict {items items' : List (κ × Nested κ σ)}
      (h : List.Forall₂ (AgreeItem hidden (AgreeExcept hidden)) items items') :
      AgreeExcept hidden (.dict items) (.dict items')
  | list {items items' : List (Nested κ σ)} (h : List.Forall₂ (AgreeExcept hidden) items items') :
      AgreeExcept hidden (.list items) (.list items')
  | tuple {items items' : List (Nested κ σ)} (h : List.Forall₂ (AgreeExcept hidden) items items') :
      AgreeExcept hidden (.tuple items) (.tuple items')

end Nested

end ZubotIngestion
