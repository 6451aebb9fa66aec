import Mathlib.Data.List.Induction
import Mathlib.Data.List.Nodup

/-!
# Tables with a primary key

A table is a list of rows in insertion order, no two of which have the same key. The list is kept
because queries sort and count rows; everything else is stated through `find?`.

## Main definitions

* `Table`, `Table.find?`, `Table.insert`, `Table.modify`.
* `Table.put`, `Table.ofList`: rows that overwrite earlier ones.
* `Table.erase`: the table without a row.

## Main results

* `Table.mem_rows_iff`: a row is in the table iff its key finds it.
* `Table.find?_insert`, `Table.find?_modify_self`, `Table.find?_modify_of_ne`.
* `Table.put_put_of_find?`, `Table.erase_put_of_find?_eq_none`: how a row that was put is undone.
* `Table.find?_ofList`: a key finds the last row that has it.
-/

namespace ZubotIngestion.Store

/-- A list of rows with pairwise different keys. -/
structure Table {κ ρ : Type} (key : ρ → κ) where
  /-- The rows, oldest first. -/
  rows : List ρ
  /-- The key is primary. -/
  nodup : (rows.map key).Nodup

namespace Table

variable {κ ρ : Type} {key : ρ → κ}

/-- The table without rows. -/
def empty : Table key := ⟨[], List.nodup_nil⟩

variable [DecidableEq κ]

/-- The row with key `k`. -/
def find? (t : Table key) (k : κ) : Option ρ := t.rows.find? fun r => decide (key r = k)

theorem key_eq_of_find? {t : Table key} {k : κ} {r : ρ} (h : t.find? k = some r) : key r = k := by
  simpa using List.find?_some h

/-- A row is in the table iff its key finds it. -/
theorem mem_rows_iff (t : Table key) (r : ρ) : r ∈ t.rows ↔ t.find? (key r) = some r := by
  constructor
  · intro hr
    have hfound : t.find? (key r) ≠ none := fun h => by
      simpa using List.find?_eq_none.mp h r hr
    obtain ⟨r', hr'⟩ := Option.ne_none_iff_exists'.mp hfound
    have hmem : r' ∈ t.rows := List.mem_of_find?_eq_some hr'
    rw [hr', List.inj_on_of_nodup_map t.nodup hmem hr (key_eq_of_find? hr')]
  · exact List.mem_of_find?_eq_some

theorem mem_rows_iff_exists (t : Table key) (r : ρ) : r ∈ t.rows ↔ ∃ k, t.find? k = some r := by
  constructor
  · exact fun hr => ⟨key r, (t.mem_rows_iff r).mp hr⟩
  · rintro ⟨k, hk⟩
    exact List.mem_of_find?_eq_some hk

theorem not_mem_keys_iff (t : Table key) (k : κ) : k ∉ t.rows.map key ↔ t.find? k = none := by
  simp [find?]

/-- The table with a new row at its end; its key must be free. -/
def insert (t : Table key) (r : ρ) (h : t.find? (key r) = none) : Table key where
  rows := t.rows ++ [r]
  nodup := by
    rw [List.map_append, List.nodup_append]
    refine ⟨t.nodup, by simp, ?_⟩
    rintro a ha b hb rfl
    rw [List.map_singleton, List.mem_singleton] at hb
    exact (t.not_mem_keys_iff (key r)).mpr h (hb ▸ ha)

/-- The table with `f` applied to the row of key `k`; `f` keeps keys. -/
def modify (t : Table key) (k : κ) (f : ρ → ρ) (hf : ∀ r, key (f r) = key r) : Table key where
  rows := t.rows.map fun r => if key r = k then f r else r
  nodup := by
    have hkeys : (t.rows.map fun r => if key r = k then f r else r).map key = t.rows.map key := by
      rw [List.map_map]
      refine List.map_congr_left fun r _ => ?_
      by_cases h : key r = k <;> simp [h, hf]
    rw [hkeys]
    exact t.nodup

@[simp] theorem find?_empty (k : κ) : (empty : Table key).find? k = none := rfl

theorem find?_insert (t : Table key) (r : ρ) (h : t.find? (key r) = none) (k : κ) :
    (t.insert r h).find? k = if key r = k then some r else t.find? k := by
  rw [find?, insert, List.find?_append]
  by_cases hk : key r = k
  · subst hk
    rw [if_pos rfl]
    simp only [find?] at h
    simp [h]
  · simp [hk, find?]

theorem find?_modify_self (t : Table key) (k : κ) (f : ρ → ρ) (hf : ∀ r, key (f r) = key r) :
    (t.modify k f hf).find? k = (t.find? k).map f := by
  have hmap : ∀ rows : List ρ,
      (rows.map fun r => if key r = k then f r else r).find? (fun r => decide (key r = k)) =
        (rows.find? fun r => decide (key r = k)).map f := by
    intro rows
    induction rows with
    | nil => rfl
    | cons r rows ih => by_cases h : key r = k <;> simp [h, hf, ih]
  exact hmap t.rows

theorem find?_modify_of_ne (t : Table key) {k k' : κ} (hk : k ≠ k') (f : ρ → ρ)
    (hf : ∀ r, key (f r) = key r) : (t.modify k f hf).find? k' = t.find? k' := by
  have hmap : ∀ rows : List ρ,
      (rows.map fun r => if key r = k then f r else r).find? (fun r => decide (key r = k')) =
        rows.find? fun r => decide (key r = k') := by
    intro rows
    induction rows with
    | nil => rfl
    | cons r rows ih =>
      by_cases h : key r = k
      · have hr : key r ≠ k' := h ▸ hk
        simp [h, hf, hk, ih]
      · simp only [List.map_cons, if_neg h, List.find?_cons, ih]
  exact hmap t.rows

/-! ### Overwriting rows -/

/-- The table with the row `r` at its key, in the place of the row that had the key, or at the
end. -/
def put (t : Table key) (r : ρ) : Table key :=
  match h : t.find? (key r) with
  | none => t.insert r h
  | some _ => t.modify (key r) (fun r' => if key r' = key r then r else r') fun r' => by
      split_ifs with hr
      · exact hr.symm
      · rfl

theorem find?_put (t : Table key) (r : ρ) (k : κ) :
    (t.put r).find? k = if key r = k then some r else t.find? k := by
  rw [put]
  split
  case h_1 h => exact t.find?_insert r h k
  case h_2 r' h =>
    split_ifs with hk
    · subst hk
      rw [find?_modify_self, h, Option.map_some, if_pos (key_eq_of_find? h)]
    · exact t.find?_modify_of_ne hk _ _

omit [DecidableEq κ] in
/-- A table is determined by its rows. -/
theorem eq_of_rows {t t' : Table key} (h : t.rows = t'.rows) : t = t' := by
  cases t
  cases t'
  congr

/-- The rows after a row was put into the place of an earlier one. -/
theorem rows_put_of_find? {t : Table key} {r r' : ρ} (h : t.find? (key r) = some r') :
    (t.put r).rows = t.rows.map fun r' => if key r' = key r then r else r' := by
  rw [put]
  split
  case h_1 hfree => cases hfree.symm.trans h
  case h_2 =>
    refine List.map_congr_left fun row _ => ?_
    by_cases hk : key row = key r <;> simp [hk]

/-- The rows after a row was put at the end. -/
theorem rows_put_of_find?_eq_none {t : Table key} {r : ρ} (h : t.find? (key r) = none) :
    (t.put r).rows = t.rows ++ [r] := by
  rw [put]
  split
  case h_1 => rfl
  case h_2 hfound => cases h.symm.trans hfound

/-- The table without the row of a key. -/
def erase (t : Table key) (k : κ) : Table key where
  rows := t.rows.filter fun r => decide (key r ≠ k)
  nodup := t.nodup.sublist (List.filter_sublist.map key)

/-- A row that is put back undoes what was put into its place. -/
theorem put_put_of_find? {t : Table key} {r r' : ρ} (hkey : key r' = key r)
    (h : t.find? (key r) = some r) : (t.put r').put r = t := by
  have hfound : (t.put r').find? (key r) = some r' := by rw [find?_put, if_pos hkey]
  refine eq_of_rows ?_
  rw [rows_put_of_find? hfound, rows_put_of_find? (hkey ▸ h), List.map_map]
  refine (List.map_congr_left fun row hrow => ?_).trans (List.map_id _)
  have hrow' := (t.mem_rows_iff row).mp hrow
  by_cases hk : key row = key r
  · rw [hk] at hrow'
    simp [hkey, hk, Option.some.inj (h.symm.trans hrow')]
  · simp [hkey, hk]

/-- Erasing a key undoes what was put at the end under it. -/
theorem erase_put_of_find?_eq_none {t : Table key} {r : ρ} (h : t.find? (key r) = none) :
    (t.put r).erase (key r) = t := by
  refine eq_of_rows ?_
  have hrows : ∀ row ∈ t.rows, key row ≠ key r := fun row hrow hk =>
    (t.not_mem_keys_iff (key r)).mpr h (List.mem_map.mpr ⟨row, hrow, hk⟩)
  calc ((t.put r).erase (key r)).rows
      = (t.rows ++ [r]).filter fun row => decide (key row ≠ key r) := by
        rw [← rows_put_of_find?_eq_none h]
        rfl
    _ = t.rows := by
        rw [List.filter_append,
          List.filter_eq_self.mpr fun row hrow => decide_eq_true (hrows row hrow)]
        simp

/-- The rows one after the other, each in the place of an earlier row with its key. -/
def ofList (rows : List ρ) : Table key := rows.foldl put empty

/-- A key finds the last row that has it. -/
theorem find?_ofList (rows : List ρ) (k : κ) :
    (ofList rows : Table key).find? k = rows.reverse.find? fun r => decide (key r = k) := by
  induction rows using List.reverseRecOn with
  | nil => rfl
  | append_singleton rows r ih =>
    rw [ofList, List.foldl_append, List.foldl_cons, List.foldl_nil, find?_put, ← ofList, ih,
      List.reverse_concat, List.find?_cons]
    by_cases hk : key r = k <;> simp [hk]

theorem mem_of_find?_ofList {rows : List ρ} {k : κ} {r : ρ}
    (h : (ofList rows : Table key).find? k = some r) : r ∈ rows := by
  rw [find?_ofList] at h
  exact List.mem_reverse.mp (List.mem_of_find?_eq_some h)

end Table

end ZubotIngestion.Store
