import Mathlib.Data.List.Induction
import ZubotIngestion.Store.Table

/-!
# Tables that are the replay of a journal

A journal lists, in order, the rows inserted into a table, the writes made to its rows, and notes
about things that happened next to the table. The row of a key is the inserted row with all later
writes to that key applied in order, so what a row holds is a question about the last writes of
its history.

## Main definitions

* `Schema`: rows with a key, and writes that keep it.
* `Entry`, `History`, `history?`, `writesTo`: the part of a journal that concerns one key.
* `JournaledTable`: a table together with the journal it is the replay of.

## Main results

* `JournaledTable.find?_eq_map`: the row of a key is the replay of its history.
* `JournaledTable.history?_write_self`, `history?_write_of_ne`, `history?_note`,
  `history?_insert`: what each operation adds to the history of a key.
* `JournaledTable.mem_rows_iff`: the rows of the table are the ends of its histories.
-/

namespace ZubotIngestion.Store

/-- Rows with a primary key, writes that change a row but not its key, and notes. -/
structure Schema where
  /-- Primary keys. -/
  Key : Type
  /-- Rows. -/
  Row : Type
  /-- Updates of one row. -/
  Write : Type
  /-- Events recorded next to the table. -/
  Note : Type
  /-- The primary key of a row. -/
  key : Row → Key
  /-- The row after a write. -/
  apply : Write → Row → Row
  /-- A write keeps the key. -/
  key_apply : ∀ w r, key (apply w r) = key r

variable {D : Schema}

/-- One entry of a journal. -/
inductive Entry (D : Schema) : Type where
  /-- `row` was inserted. -/
  | inserted (row : D.Row)
  /-- `w` was applied to the row with key `k`. -/
  | wrote (k : D.Key) (w : D.Write)
  /-- Something else happened. -/
  | noted (n : D.Note)

/-- The history of one row: how it was inserted, and the writes made to it since. -/
structure History (D : Schema) where
  /-- The row as it was inserted. -/
  origin : D.Row
  /-- The writes, oldest first. -/
  writes : List D.Write

namespace History

/-- The row at the end of a history. -/
def row (h : History D) : D.Row := h.writes.foldl (fun r w => D.apply w r) h.origin

/-- The history with one more write. -/
def add (h : History D) (w : D.Write) : History D := { h with writes := h.writes ++ [w] }

@[simp] theorem row_mk_nil (r : D.Row) : (⟨r, []⟩ : History D).row = r := rfl

@[simp] theorem row_add (h : History D) (w : D.Write) : (h.add w).row = D.apply w h.row := by
  simp [row, add]

@[simp] theorem origin_add (h : History D) (w : D.Write) : (h.add w).origin = h.origin := rfl

@[simp] theorem writes_add (h : History D) (w : D.Write) : (h.add w).writes = h.writes ++ [w] := rfl

/-- A row is its last write applied to some earlier row, or as it was inserted. -/
theorem row_eq_of_getLast? {h : History D} {w : D.Write} (hw : h.writes.getLast? = some w) :
    ∃ h' : History D, h = h'.add w := by
  obtain ⟨ws, hws⟩ := List.getLast?_eq_some_iff.mp hw
  exact ⟨⟨h.origin, ws⟩, by rw [add, ← hws]⟩

/-- A property that the inserted row has and every write keeps holds at the end. -/
theorem row_induction {motive : D.Row → Prop} (h : History D) (horigin : motive h.origin)
    (hwrite : ∀ w ∈ h.writes, ∀ r, motive r → motive (D.apply w r)) : motive h.row := by
  obtain ⟨origin, writes⟩ := h
  induction writes using List.reverseRecOn with
  | nil => exact horigin
  | append_singleton ws w ih =>
    have hpre := ih horigin fun w' hw' => hwrite w' (List.mem_append_left _ hw')
    simpa [row] using hwrite w (by simp) _ hpre

/-- A column that a write either sets or leaves alone holds what the last write that sets it
wrote. -/
theorem column_row {γ : Type} {column : D.Row → Option γ} {written : D.Write → Option γ}
    (happly : ∀ w r, column (D.apply w r) = (written w).or (column r)) (h : History D) :
    column h.row = (h.writes.filterMap written).getLast?.or (column h.origin) := by
  obtain ⟨origin, writes⟩ := h
  induction writes using List.reverseRecOn with
  | nil => rfl
  | append_singleton ws w ih =>
    have hrow : (⟨origin, ws ++ [w]⟩ : History D).row = D.apply w (⟨origin, ws⟩ : History D).row :=
      row_add ⟨origin, ws⟩ w
    rw [hrow, happly, ih, List.filterMap_append]
    cases hw : written w with
    | none => simp [hw]
    | some value => simp [hw]

@[simp] theorem key_row (h : History D) : D.key h.row = D.key h.origin :=
  h.row_induction (motive := fun r => D.key r = D.key h.origin) rfl
    fun w _ r hr => (D.key_apply w r).trans hr

end History

variable [DecidableEq D.Key]

/-- What one journal entry does to the history of the key `k`. -/
def Entry.record (k : D.Key) (h : Option (History D)) : Entry D → Option (History D)
  | .inserted r => if D.key r = k then some ⟨r, []⟩ else h
  | .wrote k' w => if k' = k then h.map (·.add w) else h
  | .noted _ => h

/-- The history of the key `k` in a journal, if a row with this key was inserted. -/
def history? (journal : List (Entry D)) (k : D.Key) : Option (History D) :=
  journal.foldl (Entry.record k) none

@[simp] theorem history?_nil (k : D.Key) : history? ([] : List (Entry D)) k = none := rfl

theorem history?_concat (journal : List (Entry D)) (e : Entry D) (k : D.Key) :
    history? (journal ++ [e]) k = e.record k (history? journal k) := by
  simp [history?]

/-- The writes to the key `k` among some entries. -/
def writesTo (k : D.Key) (entries : List (Entry D)) : List D.Write :=
  entries.filterMap fun
    | .wrote k' w => if k' = k then some w else none
    | _ => none

@[simp] theorem writesTo_nil (k : D.Key) : writesTo k ([] : List (Entry D)) = [] := rfl

theorem writesTo_append (k : D.Key) (entries entries' : List (Entry D)) :
    writesTo k (entries ++ entries') = writesTo k entries ++ writesTo k entries' :=
  List.filterMap_append

@[simp] theorem writesTo_inserted (k : D.Key) (r : D.Row) :
    writesTo k [(.inserted r : Entry D)] = [] := rfl

@[simp] theorem writesTo_noted (k : D.Key) (n : D.Note) :
    writesTo k [(.noted n : Entry D)] = [] := rfl

theorem writesTo_wrote (k k' : D.Key) (w : D.Write) :
    writesTo k [(.wrote k' w : Entry D)] = if k' = k then [w] else [] := by
  by_cases h : k' = k <;> simp [writesTo, h]

/-- Entries that do not insert the key again extend its history by their writes to it. -/
theorem history?_append {journal entries : List (Entry D)} {k : D.Key} {h : History D}
    (hh : history? journal k = some h) (hentries : ∀ r, .inserted r ∈ entries → D.key r ≠ k) :
    history? (journal ++ entries) k = some ⟨h.origin, h.writes ++ writesTo k entries⟩ := by
  induction entries using List.reverseRecOn with
  | nil => rw [List.append_nil, hh, writesTo_nil, List.append_nil]
  | append_singleton entries e ih =>
    have hpre := ih fun r hr => hentries r (List.mem_append_left _ hr)
    rw [← List.append_assoc, history?_concat, hpre, writesTo_append]
    cases e with
    | inserted r =>
      have hr := hentries r (List.mem_append_right _ List.mem_cons_self)
      rw [Entry.record, if_neg hr, writesTo_inserted, List.append_nil]
    | wrote k' w =>
      rw [Entry.record, writesTo_wrote]
      by_cases hk : k' = k
      · rw [if_pos hk, if_pos hk, Option.map_some, History.add, List.append_assoc]
      · rw [if_neg hk, if_neg hk, List.append_nil]
    | noted n => rw [Entry.record, writesTo_noted, List.append_nil]

/-- Rows that are inserted have no writes yet, and leave the other histories alone. -/
theorem history?_append_inserted {journal : List (Entry D)} {rows : List D.Row} {k : D.Key}
    {h : History D} (hh : history? (journal ++ rows.map .inserted) k = some h) :
    h.writes = [] ∨ history? journal k = some h := by
  induction rows using List.reverseRecOn with
  | nil => exact .inr (by simpa using hh)
  | append_singleton rows row ih =>
    rw [List.map_append, ← List.append_assoc, List.map_singleton, history?_concat,
      Entry.record] at hh
    split_ifs at hh
    · obtain rfl := Option.some.inj hh
      exact .inl rfl
    · exact ih hh

/-- A row that was inserted has a history from then on. -/
theorem isSome_history?_append {journal : List (Entry D)} {k : D.Key}
    (h : (history? journal k).isSome) (entries : List (Entry D)) :
    (history? (journal ++ entries) k).isSome := by
  induction entries using List.reverseRecOn with
  | nil => rwa [List.append_nil]
  | append_singleton entries e ih =>
    rw [← List.append_assoc, history?_concat]
    cases e with
    | inserted r =>
      rw [Entry.record]
      split_ifs
      · rfl
      · exact ih
    | wrote k' w =>
      rw [Entry.record]
      split_ifs
      · rwa [Option.isSome_map]
      · exact ih
    | noted n => exact ih

/-- The writes of a history are recorded in the journal, and so is its inserted row. -/
theorem mem_of_history? {journal : List (Entry D)} {k : D.Key} {h : History D}
    (hh : history? journal k = some h) :
    (.inserted h.origin ∈ journal ∧ D.key h.origin = k) ∧ ∀ w ∈ h.writes, .wrote k w ∈ journal := by
  induction journal using List.reverseRecOn generalizing h with
  | nil => cases hh
  | append_singleton journal e ih =>
    rw [history?_concat] at hh
    cases e with
    | inserted r =>
      simp only [Entry.record] at hh
      split_ifs at hh with hk
      · obtain rfl : ⟨r, []⟩ = h := Option.some.inj hh
        exact ⟨⟨by simp, hk⟩, by simp⟩
      · obtain ⟨⟨ho, hkey⟩, hw⟩ := ih hh
        exact ⟨⟨List.mem_append_left _ ho, hkey⟩, fun w h' => List.mem_append_left _ (hw w h')⟩
    | wrote k' w =>
      simp only [Entry.record] at hh
      split_ifs at hh with hk
      · obtain ⟨h', hh', rfl⟩ := Option.map_eq_some_iff.mp hh
        obtain ⟨⟨ho, hkey⟩, hw⟩ := ih hh'
        refine ⟨⟨List.mem_append_left _ ho, hkey⟩, fun w' hw' => ?_⟩
        rcases List.mem_append.mp hw' with hw' | hw'
        · exact List.mem_append_left _ (hw w' hw')
        · rw [List.mem_singleton.mp hw', ← hk]
          exact List.mem_append_right _ List.mem_cons_self
      · obtain ⟨⟨ho, hkey⟩, hw⟩ := ih hh
        exact ⟨⟨List.mem_append_left _ ho, hkey⟩, fun w h' => List.mem_append_left _ (hw w h')⟩
    | noted n =>
      obtain ⟨⟨ho, hkey⟩, hw⟩ := ih hh
      exact ⟨⟨List.mem_append_left _ ho, hkey⟩, fun w h' => List.mem_append_left _ (hw w h')⟩

/-- A table and the journal it is the replay of. -/
structure JournaledTable (D : Schema) [DecidableEq D.Key] where
  /-- The rows. -/
  table : Table D.key
  /-- What happened, oldest first. -/
  journal : List (Entry D)
  /-- The row of a key is the replay of its history. -/
  find?_eq : ∀ k, table.find? k = (history? journal k).map History.row

namespace JournaledTable

/-- The empty table with the empty journal. -/
def empty : JournaledTable D := ⟨Table.empty, [], fun _ => rfl⟩

/-- The row with key `k`. -/
def find? (t : JournaledTable D) (k : D.Key) : Option D.Row := t.table.find? k

/-- The history of the row with key `k`. -/
def history? (t : JournaledTable D) (k : D.Key) : Option (History D) := Store.history? t.journal k

theorem find?_eq_map (t : JournaledTable D) (k : D.Key) :
    t.find? k = (t.history? k).map History.row :=
  t.find?_eq k

theorem find?_of_history? {t : JournaledTable D} {k : D.Key} {h : History D}
    (hh : t.history? k = some h) : t.find? k = some h.row := by
  rw [find?_eq_map, hh, Option.map_some]

/-- Every row has a history, of which it is the end. -/
theorem exists_history {t : JournaledTable D} {k : D.Key} {r : D.Row} (hr : t.find? k = some r) :
    ∃ h, t.history? k = some h ∧ h.row = r := by
  rw [find?_eq_map] at hr
  exact Option.map_eq_some_iff.mp hr

/-- The rows of the table are the ends of its histories. -/
theorem mem_rows_iff (t : JournaledTable D) (r : D.Row) :
    r ∈ t.table.rows ↔ ∃ k h, t.history? k = some h ∧ h.row = r := by
  rw [t.table.mem_rows_iff_exists]
  refine exists_congr fun k => ⟨exists_history, ?_⟩
  rintro ⟨h, hh, rfl⟩
  exact find?_of_history? hh

/-- Insert a row whose key is free. -/
def insert (t : JournaledTable D) (r : D.Row) (hr : t.table.find? (D.key r) = none) :
    JournaledTable D where
  table := t.table.insert r hr
  journal := t.journal ++ [.inserted r]
  find?_eq k := by
    rw [Table.find?_insert, history?_concat, Entry.record]
    split_ifs with hk
    · rfl
    · exact t.find?_eq k

/-- Apply a write to the row with key `k`. Without such a row nothing happens. -/
def write (t : JournaledTable D) (k : D.Key) (w : D.Write) : JournaledTable D :=
  if (t.find? k).isSome then
    { table := t.table.modify k (D.apply w) (D.key_apply w)
      journal := t.journal ++ [.wrote k w]
      find?_eq := fun k' => by
        rw [history?_concat, Entry.record]
        split_ifs with hk
        · subst hk
          rw [Table.find?_modify_self, t.find?_eq k, Option.map_map, Option.map_map]
          exact congrArg (Option.map · _) (funext fun h => (h.row_add w).symm)
        · rw [Table.find?_modify_of_ne _ hk]
          exact t.find?_eq k' }
  else t

theorem journal_write (t : JournaledTable D) (k : D.Key) (w : D.Write) :
    (t.write k w).journal =
      if (t.find? k).isSome then t.journal ++ [.wrote k w] else t.journal := by
  unfold write
  split_ifs <;> rfl

/-- Record a note. -/
def note (t : JournaledTable D) (n : D.Note) : JournaledTable D where
  table := t.table
  journal := t.journal ++ [.noted n]
  find?_eq k := by
    rw [history?_concat, Entry.record]
    exact t.find?_eq k

/-! ### What the operations add to a history -/

@[simp] theorem history?_empty (k : D.Key) : (empty : JournaledTable D).history? k = none := rfl

theorem history?_insert (t : JournaledTable D) (r : D.Row) (hr : t.table.find? (D.key r) = none)
    (k : D.Key) :
    (t.insert r hr).history? k = if D.key r = k then some ⟨r, []⟩ else t.history? k :=
  history?_concat _ _ _

theorem history?_write_self (t : JournaledTable D) (k : D.Key) (w : D.Write) :
    (t.write k w).history? k = (t.history? k).map (·.add w) := by
  unfold write
  split_ifs with h
  · exact (history?_concat _ _ _).trans (if_pos rfl)
  · have hnone : t.history? k = none := by
      simpa [find?_eq_map, Option.isSome_iff_exists, Option.eq_none_iff_forall_ne_some] using h
    rw [hnone, Option.map_none]

theorem history?_write_of_ne (t : JournaledTable D) {k k' : D.Key} (hk : k ≠ k') (w : D.Write) :
    (t.write k w).history? k' = t.history? k' := by
  unfold write
  split_ifs with h
  · exact (history?_concat _ _ _).trans (if_neg hk)
  · rfl

@[simp] theorem history?_note (t : JournaledTable D) (n : D.Note) (k : D.Key) :
    (t.note n).history? k = t.history? k :=
  history?_concat _ _ _

@[simp] theorem find?_note (t : JournaledTable D) (n : D.Note) (k : D.Key) :
    (t.note n).find? k = t.find? k := rfl

@[simp] theorem table_note (t : JournaledTable D) (n : D.Note) : (t.note n).table = t.table := rfl

theorem find?_write_self (t : JournaledTable D) (k : D.Key) (w : D.Write) :
    (t.write k w).find? k = (t.find? k).map (D.apply w) := by
  rw [find?_eq_map, history?_write_self, find?_eq_map, Option.map_map, Option.map_map]
  exact congrArg (Option.map · _) (funext fun h => h.row_add w)

theorem find?_write_of_ne (t : JournaledTable D) {k k' : D.Key} (hk : k ≠ k') (w : D.Write) :
    (t.write k w).find? k' = t.find? k' := by
  rw [find?_eq_map, history?_write_of_ne t hk, find?_eq_map]

/-! ### Histories grow -/

/-- `t'` comes after `t`: every history of `t` goes on in `t'`. -/
def Extends (t t' : JournaledTable D) : Prop :=
  ∀ k h, t.history? k = some h → ∃ ws, t'.history? k = some ⟨h.origin, h.writes ++ ws⟩

theorem Extends.refl (t : JournaledTable D) : t.Extends t :=
  fun k h hh => ⟨[], by simpa using hh⟩

theorem Extends.trans {t t' t'' : JournaledTable D} (h : t.Extends t') (h' : t'.Extends t'') :
    t.Extends t'' := by
  intro k hist hhist
  obtain ⟨ws, hws⟩ := h k hist hhist
  obtain ⟨ws', hws'⟩ := h' k _ hws
  exact ⟨ws ++ ws', by simpa using hws'⟩

theorem extends_insert (t : JournaledTable D) (r : D.Row)
    (hr : t.table.find? (D.key r) = none) : t.Extends (t.insert r hr) := by
  intro k h hh
  have hk : D.key r ≠ k := by
    rintro rfl
    exact Option.some_ne_none _ ((find?_of_history? hh).symm.trans hr)
  exact ⟨[], by rw [history?_insert, if_neg hk, hh, List.append_nil]⟩

theorem extends_write (t : JournaledTable D) (k : D.Key) (w : D.Write) :
    t.Extends (t.write k w) := by
  intro k' h hh
  by_cases hk : k = k'
  · subst hk
    exact ⟨[w], by rw [history?_write_self, hh]; rfl⟩
  · exact ⟨[], by rw [history?_write_of_ne t hk, hh, List.append_nil]⟩

theorem extends_note (t : JournaledTable D) (n : D.Note) : t.Extends (t.note n) := by
  intro k h hh
  exact ⟨[], by rw [history?_note, hh, List.append_nil]⟩

end JournaledTable

end ZubotIngestion.Store
