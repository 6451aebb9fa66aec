import Mathlib.Logic.Basic

/-!
# Inserts against a table definition

A mapper sets some attributes of an object; the mapping turns the object into an insert that names
every mapped column, a column that was not set getting its default or `NULL`. The table accepts an
insert if it has the named columns, and if every column that must not be `NULL` either gets a value
or is left out and filled by the server.

## Main definitions

* `Column`, `MappedColumn`, `Mapping.emit`.
* `Accepts`: the table accepts the insert.

## Main results

* `not_accepts_of_unknown`, `not_accepts_of_unset`: the two ways a mapping and a table disagree.
-/

namespace ZubotIngestion.Store

/-- A column of a table. -/
structure Column where
  name : String
  nullable : Bool
  /-- Whether the server fills a column that an insert leaves out. -/
  serverDefault : Bool
  deriving DecidableEq

/-- A column of a mapping, with the default of the client. -/
structure MappedColumn (V : Type) where
  name : String
  default? : Option V
  /-- Whether an unset column is left to the server. -/
  serverDefault : Bool

variable {V : Type}

/-- Attributes that are set, and columns that are inserted; `none` is `NULL`. -/
abbrev Items (V : Type) : Type := List (String × Option V)

/-- What is inserted for one mapped column. -/
def MappedColumn.item? (column : MappedColumn V) (attributes : Items V) :
    Option (String × Option V) :=
  match attributes.lookup column.name with
  | some value => some (column.name, value)
  | none =>
    match column.default? with
    | some value => some (column.name, some value)
    | none => if column.serverDefault then none else some (column.name, none)

/-- The insert of an object with the given attributes. -/
def emit (mapping : List (MappedColumn V)) (attributes : Items V) : Items V :=
  mapping.filterMap fun column => column.item? attributes

/-- A column that must not be `NULL` gets a value, or is left to the server. -/
def Column.Served (column : Column) (row : Items V) : Prop :=
  (column.serverDefault = true ∧ ∀ item ∈ row, item.1 ≠ column.name) ∨
    ∃ item ∈ row, item.1 = column.name ∧ item.2.isSome = true

/-- The table accepts the insert. -/
def Accepts (table : List Column) (row : Items V) : Prop :=
  (∀ item ∈ row, ∃ column ∈ table, column.name = item.1) ∧
    ∀ column ∈ table, column.nullable = false → column.Served row

instance (column : Column) (row : Items V) : Decidable (column.Served row) :=
  inferInstanceAs (Decidable (_ ∨ _))

instance (table : List Column) (row : Items V) : Decidable (Accepts table row) :=
  inferInstanceAs (Decidable (_ ∧ _))

/-- A mapped column that the server does not fill is always inserted. -/
theorem exists_mem_emit {mapping : List (MappedColumn V)} {column : MappedColumn V}
    (hcolumn : column ∈ mapping) (hserver : column.serverDefault = false) (attributes : Items V) :
    ∃ item ∈ emit mapping attributes, item.1 = column.name := by
  have hitem : ∃ item, column.item? attributes = some item ∧ item.1 = column.name := by
    rw [MappedColumn.item?, hserver]
    cases attributes.lookup column.name with
    | some value => exact ⟨_, rfl, rfl⟩
    | none => cases column.default? <;> exact ⟨_, rfl, rfl⟩
  obtain ⟨item, hitem, hname⟩ := hitem
  exact ⟨item, List.mem_filterMap.mpr ⟨column, hcolumn, hitem⟩, hname⟩

/-- A table refuses every object of a mapping with a column it does not have. -/
theorem not_accepts_of_unknown {table : List Column} {mapping : List (MappedColumn V)}
    {column : MappedColumn V} (hcolumn : column ∈ mapping) (hserver : column.serverDefault = false)
    (htable : ∀ c ∈ table, c.name ≠ column.name) (attributes : Items V) :
    ¬Accepts table (emit mapping attributes) := by
  rintro ⟨hknown, -⟩
  obtain ⟨item, hitem, hname⟩ := exists_mem_emit hcolumn hserver attributes
  obtain ⟨c, hc, hcname⟩ := hknown item hitem
  exact htable c hc (hcname.trans hname)

/-- A value that is inserted was set, or is a default of the client. -/
theorem of_mem_emit {mapping : List (MappedColumn V)} {attributes : Items V}
    {item : String × Option V} (hitem : item ∈ emit mapping attributes)
    (hvalue : item.2.isSome = true) :
    (∃ value, attributes.lookup item.1 = some value) ∨
      ∃ column ∈ mapping, column.name = item.1 ∧ column.default?.isSome = true := by
  obtain ⟨column, hcolumn, hemit⟩ := List.mem_filterMap.mp hitem
  rw [MappedColumn.item?] at hemit
  cases hset : attributes.lookup column.name with
  | some value =>
    rw [hset] at hemit
    obtain rfl := Option.some.inj hemit
    exact Or.inl ⟨value, hset⟩
  | none =>
    rw [hset] at hemit
    cases hdefault : column.default? with
    | some value =>
      rw [hdefault] at hemit
      obtain rfl := Option.some.inj hemit
      exact Or.inr ⟨column, hcolumn, rfl, by rw [hdefault]; rfl⟩
    | none =>
      rw [hdefault] at hemit
      by_cases hserver : column.serverDefault = true
      · rw [if_pos hserver] at hemit
        cases hemit
      · rw [if_neg hserver] at hemit
        obtain rfl := Option.some.inj hemit
        cases hvalue

/-- A table refuses every object whose mapper does not set a column that must not be `NULL` and
has no default. -/
theorem not_accepts_of_unset {table : List Column} {mapping : List (MappedColumn V)}
    {column : Column} (hcolumn : column ∈ table) (hnull : column.nullable = false)
    (hserver : column.serverDefault = false) {attributes : Items V}
    (hset : attributes.lookup column.name = none)
    (hdefault : ∀ c ∈ mapping, c.name = column.name → c.default? = none) :
    ¬Accepts table (emit mapping attributes) := by
  rintro ⟨-, hserved⟩
  rcases hserved column hcolumn hnull with ⟨hleft, -⟩ | ⟨item, hitem, hname, hvalue⟩
  · rw [hserver] at hleft
    cases hleft
  · rcases of_mem_emit hitem hvalue with ⟨value, hvalue⟩ | ⟨c, hc, hcname, hsome⟩
    · rw [hname, hset] at hvalue
      cases hvalue
    · rw [hdefault c hc (hcname.trans hname)] at hsome
      cases hsome

end ZubotIngestion.Store
