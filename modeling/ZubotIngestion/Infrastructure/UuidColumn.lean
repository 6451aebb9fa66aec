import ZubotIngestion.Python.Uuid

/-!
# The column type of identifiers

On PostgreSQL a column of type `UUIDType` holds identifiers, on other databases their texts, as
`CHAR(36)`. A column is compared by what it holds, so a lookup finds the row it asks for only if
different identifiers are stored differently.

## Main definitions

* `Dialect`, `ColumnValue`, `processBindParam`, `processResultValue`.

## Main results

* `processResultValue_processBindParam`: a column gives back the identifier it was given.
* `processBindParam_injective`: different identifiers are stored differently.
-/

namespace ZubotIngestion

/-- The databases the column type tells apart. -/
inductive Dialect : Type where
  | postgresql
  | other
  deriving DecidableEq

/-- What a column of type `UUIDType` holds. -/
inductive ColumnValue : Type where
  | null
  | uuid (u : ℕ)
  | text (s : String)
  deriving DecidableEq

/-- `UUIDType.process_bind_param`. -/
def processBindParam (dialect : Dialect) : Option ℕ → ColumnValue
  | none => .null
  | some u =>
    match dialect with
    | .postgresql => .uuid u
    | .other => .text (uuidStr u)

section Reading

variable (repr : String → String) (otherDigit? : Char → Option ℕ)

/-- `UUIDType.process_result_value`. -/
def processResultValue : ColumnValue → Except PyException (Option ℕ)
  | .null => .ok none
  | .uuid u => .ok (some u)
  | .text s => (uuidOfStr repr otherDigit? s).map some

variable {repr otherDigit?}

/-- A column gives back the identifier it was given. -/
theorem processResultValue_processBindParam (dialect : Dialect) {id? : Option ℕ}
    (h : ∀ id ∈ id?, id < uuidBound) :
    processResultValue repr otherDigit? (processBindParam dialect id?) = .ok id? := by
  cases id? with
  | none => rfl
  | some u =>
    cases dialect with
    | postgresql => rfl
    | other =>
      rw [processBindParam, processResultValue, uuidOfStr_uuidStr repr otherDigit? (h u rfl)]
      rfl

/-- Different identifiers are stored differently. -/
theorem processBindParam_injective (dialect : Dialect) :
    Function.Injective (processBindParam dialect) := by
  rintro (_ | u) (_ | v) h
  · rfl
  · cases dialect <;> cases h
  · cases dialect <;> cases h
  · cases dialect with
    | postgresql =>
      obtain rfl := ColumnValue.uuid.inj h
      rfl
    | other => rw [uuidStr_injective (ColumnValue.text.inj h)]

/-- The text of an identifier fits its column. -/
theorem length_uuidStr {u : ℕ} (h : u < uuidBound) : (uuidStr u).length = 36 := by
  have hlength := length_uuidHex h
  simp only [uuidStr, String.length_ofList, List.length_append, List.length_cons, List.length_take,
    List.length_drop, hlength]
  decide

end Reading

end ZubotIngestion
