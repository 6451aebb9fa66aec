import Mathlib.Data.List.DropRight
import ZubotIngestion.Python.Value

/-!
# Strings and conversions

The string methods the extractors use. White space is given by its code points. What rests on the
Unicode tables or on the printing and parsing of values is collected in `StrMethods`, of which
nothing is assumed.

## Main definitions

* `splitWhitespace`, `strip`, `collapseWhitespace`, `orStr`.
* `StrMethods`: `upper`, `lower`, `float` and `str`.
* `toFloat`: `float(value)` of a JSON-like value.
-/

namespace ZubotIngestion

/-! ### White space -/

/-- `str.isspace` of one character, which is also the class `\s` of a regular expression. -/
def isSpace (c : Char) : Bool :=
  (9 ≤ c.toNat && c.toNat ≤ 13) || (28 ≤ c.toNat && c.toNat ≤ 32) ||
    (8192 ≤ c.toNat && c.toNat ≤ 8202) ||
    [0x85, 0xA0, 0x1680, 0x2028, 0x2029, 0x202F, 0x205F, 0x3000].contains c.toNat

/-- `text.split()`. -/
def splitWhitespace (text : String) : List String :=
  ((text.toList.splitOnP isSpace).filter fun word => !word.isEmpty).map String.ofList

/-- `text.strip()`. -/
def strip (text : String) : String :=
  String.ofList ((text.toList.dropWhile isSpace).rdropWhile isSpace)

/-- Every run of white space as one blank; `inRun` says whether the last character was one. -/
def collapseRuns (inRun : Bool) : List Char → List Char
  | [] => []
  | c :: cs =>
    if isSpace c then
      if inRun then collapseRuns true cs else ' ' :: collapseRuns true cs
    else c :: collapseRuns false cs

/-- `re.sub(r"\s+", " ", text)`. -/
def collapseWhitespace (text : String) : String := String.ofList (collapseRuns false text.toList)

/-- `text.split(sep, 1)[1]`, or the text itself if it does not contain `sep`. -/
def afterFirst (sep text : String) : String :=
  match text.splitOn sep with
  | _ :: part :: parts => sep.intercalate (part :: parts)
  | _ => text

/-- `text or None`. -/
def orNone (text : String) : Option String := if text = "" then none else some text

/-- `a or b` on optional strings. -/
def orStr (a b : Option String) : Option String :=
  match a with
  | some s => if s = "" then b else a
  | none => b

theorem orNone_eq_some_iff {text s : String} : orNone text = some s ↔ text = s ∧ s ≠ "" := by
  rw [orNone]
  split_ifs with hempty
  · exact iff_of_false id fun h => h.2 (h.1.symm.trans hempty)
  · rw [Option.some.injEq]
    exact ⟨fun h => ⟨h, h ▸ hempty⟩, fun h => h.1⟩

/-! ### Conversions -/

/-- The built-in operations on strings and values that are left open. -/
structure StrMethods where
  /-- `text.upper()`. -/
  upper : String → String
  /-- `text.lower()`. -/
  lower : String → String
  /-- `float(text)`, without a value where it raises `ValueError`. -/
  float? : String → Option PyFloat
  /-- `str(value)` of a value that is not a string. It is total: `str` raises only on integers of
  more than 4300 digits, and the values here are read by `json.loads`, which refuses those. -/
  str : PyVal → String

/-- The name of a value's type. -/
def PyVal.typeName : PyVal → String
  | .none => "NoneType"
  | .bool _ => "bool"
  | .int _ => "int"
  | .float _ => "float"
  | .str _ => "str"
  | .list _ => "list"
  | .dict _ => "dict"

/-- From this size on an integer is too large for a float. -/
def floatOverflow : ℕ := 2 ^ 1024 - 2 ^ 970

/-- `float(value)`. -/
def toFloat (py : StrMethods) (value : PyVal) : Except PyException PyFloat :=
  match value with
  | .float f => .ok f
  | .int i =>
    if i.natAbs < floatOverflow then .ok (.fin i)
    else .error (.error "OverflowError" "int too large to convert to float")
  | .bool b => .ok (if b then 1 else 0)
  | .str s =>
    match py.float? s with
    | some f => .ok f
    | none => .error (.error "ValueError" "could not convert string to float")
  | value =>
    .error (.error "TypeError"
      s!"float() argument must be a string or a real number, not '{value.typeName}'")

end ZubotIngestion
