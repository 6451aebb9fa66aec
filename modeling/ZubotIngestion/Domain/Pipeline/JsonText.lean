import ZubotIngestion.Python.CodePoints
import ZubotIngestion.Text.Scan

/-!
# The text of a model response

What `json_parser.py` does with the text itself: it removes a code fence, slices the outermost
braces, and scans for pairs of a quoted key and a value. The pattern of the pairs is matched as the
regular expression would be: no alternative of it can match in a second way, so nothing is lost by
not backtracking. Case is ignored in the three literals, where `ſ` counts as an `s`.

## Main definitions

* `stripCodeFences`, `sliceOuterBraces`.
* `keyLength`, `valueLength`, `kvAt`, `keyValues`: the pairs that `_KV_PATTERN` captures.
-/

namespace ZubotIngestion

open Text

/-! ### Fences and braces -/

/-- The delimiter of a code fence. -/
def fence : PyStr := .of "```"

/-- A line feed. -/
def lineFeed : CodePoint := 10

/-- Without one line feed at the front. -/
def dropLineFeed : PyStr → PyStr
  | [] => []
  | c :: text => if c = lineFeed then text else c :: text

/-- `re.sub("^```[a-zA-Z]*\n?", "", s)` of a text that begins with a fence. -/
def dropOpeningFence (text : PyStr) : PyStr :=
  dropLineFeed ((text.drop fence.length).dropWhile CodePoint.isLetter)

/-- `re.sub("\n?```$", "", s)`. The end is also in front of a line feed that is the last symbol. -/
def dropClosingFence : PyStr → PyStr
  | [] => []
  | c :: text =>
    if dropLineFeed (c :: text) = fence then []
    else if dropLineFeed (c :: text) = fence ++ [lineFeed] then [lineFeed]
    else c :: dropClosingFence text

/-- `_strip_code_fences`. -/
def stripCodeFences (text : PyStr) : PyStr :=
  let s := PyStr.strip text
  PyStr.strip (if fence <+: s then dropClosingFence (dropOpeningFence s) else s)

/-- `_slice_outer_braces`. -/
def sliceOuterBraces (text : PyStr) : Option PyStr :=
  match text.idxOf? (.of '{'), PyStr.rfind? (.of '}') text with
  | some first, some last => if last ≤ first then none else some (PyStr.slice first (last + 1) text)
  | _, _ => none

/-- A text without a fence and without white space is kept. -/
theorem stripCodeFences_eq_self {text : PyStr} (hspace : ∀ c ∈ text, c.isSpace = false)
    (hfence : ¬ fence <+: text) : stripCodeFences text = text := by
  rw [stripCodeFences, PyStr.strip_eq_self hspace, if_neg hfence, PyStr.strip_eq_self hspace]

/-! ### Pairs of keys and values -/

/-- `"`. -/
def doubleQuote : CodePoint := .of '"'

/-- `'`. -/
def singleQuote : CodePoint := .of '\''

/-- The class `["']`. -/
def isQuote (c : CodePoint) : Bool := decide (c = doubleQuote ∨ c = singleQuote)

/-- The length of `["'][^"']+["']` at the front of a text. -/
def keyLength : PyStr → Option ℕ
  | [] => none
  | c :: text =>
    let inner := (text.takeWhile fun c => !isQuote c).length
    if isQuote c ∧ 0 < inner ∧ inner < text.length then some (inner + 2) else none

/-- The length of `(?:[^"\\]|\\.)*"`, with whichever quote. -/
def closeQuote (quote : CodePoint) : PyStr → Option ℕ
  | [] => none
  | c :: text =>
    if c = quote then some 1
    else if c = .of '\\' then
      match text with
      | [] => none
      | escaped :: text =>
        -- the dot does not match a line feed
        if escaped = lineFeed then none else (closeQuote quote text).map (· + 2)
    else (closeQuote quote text).map (· + 1)

/-- The length of a quoted string. -/
def quotedLength (quote : CodePoint) : PyStr → Option ℕ
  | [] => none
  | c :: text => if c = quote then (closeQuote quote text).map (· + 1) else none

section Numbers

variable (isDecimal : CodePoint → Bool)

/-- The number of decimals at the front, `\d*`. -/
def decimals (text : PyStr) : ℕ := (text.takeWhile isDecimal).length

/-- The length of `(?:\.\d+)?`. -/
def fractionLength : PyStr → ℕ
  | [] => 0
  | c :: text =>
    if c = .of '.' ∧ 0 < decimals isDecimal text then decimals isDecimal text + 1 else 0

/-- The length of `-?\d+(?:\.\d+)?`. -/
def numberLength (text : PyStr) : Option ℕ :=
  let sign := if text.head? = some (.of '-') then 1 else 0
  let whole := decimals isDecimal (text.drop sign)
  if 0 < whole then some (sign + whole + fractionLength isDecimal (text.drop (sign + whole)))
  else none

end Numbers

/-- The small letter of the literals that a code point matches when case is ignored. -/
def smallLetter (c : CodePoint) : CodePoint :=
  if 65 ≤ c.val ∧ c.val ≤ 90 then c + 32 else if c = .of 'ſ' then .of 's' else c

/-- The length of a literal at the front of a text. -/
def literalLength (literal text : PyStr) : Option ℕ :=
  if literal <+: text.map smallLetter then some literal.length else none

/-- The alternatives of `value`, in order. -/
def valueLength (isDecimal : CodePoint → Bool) (text : PyStr) : Option ℕ :=
  quotedLength doubleQuote text <|> quotedLength singleQuote text <|>
    numberLength isDecimal text <|> literalLength (.of "true") text <|>
    literalLength (.of "false") text <|> literalLength (.of "null") text

/-- What `_KV_PATTERN` captures at the front of a text, as `key` and `value`, and the length of the
match. -/
def kvAt (isDecimal : CodePoint → Bool) (text : PyStr) : Option ((PyStr × PyStr) × ℕ) := do
  let key ← keyLength text
  match (text.drop key).dropWhile CodePoint.isSpace with
  | [] => none
  | c :: rest =>
    if c = .of ':' then
      let rest := rest.dropWhile CodePoint.isSpace
      let value ← valueLength isDecimal rest
      return ((text.take key, rest.take value), text.length - rest.length + value)
    else none

/-- `_KV_PATTERN.finditer(text)`. -/
def keyValues (isDecimal : CodePoint → Bool) (text : PyStr) : List (PyStr × PyStr) :=
  findAll (kvAt isDecimal) text

end ZubotIngestion
