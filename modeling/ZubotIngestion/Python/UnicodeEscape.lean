import ZubotIngestion.Python.CodePoints
import ZubotIngestion.Text.Transduce

/-!
# UTF-8 and the codec `unicode_escape`

`text.encode("utf-8")` gives the bytes of the code points, which are no surrogates;
`data.decode("unicode_escape", errors="replace")` reads bytes as the code points of the same number,
and escapes as in a Python string literal. What is malformed becomes a replacement character, and
the decoding goes on where the defect was found. An escape that Python does not know stays as it is.

## Main definitions

* `utf8`, `encodeUtf8`.
* `escapeAt`, `unicodeEscapeDecode`.

## Main results

* `unicodeEscapeDecode_append`: bytes without a backslash are decoded one by one.
* `unicodeEscapeDecode_escape`: what an escape stands for, if it is complete.
-/

namespace ZubotIngestion

open Text

/-- A byte. -/
abbrev Byte : Type := Fin 256

/-- The byte of an ASCII character. -/
def byte (c : Char) : Byte := Fin.ofNat 256 c.toNat

/-- The code point with the number of a byte. -/
def CodePoint.ofByte (b : Byte) : CodePoint := ⟨b.val, Nat.lt_trans b.isLt (by decide)⟩

/-! ### UTF-8 -/

/-- An ASCII character. -/
def CodePoint.IsAscii (c : CodePoint) : Prop := c.val < 0x80

instance (c : CodePoint) : Decidable c.IsAscii := inferInstanceAs (Decidable (_ < _))

/-- The encoding of a code point that is no surrogate. -/
def utf8 (c : CodePoint) : List Byte :=
  if c.IsAscii then [Fin.ofNat 256 c.val]
  else if c.val < 0x800 then [Fin.ofNat 256 (0xC0 + c.val / 64), Fin.ofNat 256 (0x80 + c.val % 64)]
  else if c.val < 0x10000 then
    [Fin.ofNat 256 (0xE0 + c.val / 4096), Fin.ofNat 256 (0x80 + c.val / 64 % 64),
      Fin.ofNat 256 (0x80 + c.val % 64)]
  else
    [Fin.ofNat 256 (0xF0 + c.val / 262144), Fin.ofNat 256 (0x80 + c.val / 4096 % 64),
      Fin.ofNat 256 (0x80 + c.val / 64 % 64), Fin.ofNat 256 (0x80 + c.val % 64)]

/-- `text.encode("utf-8")` of a text without surrogates. -/
def encodeUtf8 (text : PyStr) : List Byte := text.flatMap utf8

/-- An ASCII character is one byte. -/
theorem utf8_of_isAscii {c : CodePoint} (h : c.IsAscii) : utf8 c = [Fin.ofNat 256 c.val] :=
  if_pos h

theorem ofByte_of_isAscii {c : CodePoint} (h : c.IsAscii) :
    CodePoint.ofByte (Fin.ofNat 256 c.val) = c :=
  Fin.ext (Nat.mod_eq_of_lt (Nat.lt_trans h (by decide)))

/-- The bytes of another character are at least two, and no ASCII characters. -/
theorem utf8_of_not_isAscii {c : CodePoint} (h : ¬ c.IsAscii) :
    2 ≤ (utf8 c).length ∧ ∀ b ∈ utf8 c, 0x80 ≤ b.val := by
  have hc := c.isLt
  rw [utf8, if_neg h]
  split_ifs with h2 h3
  · refine ⟨Nat.le_refl 2, ?_⟩
    simp only [List.forall_mem_cons, List.mem_singleton, forall_eq, Fin.val_ofNat]
    omega
  · refine ⟨Nat.le_succ 2, ?_⟩
    simp only [List.forall_mem_cons, List.mem_singleton, forall_eq, Fin.val_ofNat]
    omega
  · refine ⟨Nat.le_add_left 2 2, ?_⟩
    simp only [List.forall_mem_cons, List.mem_singleton, forall_eq, Fin.val_ofNat]
    omega

/-! ### The codec -/

/-- `U+FFFD`, which stands for what is malformed. -/
def replacement : CodePoint := .of '\uFFFD'

/-- The escapes of one letter. -/
def letterEscape? (b : Byte) : Option CodePoint :=
  if b = byte '\\' then some (.of '\\')
  else if b = byte '\'' then some (.of '\'')
  else if b = byte '"' then some (.of '"')
  else if b = byte 'a' then some (.of '\x07')
  else if b = byte 'b' then some (.of '\x08')
  else if b = byte 't' then some (.of '\t')
  else if b = byte 'n' then some (.of '\n')
  else if b = byte 'v' then some (.of '\x0b')
  else if b = byte 'f' then some (.of '\x0c')
  else if b = byte 'r' then some (.of '\r')
  else none

/-- The value of an octal digit. -/
def octalValue? (b : Byte) : Option ℕ :=
  if byte '0' ≤ b ∧ b ≤ byte '7' then some (b.val - 48) else none

/-- The value of a hexadecimal digit. -/
def hexValue? (b : Byte) : Option ℕ :=
  if byte '0' ≤ b ∧ b ≤ byte '9' then some (b.val - 48)
  else if byte 'a' ≤ b ∧ b ≤ byte 'f' then some (b.val - 87)
  else if byte 'A' ≤ b ∧ b ≤ byte 'F' then some (b.val - 55)
  else none

/-- The digits at the front of a text, at most `count` of them. -/
def digitsAt (value? : Byte → Option ℕ) : ℕ → List Byte → List ℕ
  | 0, _ => []
  | _ + 1, [] => []
  | count + 1, b :: text =>
    match value? b with
    | some digit => digit :: digitsAt value? count text
    | none => []

/-- The number with the given digits. -/
def ofDigits (base : ℕ) (digits : List ℕ) : ℕ := digits.foldl (fun n digit => base * n + digit) 0

/-- The code point with a number, if there is one. -/
def character (n : ℕ) : CodePoint := if h : n < 0x110000 then ⟨n, h⟩ else replacement

/-- An escape with `count` hexadecimal digits, which stand behind its letter. -/
def hexEscape (count : ℕ) (text : List Byte) : PyStr × ℕ :=
  let digits := digitsAt hexValue? count text
  if count ≤ digits.length then ([character (ofDigits 16 digits)], 1 + count)
  else ([replacement], 1 + digits.length)

section Codec

-- the characters by their names
variable (names : List Byte → Option CodePoint)

/-- `\N{name}`, from behind the `N`. -/
def nameEscape : List Byte → PyStr × ℕ
  | [] => ([replacement], 1)
  | b :: text =>
    if b = byte '{' then
      let name := text.takeWhile fun b => decide (b ≠ byte '}')
      if text.length ≤ name.length then ([replacement], 2 + name.length)
      else if name = [] then ([replacement], 2)
      else ([(names name).getD replacement], 3 + name.length)
    else ([replacement], 1)

/-- What an escape stands for, from behind its backslash, and how long it is there. -/
def escapeAt : List Byte → PyStr × ℕ
  | [] => ([replacement], 0)
  | b :: text =>
    match letterEscape? b with
    | some c => ([c], 1)
    | none =>
      if b = byte '\n' then ([], 1)
      else match octalValue? b with
        | some digit =>
          let digits := digit :: digitsAt octalValue? 2 text
          ([character (ofDigits 8 digits)], digits.length)
        | none =>
          if b = byte 'x' then hexEscape 2 text
          else if b = byte 'u' then hexEscape 4 text
          else if b = byte 'U' then hexEscape 8 text
          else if b = byte 'N' then nameEscape names text
          else ([.of '\\', .ofByte b], 1)

/-- What the front of a text stands for, and how long it is. -/
def decodeByteAt : List Byte → PyStr × ℕ
  | [] => ([], 0)
  | b :: text =>
    if b = byte '\\' then ((escapeAt names text).1, (escapeAt names text).2 + 1)
    else ([.ofByte b], 1)

/-- `data.decode("unicode_escape", errors="replace")`. -/
def unicodeEscapeDecode (data : List Byte) : PyStr := transduce (decodeByteAt names) data

@[simp] theorem unicodeEscapeDecode_nil : unicodeEscapeDecode names [] = [] := rfl

/-- A byte that is not a backslash stands for itself. -/
theorem unicodeEscapeDecode_cons {b : Byte} (hb : b ≠ byte '\\') (text : List Byte) :
    unicodeEscapeDecode names (b :: text) = .ofByte b :: unicodeEscapeDecode names text := by
  show transduce (decodeByteAt names) ([b] ++ text) =
    [.ofByte b] ++ transduce (decodeByteAt names) text
  refine transduce_append (List.cons_ne_nil b []) ?_
  rw [List.singleton_append, decodeByteAt, if_neg hb, List.length_singleton]

/-- So do several. -/
theorem unicodeEscapeDecode_append {piece : List Byte} (h : ∀ b ∈ piece, b ≠ byte '\\')
    (text : List Byte) : unicodeEscapeDecode names (piece ++ text) =
      piece.map CodePoint.ofByte ++ unicodeEscapeDecode names text := by
  induction piece with
  | nil => rfl
  | cons b piece ih =>
    rw [List.cons_append, unicodeEscapeDecode_cons names (h b List.mem_cons_self),
      ih fun c hc => h c (List.mem_cons_of_mem b hc), List.map_cons, List.cons_append]

/-- An escape that is complete stands for what it says, whatever is behind it. -/
theorem unicodeEscapeDecode_escape {piece : List Byte} {decoded : PyStr} {text : List Byte}
    (h : escapeAt names (piece ++ text) = (decoded, piece.length)) :
    unicodeEscapeDecode names (byte '\\' :: (piece ++ text)) =
      decoded ++ unicodeEscapeDecode names text := by
  show transduce (decodeByteAt names) ((byte '\\' :: piece) ++ text) = _
  refine transduce_append (List.cons_ne_nil _ piece) ?_
  rw [List.cons_append, decodeByteAt, if_pos rfl, h, List.length_cons]

end Codec

end ZubotIngestion
