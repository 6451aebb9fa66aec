import ZubotIngestion.Text.Edges

/-!
# Strings as code points

A Python string is a sequence of code points, which may be surrogates. Where this matters, or where
a result is about every string, strings are lists of code points.

## Main definitions

* `CodePoint`, `PyStr`, `PyStr.of`.
* `CodePoint.IsSurrogate`: the code points that no encoding of the string can contain.
* `PyStr.strip`, `PyStr.rstrip`, `PyStr.slice`, `PyStr.rfind?`.
* `PyStr.isDigit`: which characters outside ASCII are digits is a parameter.
-/

namespace ZubotIngestion

/-- A Unicode code point, surrogates included. -/
abbrev CodePoint : Type := Fin 0x110000

/-- A Python string. -/
abbrev PyStr : Type := List CodePoint

namespace CodePoint

/-- The code point of a character. -/
def of (c : Char) : CodePoint :=
  ⟨c.toNat, c.valid.elim (fun h => Nat.lt_trans h (by decide)) fun h => h.2⟩

theorem of_injective : Function.Injective of := by
  intro c d h
  exact Char.ext (UInt32.toNat_inj.mp (Fin.mk.inj h))

/-- Half of a surrogate pair, which UTF-8 does not encode. -/
def IsSurrogate (c : CodePoint) : Prop := 0xD800 ≤ c.val ∧ c.val ≤ 0xDFFF

instance (c : CodePoint) : Decidable c.IsSurrogate := inferInstanceAs (Decidable (_ ∧ _))

/-- `str.isspace` of one code point, which is also the class `\s` of a regular expression. -/
def isSpace (c : CodePoint) : Bool :=
  (9 ≤ c.val && c.val ≤ 13) || (28 ≤ c.val && c.val ≤ 32) || (8192 ≤ c.val && c.val ≤ 8202) ||
    [0x85, 0xA0, 0x1680, 0x2028, 0x2029, 0x202F, 0x205F, 0x3000].contains c.val

/-- The class `[a-zA-Z]`. -/
def isLetter (c : CodePoint) : Bool :=
  (65 ≤ c.val && c.val ≤ 90) || (97 ≤ c.val && c.val ≤ 122)

/-- `str.isdigit` of one code point. -/
def isDigit (otherDigit : CodePoint → Bool) (c : CodePoint) : Bool :=
  (48 ≤ c.val && c.val ≤ 57) || (128 ≤ c.val && otherDigit c)

end CodePoint

namespace PyStr

/-- A string literal. -/
def of (text : String) : PyStr := text.toList.map CodePoint.of

/-- A character of a literal is a character of its text. -/
theorem mem_of {c : Char} {text : String} : CodePoint.of c ∈ of text ↔ c ∈ text.toList :=
  List.mem_map_of_injective CodePoint.of_injective

/-- `text.strip()`. -/
def strip (text : PyStr) : PyStr :=
  (text.dropWhile CodePoint.isSpace).rdropWhile CodePoint.isSpace

/-- `text[first:last]`, for bounds that are not negative. -/
def slice (first last : ℕ) (text : PyStr) : PyStr := (text.take last).drop first

/-- `text.rfind(c)`, without a value where it is `-1`. -/
def rfind? (c : CodePoint) (text : PyStr) : Option ℕ :=
  (text.reverse.idxOf? c).map fun i => text.length - 1 - i

theorem rfind?_append_cons {c : CodePoint} {after : PyStr} (hc : c ∉ after) (before : PyStr) :
    rfind? c (before ++ c :: after) = some before.length := by
  rw [rfind?, Text.idxOf?_reverse_append_cons hc, Option.map_some, List.length_append,
    List.length_cons]
  congr 1
  omega

/-- `text.rfind(c)`. -/
def rfind (c : CodePoint) (text : PyStr) : ℤ := (rfind? c text).elim (-1) Int.ofNat

/-- `text.find(sub)`. -/
def find (text sub : PyStr) : ℤ := (Text.findSub? sub text).elim (-1) Int.ofNat

/-- `text.rstrip(c)`. -/
def rstrip (c : CodePoint) (text : PyStr) : PyStr := text.rdropWhile (· == c)

/-- Nothing but the symbols at the end is dropped. -/
theorem rstrip_append_replicate {c : CodePoint} {text : PyStr} (hc : c ∉ text.getLast?) (n : ℕ) :
    rstrip c (text ++ List.replicate n c) = text := by
  have hdropped : (List.replicate n c).rdropWhile (· == c) = [] := by
    rw [List.rdropWhile_eq_nil_iff]
    intro x hx
    rw [List.eq_of_mem_replicate hx]
    exact beq_self_eq_true c
  rcases text.eq_nil_or_concat' with rfl | ⟨before, d, rfl⟩
  · exact hdropped
  · have hd : d ≠ c := by
      rintro rfl
      exact hc List.getLast?_concat
    rw [rstrip, List.append_assoc, List.singleton_append,
      Text.rdropWhile_append_cons (q := (· == c)) (beq_false_of_ne hd), hdropped]

/-- `text.isdigit()`. -/
def isDigit (otherDigit : CodePoint → Bool) (text : PyStr) : Bool :=
  !text.isEmpty && text.all (CodePoint.isDigit otherDigit)

/-- A text without white space is not stripped. -/
theorem strip_eq_self {text : PyStr} (h : ∀ c ∈ text, c.isSpace = false) : strip text = text := by
  have hfront : text.dropWhile CodePoint.isSpace = text := by
    rw [List.dropWhile_eq_self_iff]
    intro hl
    rw [h _ (List.getElem_mem hl)]
    exact Bool.false_ne_true
  rw [strip, hfront, List.rdropWhile_eq_self_iff]
  intro hl
  rw [h _ (List.getLast_mem hl)]
  exact Bool.false_ne_true

end PyStr

end ZubotIngestion
