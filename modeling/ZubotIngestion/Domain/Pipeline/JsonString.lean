import Mathlib.Data.Bool.AllAny
import ZubotIngestion.Domain.Pipeline.JsonText
import ZubotIngestion.Python.UnicodeEscape

/-!
# String literals of JSON and the codec `unicode_escape`

A string literal of JSON is made up of units: characters as they are, escapes of one letter, and
escapes of four hexadecimal digits, two of which may make up one character. The fallback of the
response parser decodes what is between the quotes with the codec `unicode_escape`. This is right
for ASCII characters and for most escapes. A character outside ASCII becomes the characters of its
bytes, an escaped slash keeps its backslash, and a surrogate pair stays a pair.

## Main definitions

* `JsonUnit`, `JsonLiteral`: a literal, with its text and its value.
* `JsonUnit.Kept`: the units that the codec decodes as JSON does.
* `JsonLiteral.plain`: the literal in which only quotes, backslashes and control characters are
  escaped.

## Main results

* `closeQuote_units`: the pattern of the fallback finds the end of a literal.
* `unicodeEscapeDecode_units_iff`: when the codec gives the value of a literal.
-/

namespace ZubotIngestion

/-! ### Units -/

/-- A hexadecimal digit, small or capital. -/
structure HexDigit where
  digit : Fin 16
  capital : Bool

/-- The number of the character of a digit. -/
def HexDigit.code (d : HexDigit) : ℕ :=
  if d.digit.val < 10 then 48 + d.digit.val
  else if d.capital then 55 + d.digit.val else 87 + d.digit.val

theorem HexDigit.code_lt (d : HexDigit) : d.code < 0x110000 := by
  have hdigit := d.digit.isLt
  rw [code]
  split_ifs <;> omega

/-- The digit as it is written. -/
def HexDigit.text (d : HexDigit) : CodePoint := ⟨d.code, d.code_lt⟩

/-- Four hexadecimal digits. -/
structure HexCode where
  d₃ : HexDigit
  d₂ : HexDigit
  d₁ : HexDigit
  d₀ : HexDigit

namespace HexCode

/-- The digits as they are written. -/
def text (h : HexCode) : PyStr := [h.d₃.text, h.d₂.text, h.d₁.text, h.d₀.text]

/-- The number that the digits stand for. -/
def number (h : HexCode) : ℕ :=
  ofDigits 16 [h.d₃.digit.val, h.d₂.digit.val, h.d₁.digit.val, h.d₀.digit.val]

/-- The first half of a surrogate pair. -/
def IsHigh (h : HexCode) : Prop := 0xD800 ≤ h.number ∧ h.number ≤ 0xDBFF

/-- The second half of a surrogate pair. -/
def IsLow (h : HexCode) : Prop := 0xDC00 ≤ h.number ∧ h.number ≤ 0xDFFF

end HexCode

/-- `\`. -/
def backslash : CodePoint := .of '\\'

/-- `/`. -/
def slash : CodePoint := .of '/'

/-- The escapes of one letter, with what they stand for. -/
def jsonEscapes : List (CodePoint × CodePoint) :=
  [(doubleQuote, doubleQuote), (backslash, backslash), (slash, slash), (.of 'b', .of '\x08'),
    (.of 'f', .of '\x0c'), (.of 'n', .of '\n'), (.of 'r', .of '\r'), (.of 't', .of '\t')]

/-- A character that may stand in a literal as it is. -/
def Unescaped (c : CodePoint) : Prop := 0x20 ≤ c.val ∧ c ≠ doubleQuote ∧ c ≠ backslash

instance (c : CodePoint) : Decidable (Unescaped c) := inferInstanceAs (Decidable (_ ∧ _ ∧ _))

/-- What stands for one character of a string. -/
inductive JsonUnit : Type where
  /-- The character itself. -/
  | raw (c : CodePoint) (h : Unescaped c)
  /-- An escape of one letter. -/
  | letter (letter value : CodePoint) (h : (letter, value) ∈ jsonEscapes)
  /-- An escape of four digits. -/
  | unicode (code : HexCode)
  /-- Two escapes of four digits for one character. -/
  | pair (high low : HexCode) (hhigh : high.IsHigh) (hlow : low.IsLow)

namespace JsonUnit

/-- The text of a unit. -/
def text : JsonUnit → PyStr
  | raw c _ => [c]
  | letter l _ _ => [backslash, l]
  | unicode code => backslash :: .of 'u' :: code.text
  | pair high low _ _ => backslash :: .of 'u' :: high.text ++ backslash :: .of 'u' :: low.text

/-- The character that a unit stands for. -/
def value : JsonUnit → CodePoint
  | raw c _ => c
  | letter _ v _ => v
  | unicode code => character code.number
  | pair high low _ _ =>
    character (0x10000 + (high.number - 0xD800) * 0x400 + (low.number - 0xDC00))

/-- What the codec makes of a unit. -/
def decoded : JsonUnit → PyStr
  | raw c _ => (utf8 c).map CodePoint.ofByte
  | letter l v _ => if l = slash then [backslash, slash] else [v]
  | unicode code => [character code.number]
  | pair high low _ _ => [character high.number, character low.number]

/-- The codec decodes the unit as JSON does. -/
def Kept : JsonUnit → Prop
  | raw c _ => c.IsAscii
  | letter l _ _ => l ≠ slash
  | unicode _ => True
  | pair .. => False

/-- The codec makes one character of a unit that it keeps, and more of another one. -/
theorem decoded_cases (u : JsonUnit) :
    u.Kept ∧ u.decoded = [u.value] ∨ ¬ u.Kept ∧ 2 ≤ u.decoded.length := by
  cases u with
  | raw c h =>
    by_cases hc : c.IsAscii
    · refine Or.inl ⟨hc, ?_⟩
      rw [decoded, utf8_of_isAscii hc, List.map_singleton, ofByte_of_isAscii hc, value]
    · refine Or.inr ⟨hc, ?_⟩
      rw [decoded, List.length_map]
      exact (utf8_of_not_isAscii hc).1
  | letter l v h =>
    by_cases hl : l = slash
    · refine Or.inr ⟨fun hkept => hkept hl, ?_⟩
      rw [decoded, if_pos hl]
      exact Nat.le_refl 2
    · refine Or.inl ⟨hl, ?_⟩
      rw [decoded, if_neg hl, value]
  | unicode code => exact Or.inl ⟨trivial, rfl⟩
  | pair high low hhigh hlow => exact Or.inr ⟨id, Nat.le_refl 2⟩

end JsonUnit

/-! ### The codec -/

namespace HexDigit

theorem spec : ∀ (digit : Fin 16) (capital : Bool),
    (HexDigit.text ⟨digit, capital⟩).IsAscii ∧
      hexValue? (Fin.ofNat 256 (HexDigit.text ⟨digit, capital⟩).val) = some digit.val ∧
      HexDigit.text ⟨digit, capital⟩ ≠ doubleQuote ∧
        HexDigit.text ⟨digit, capital⟩ ≠ backslash := by
  decide

variable (d : HexDigit)

theorem utf8_text : utf8 d.text = [Fin.ofNat 256 d.text.val] :=
  utf8_of_isAscii (spec d.digit d.capital).1

theorem hexValue?_text : hexValue? (Fin.ofNat 256 d.text.val) = some d.digit.val :=
  (spec d.digit d.capital).2.1

theorem text_ne_doubleQuote : d.text ≠ doubleQuote := (spec d.digit d.capital).2.2.1

theorem text_ne_backslash : d.text ≠ backslash := (spec d.digit d.capital).2.2.2

end HexDigit

theorem encodeUtf8_append (text rest : PyStr) :
    encodeUtf8 (text ++ rest) = encodeUtf8 text ++ encodeUtf8 rest :=
  List.flatMap_append

section Codec

variable (names : List Byte → Option CodePoint)

/-- An escape of four digits is decoded to the character with their number. -/
theorem unicodeEscapeDecode_hexCode (code : HexCode) (rest : List Byte) :
    unicodeEscapeDecode names (encodeUtf8 (backslash :: .of 'u' :: code.text) ++ rest) =
      character code.number :: unicodeEscapeDecode names rest := by
  obtain ⟨d₃, d₂, d₁, d₀⟩ := code
  have htext : encodeUtf8 (backslash :: .of 'u' :: HexCode.text ⟨d₃, d₂, d₁, d₀⟩) =
      byte '\\' :: [byte 'u', Fin.ofNat 256 d₃.text.val, Fin.ofNat 256 d₂.text.val,
        Fin.ofNat 256 d₁.text.val, Fin.ofNat 256 d₀.text.val] := by
    have hbackslash : utf8 backslash = [byte '\\'] := by decide
    have hu : utf8 (.of 'u') = [byte 'u'] := by decide
    simp only [encodeUtf8, HexCode.text, List.flatMap_cons, List.flatMap_nil, hbackslash, hu,
      HexDigit.utf8_text, List.singleton_append]
  rw [htext, List.cons_append]
  show unicodeEscapeDecode names (byte '\\' :: (_ ++ rest)) =
    [character _] ++ unicodeEscapeDecode names rest
  refine unicodeEscapeDecode_escape names ?_
  have hletter : letterEscape? (byte 'u') = none := by decide
  have hoctal : octalValue? (byte 'u') = none := by decide
  have hlineFeed : byte 'u' ≠ byte '\n' := by decide
  have hx : byte 'u' ≠ byte 'x' := by decide
  simp only [List.cons_append, List.nil_append, escapeAt, hletter, hoctal, if_neg hlineFeed,
    if_neg hx, if_true, hexEscape, digitsAt, HexDigit.hexValue?_text, List.length_cons,
    List.length_nil, HexCode.number]
  rfl

/-- The codec knows all escapes of one letter but that of the slash. -/
theorem jsonEscapes_spec : ∀ e ∈ jsonEscapes, e.1.IsAscii ∧
    (e.1 ≠ slash → letterEscape? (Fin.ofNat 256 e.1.val) = some e.2) :=
  List.all_iff_forall_prop.mp (by decide)

theorem encodeUtf8_letter {l v : CodePoint} (h : (l, v) ∈ jsonEscapes) :
    encodeUtf8 [backslash, l] = byte '\\' :: [Fin.ofNat 256 l.val] := by
  have hbackslash : utf8 backslash = [byte '\\'] := by decide
  simp only [encodeUtf8, List.flatMap_cons, List.flatMap_nil, hbackslash,
    utf8_of_isAscii (jsonEscapes_spec (l, v) h).1, List.singleton_append]

/-- What the codec makes of a unit does not depend on what is behind it. -/
theorem unicodeEscapeDecode_unit (u : JsonUnit) (rest : List Byte) :
    unicodeEscapeDecode names (encodeUtf8 u.text ++ rest) =
      u.decoded ++ unicodeEscapeDecode names rest := by
  cases u with
  | raw c h =>
    have hbytes : ∀ b ∈ utf8 c, b ≠ byte '\\' := by
      intro b hb heq
      by_cases hc : c.IsAscii
      · rw [utf8_of_isAscii hc, List.mem_singleton] at hb
        have hofByte := ofByte_of_isAscii hc
        rw [← hb, heq] at hofByte
        exact h.2.2 (hofByte.symm.trans (by decide))
      · have hlarge := (utf8_of_not_isAscii hc).2 b hb
        rw [heq] at hlarge
        exact absurd hlarge (by decide)
    have htext : encodeUtf8 [c] = utf8 c := List.flatMap_singleton ..
    rw [JsonUnit.text, htext, unicodeEscapeDecode_append names hbytes]
    rfl
  | letter l v h =>
    rw [JsonUnit.text, encodeUtf8_letter h, List.cons_append]
    refine unicodeEscapeDecode_escape names ?_
    obtain ⟨-, hescape⟩ := jsonEscapes_spec (l, v) h
    rw [List.singleton_append, escapeAt, JsonUnit.decoded]
    by_cases hl : l = slash
    · subst hl
      have hletter : letterEscape? (Fin.ofNat 256 slash.val) = none := by decide
      have hoctal : octalValue? (Fin.ofNat 256 slash.val) = none := by decide
      rw [if_pos rfl, hletter, hoctal]
      rfl
    · rw [if_neg hl, hescape hl]
      rfl
  | unicode code => exact unicodeEscapeDecode_hexCode names code rest
  | pair high low hhigh hlow =>
    rw [JsonUnit.text, show backslash :: CodePoint.of 'u' :: high.text ++
      backslash :: CodePoint.of 'u' :: low.text = (backslash :: CodePoint.of 'u' :: high.text) ++
      (backslash :: CodePoint.of 'u' :: low.text) from rfl, encodeUtf8_append, List.append_assoc,
      unicodeEscapeDecode_hexCode, unicodeEscapeDecode_hexCode]
    rfl

/-- What the codec makes of units, one after the other. -/
theorem unicodeEscapeDecode_units (units : List JsonUnit) :
    unicodeEscapeDecode names (encodeUtf8 (units.flatMap JsonUnit.text)) =
      units.flatMap JsonUnit.decoded := by
  induction units with
  | nil => rfl
  | cons u units ih =>
    rw [List.flatMap_cons, encodeUtf8_append, unicodeEscapeDecode_unit, ih, List.flatMap_cons]

/-- The codec never makes fewer characters of units than they stand for. -/
theorem length_le_decoded (units : List JsonUnit) :
    units.length ≤ (units.flatMap JsonUnit.decoded).length := by
  induction units with
  | nil => exact Nat.le_refl 0
  | cons u units ih =>
    rw [List.flatMap_cons, List.length_append, List.length_cons]
    rcases u.decoded_cases with ⟨-, hu⟩ | ⟨-, hu⟩
    · rw [hu, List.length_singleton]
      omega
    · omega

/-- The codec gives what the units stand for iff it keeps every one of them: of another one it
makes more than one character, and none is lost elsewhere. -/
theorem unicodeEscapeDecode_units_iff (units : List JsonUnit) :
    unicodeEscapeDecode names (encodeUtf8 (units.flatMap JsonUnit.text)) =
      units.map JsonUnit.value ↔ ∀ u ∈ units, u.Kept := by
  rw [unicodeEscapeDecode_units]
  induction units with
  | nil => simp
  | cons u units ih =>
    rw [List.flatMap_cons, List.map_cons, List.forall_mem_cons]
    rcases u.decoded_cases with ⟨hkept, hu⟩ | ⟨hkept, hu⟩
    · rw [hu, List.singleton_append, List.cons_inj_right, ih, and_iff_right hkept]
    · refine iff_of_false (fun heq => ?_) fun h => hkept h.1
      have hlength := congrArg List.length heq
      have hle := length_le_decoded units
      rw [List.length_append, List.length_cons, List.length_map] at hlength
      omega

end Codec

/-! ### The end of a literal -/

theorem closeQuote_cons {c : CodePoint} (hquote : c ≠ doubleQuote) (hbackslash : c ≠ backslash)
    (rest : PyStr) :
    closeQuote doubleQuote (c :: rest) = (closeQuote doubleQuote rest).map (· + 1) := by
  rw [closeQuote.eq_def]
  exact (if_neg hquote).trans (if_neg hbackslash)

theorem closeQuote_escape {l : CodePoint} (hl : l ≠ lineFeed) (rest : PyStr) :
    closeQuote doubleQuote (backslash :: l :: rest) =
      (closeQuote doubleQuote rest).map (· + 2) := by
  have hquote : backslash ≠ doubleQuote := by decide
  rw [closeQuote, if_neg hquote]
  exact (if_pos rfl).trans (if_neg hl)

theorem closeQuote_hexCode (code : HexCode) (rest : PyStr) :
    closeQuote doubleQuote (backslash :: .of 'u' :: code.text ++ rest) =
      (closeQuote doubleQuote rest).map (· + 6) := by
  obtain ⟨d₃, d₂, d₁, d₀⟩ := code
  have hu : CodePoint.of 'u' ≠ lineFeed := by decide
  simp only [HexCode.text, List.cons_append, List.nil_append, closeQuote_escape hu,
    closeQuote_cons (HexDigit.text_ne_doubleQuote _) (HexDigit.text_ne_backslash _),
    Option.map_map]
  rfl

/-- A unit does not end a literal. -/
theorem closeQuote_unit (u : JsonUnit) (rest : PyStr) :
    closeQuote doubleQuote (u.text ++ rest) =
      (closeQuote doubleQuote rest).map (· + u.text.length) := by
  cases u with
  | raw c h => exact closeQuote_cons h.2.1 h.2.2 rest
  | letter l v h =>
    have hlineFeed : ∀ e ∈ jsonEscapes, e.1 ≠ lineFeed :=
      List.all_iff_forall_prop.mp (by decide)
    exact closeQuote_escape (hlineFeed (l, v) h) rest
  | unicode code => exact closeQuote_hexCode code rest
  | pair high low hhigh hlow =>
    have htext : (JsonUnit.pair high low hhigh hlow).text ++ rest =
        backslash :: .of 'u' :: high.text ++ (backslash :: .of 'u' :: low.text ++ rest) :=
      List.append_assoc _ _ _
    rw [htext, closeQuote_hexCode, closeQuote_hexCode, Option.map_map]
    rfl

/-- The quote behind the units ends the literal. -/
theorem closeQuote_units (units : List JsonUnit) (rest : PyStr) :
    closeQuote doubleQuote (units.flatMap JsonUnit.text ++ doubleQuote :: rest) =
      some ((units.flatMap JsonUnit.text).length + 1) := by
  induction units with
  | nil =>
    rw [List.flatMap_nil, List.nil_append, closeQuote.eq_def]
    exact if_pos rfl
  | cons u units ih =>
    rw [List.flatMap_cons, List.append_assoc, closeQuote_unit, ih, Option.map_some,
      List.length_append]
    congr 1
    omega

/-! ### Literals -/

namespace JsonUnit

/-- An escape that a low surrogate behind it makes up a pair with. -/
def IsHigh : JsonUnit → Prop
  | unicode code => code.IsHigh
  | _ => False

/-- An escape of a low surrogate. -/
def IsLow : JsonUnit → Prop
  | unicode code => code.IsLow
  | _ => False

end JsonUnit

/-- A string literal of JSON. Two escapes that make up a surrogate pair are one unit. -/
structure JsonLiteral where
  units : List JsonUnit
  paired : units.IsChain fun u v => ¬ (u.IsHigh ∧ v.IsLow)

namespace JsonLiteral

/-- What is between the quotes. -/
def inner (literal : JsonLiteral) : PyStr := literal.units.flatMap JsonUnit.text

/-- The literal, in double quotes. -/
def text (literal : JsonLiteral) : PyStr := doubleQuote :: (literal.inner ++ [doubleQuote])

/-- The string that the literal stands for. -/
def value (literal : JsonLiteral) : PyStr := literal.units.map JsonUnit.value

/-- The codec gives the string that the literal stands for. -/
def Kept (literal : JsonLiteral) : Prop := ∀ u ∈ literal.units, u.Kept

end JsonLiteral

/-! ### The plain literal of a string -/

/-- A quote, a backslash and a control character are escaped, with one letter where there is such
an escape; other characters stay as they are. -/
def plainUnit (c : CodePoint) : JsonUnit :=
  if h : Unescaped c then .raw c h
  else match hfound : jsonEscapes.find? fun e => decide (e.2 = c) with
    | some (l, v) => .letter l v (List.mem_of_find?_eq_some hfound)
    | none => .unicode ⟨⟨0, false⟩, ⟨0, false⟩, ⟨Fin.ofNat 16 (c.val / 16), false⟩,
        ⟨Fin.ofNat 16 c.val, false⟩⟩

/-- The three kinds of plain units. -/
theorem plainUnit_cases (c : CodePoint) :
    (∃ h, plainUnit c = .raw c h) ∨
      (∃ l h, plainUnit c = .letter l c h ∧ l ≠ slash ∧ c.IsAscii) ∨
      ∃ code : HexCode, plainUnit c = .unicode code ∧ code.number = c.val ∧ c.val < 0x20 := by
  rw [plainUnit]
  split_ifs with hc
  · exact Or.inl ⟨hc, rfl⟩
  · have hother : ∀ e ∈ jsonEscapes, ¬ Unescaped e.2 → e.1 ≠ slash ∧ e.2.IsAscii :=
      List.all_iff_forall_prop.mp (by decide)
    split
    · rename_i l v hfound
      obtain rfl : v = c := of_decide_eq_true (List.find?_some hfound :)
      have hmem := List.mem_of_find?_eq_some hfound
      exact Or.inr (Or.inl ⟨l, hmem, rfl, hother (l, v) hmem hc⟩)
    · rename_i hnone
      have hne : ∀ e ∈ jsonEscapes, e.2 ≠ c := fun e he => by
        simpa using List.find?_eq_none.mp hnone e he
      have hcontrol : c.val < 0x20 := by
        by_contra hlarge
        exact hc ⟨Nat.le_of_not_lt hlarge,
          fun h => hne (doubleQuote, doubleQuote) (by decide) h.symm,
          fun h => hne (backslash, backslash) (by decide) h.symm⟩
      refine Or.inr (Or.inr ⟨_, rfl, ?_, hcontrol⟩)
      simp only [HexCode.number, ofDigits, List.foldl_cons, List.foldl_nil, Fin.val_ofNat,
        Fin.val_zero]
      omega

theorem character_val (c : CodePoint) : character c.val = c := dif_pos c.isLt

theorem value_plainUnit (c : CodePoint) : (plainUnit c).value = c := by
  rcases plainUnit_cases c with ⟨h, hunit⟩ | ⟨l, h, hunit, -⟩ | ⟨code, hunit, hcode, -⟩
  · rw [hunit, JsonUnit.value]
  · rw [hunit, JsonUnit.value]
  · rw [hunit, JsonUnit.value, hcode, character_val]

theorem kept_plainUnit_iff (c : CodePoint) : (plainUnit c).Kept ↔ c.IsAscii := by
  rcases plainUnit_cases c with ⟨h, hunit⟩ | ⟨l, h, hunit, hl, hc⟩ | ⟨code, hunit, -, hc⟩
  · rw [hunit, JsonUnit.Kept]
  · rw [hunit]
    exact iff_of_true hl hc
  · rw [hunit]
    exact iff_of_true trivial (Nat.lt_trans hc (by decide))

theorem not_isHigh_plainUnit (c : CodePoint) : ¬ (plainUnit c).IsHigh := by
  rcases plainUnit_cases c with ⟨h, hunit⟩ | ⟨l, h, hunit, -⟩ | ⟨code, hunit, hcode, hc⟩
  · rw [hunit]
    exact id
  · rw [hunit]
    exact id
  · rw [hunit]
    rintro ⟨hhigh, -⟩
    omega

/-- The literal of a string in which nothing is escaped that need not be. -/
def JsonLiteral.plain (s : PyStr) : JsonLiteral where
  units := s.map plainUnit
  paired := by
    refine List.Pairwise.isChain (List.pairwise_map.mpr (List.pairwise_of_forall fun c d => ?_))
    exact fun h => not_isHigh_plainUnit c h.1

@[simp] theorem JsonLiteral.value_plain (s : PyStr) : (plain s).value = s := by
  simp only [value, plain, List.map_map]
  exact (List.map_congr_left fun c _ => value_plainUnit c).trans (List.map_id s)

/-- The plain literal is decoded to its string iff the string is ASCII. -/
theorem JsonLiteral.kept_plain_iff (s : PyStr) : (plain s).Kept ↔ ∀ c ∈ s, c.IsAscii := by
  simp only [Kept, plain, List.forall_mem_map, kept_plainUnit_iff]

end ZubotIngestion
