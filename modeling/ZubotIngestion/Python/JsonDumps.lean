import ZubotIngestion.Python.Integers
import Mathlib.Data.List.Sort
import Mathlib.Data.String.Basic

/-!
# The JSON encoder

`json.dumps` of a JSON-like value, without blanks, with sorted keys and with the characters outside
ASCII as they are. The text determines the value up to the order of its keys: no two values have
one text, and no text goes on as another one. The texts of floats are a parameter, of which it is
only assumed what makes them numbers that can be told apart.

## Main definitions

* `FloatText`: the texts of the finite floats.
* `escapeChar`, `writeValue`: the text of a value.
* `sortKeys`, `dumps`.

## Main results

* `writeValue_inj`: a text is the text of one value.
* `dumps_eq_iff`: values have one text iff they are the same up to the order of keys.
* `sortKeys_dict_eq_iff`: the order in which keys are inserted does not matter.
-/

namespace ZubotIngestion

/-- The texts of the finite floats, `float.__repr__`: they can be told apart from each other and
from the texts of the integers. -/
structure FloatText where
  text : ℚ → List Char
  injective : Function.Injective text
  /-- Digits, signs, a point and an exponent. -/
  chars : ∀ q, ∀ c ∈ text q, c.isDigit ∨ c ∈ ['-', '+', '.', 'e']
  /-- There is a point or an exponent. -/
  mark : ∀ q, '.' ∈ text q ∨ 'e' ∈ text q

/-- The text of an integer determines it. -/
theorem toString_injective {i j : ℤ} (h : toString i = toString j) : i = j := by
  have hread := (@readSigned_toString (fun _ => none) i).symm.trans
    ((congrArg _ (congrArg String.toList h)).trans (readSigned_toString j))
  obtain ⟨hsign, hnumeral⟩ := Prod.mk.inj (Option.some.inj hread)
  have hnat : i.natAbs = j.natAbs := congrArg Numeral.value hnumeral
  have hneg : i < 0 ↔ j < 0 := decide_eq_decide.mp hsign
  omega

/-! ### Strings -/

/-- A hexadecimal digit. -/
def hexDigit (n : ℕ) : Char := if n < 10 then Char.ofNat (48 + n) else Char.ofNat (87 + n)

/-- `ESCAPE_DCT`: quotes, backslashes and control characters are escaped. -/
def escapeChar (c : Char) : List Char :=
  if c = '"' then ['\\', '"']
  else if c = '\\' then ['\\', '\\']
  else if c = '\n' then ['\\', 'n']
  else if c = '\r' then ['\\', 'r']
  else if c = '\t' then ['\\', 't']
  else if c = '\x0c' then ['\\', 'f']
  else if c = '\x08' then ['\\', 'b']
  else if c.toNat < 32 then ['\\', 'u', '0', '0', hexDigit (c.toNat / 16), hexDigit (c.toNat % 16)]
  else [c]

/-- The value of a hexadecimal digit. -/
def hexValue (c : Char) : ℕ := if c.toNat < 58 then c.toNat - 48 else c.toNat - 87

/-- The text of a string. -/
def writeString (s : String) : List Char := '"' :: (s.toList.flatMap escapeChar ++ ['"'])

/-- What an escape stands for, and what is behind it. -/
def readEscape : List Char → Option (Char × List Char)
  | '\\' :: '"' :: rest => some ('"', rest)
  | '\\' :: '\\' :: rest => some ('\\', rest)
  | '\\' :: 'n' :: rest => some ('\n', rest)
  | '\\' :: 'r' :: rest => some ('\r', rest)
  | '\\' :: 't' :: rest => some ('\t', rest)
  | '\\' :: 'f' :: rest => some ('\x0c', rest)
  | '\\' :: 'b' :: rest => some ('\x08', rest)
  | '\\' :: 'u' :: _ :: _ :: high :: low :: rest =>
    some (Char.ofNat (16 * hexValue high + hexValue low), rest)
  | '\\' :: _ => none
  | c :: rest => some (c, rest)
  | [] => none

theorem readEscape_escapeChar (c : Char) (rest : List Char) :
    readEscape (escapeChar c ++ rest) = some (c, rest) := by
  rw [escapeChar]
  split_ifs with h₁ h₂ h₃ h₄ h₅ h₆ h₇ h₈
  · rw [h₁]; rfl
  · rw [h₂]; rfl
  · rw [h₃]; rfl
  · rw [h₄]; rfl
  · rw [h₅]; rfl
  · rw [h₆]; rfl
  · rw [h₇]; rfl
  · have hdigits : ∀ n < 32,
        16 * hexValue (hexDigit (n / 16)) + hexValue (hexDigit (n % 16)) = n := by
      decide
    exact congrArg (fun d => some (d, rest)) ((congrArg Char.ofNat (hdigits _ h₈)).trans
      (Char.ofNat_toNat c))
  · rw [List.singleton_append]
    unfold readEscape
    split <;> simp_all

/-- An escape stands for one character and ends by itself. -/
theorem escapeChar_inj {c d : Char} {s t : List Char}
    (h : escapeChar c ++ s = escapeChar d ++ t) : c = d ∧ s = t := by
  have hread := congrArg readEscape h
  rw [readEscape_escapeChar, readEscape_escapeChar] at hread
  exact Prod.mk.inj (Option.some.inj hread)

/-- An escaped character is no closing quote. -/
theorem escapeChar_ne_quote (c : Char) (s t : List Char) : escapeChar c ++ s ≠ '"' :: t := by
  rw [escapeChar]
  split_ifs with hquote <;> intro h <;> simp_all

/-- The end of a string is its closing quote. -/
theorem escaped_inj {cs ds s t : List Char}
    (h : cs.flatMap escapeChar ++ '"' :: s = ds.flatMap escapeChar ++ '"' :: t) :
    cs = ds ∧ s = t := by
  induction cs generalizing ds with
  | nil =>
    cases ds with
    | nil => exact ⟨rfl, (List.cons.inj h).2⟩
    | cons d ds =>
      rw [List.flatMap_cons, List.append_assoc] at h
      exact absurd h.symm (escapeChar_ne_quote d _ s)
  | cons c cs ih =>
    rw [List.flatMap_cons, List.append_assoc] at h
    cases ds with
    | nil => exact absurd h (escapeChar_ne_quote c _ t)
    | cons d ds =>
      rw [List.flatMap_cons, List.append_assoc] at h
      obtain ⟨rfl, hrest⟩ := escapeChar_inj h
      obtain ⟨rfl, hst⟩ := ih hrest
      exact ⟨rfl, hst⟩

theorem writeString_inj {u v : String} {s t : List Char}
    (h : writeString u ++ s = writeString v ++ t) : u = v ∧ s = t := by
  simp only [writeString, List.cons_append, List.append_assoc, List.nil_append, List.cons.injEq,
    true_and] at h
  obtain ⟨hchars, hst⟩ := escaped_inj h
  exact ⟨String.toList_inj.mp hchars, hst⟩

/-! ### Values -/

section Values

variable (lib : FloatText)

/-- The text of a float. -/
def writeFloat : PyFloat → List Char
  | .fin q => lib.text q
  | .nan => ['N', 'a', 'N']
  | .inf => ['I', 'n', 'f', 'i', 'n', 'i', 't', 'y']
  | .negInf => ['-', 'I', 'n', 'f', 'i', 'n', 'i', 't', 'y']

/-- The text of a Boolean. -/
def writeBool (b : Bool) : List Char :=
  if b then ['t', 'r', 'u', 'e'] else ['f', 'a', 'l', 's', 'e']

mutual

/-- The text of a value. -/
def writeValue : PyVal → List Char
  | .none => ['n', 'u', 'l', 'l']
  | .bool b => writeBool b
  | .int i => (toString i).toList
  | .float f => writeFloat lib f
  | .str s => writeString s
  | .list items => '[' :: writeItems [] items
  | .dict items => '{' :: writeMembers [] items

/-- The items of a list behind its bracket; all but the first one have a comma in front. -/
def writeItems (sep : List Char) : List PyVal → List Char
  | [] => [']']
  | v :: items => sep ++ (writeValue v ++ writeItems [','] items)

/-- The items of a dictionary behind its brace. -/
def writeMembers (sep : List Char) : List (String × PyVal) → List Char
  | [] => ['}']
  | (k, v) :: items => sep ++ (writeString k ++ ':' :: (writeValue v ++ writeMembers [','] items))

end

/-- The literals with their texts. -/
def literals : List (PyVal × List Char) :=
  [(.none, ['n', 'u', 'l', 'l']), (.bool true, ['t', 'r', 'u', 'e']),
    (.bool false, ['f', 'a', 'l', 's', 'e']), (.float .nan, ['N', 'a', 'N']),
    (.float .inf, ['I', 'n', 'f', 'i', 'n', 'i', 't', 'y']),
    (.float .negInf, ['-', 'I', 'n', 'f', 'i', 'n', 'i', 't', 'y'])]

/-- A value that is written as one token: a literal or a number. -/
inductive IsToken : PyVal → Prop
  | literal {entry : PyVal × List Char} (h : entry ∈ literals) : IsToken entry.1
  | int (i : ℤ) : IsToken (.int i)
  | float (q : ℚ) : IsToken (.float (.fin q))

/-- The symbols of numbers. -/
def isNumberChar (c : Char) : Bool := c.isDigit || ['-', '+', '.', 'e'].contains c

/-- The symbols of tokens. -/
def isTokenChar (c : Char) : Bool := c.isAlpha || isNumberChar c

/-- The text is at its end, or the next symbol is none of a token. -/
def Ends (text : List Char) : Prop := ∀ c ∈ text.head?, isTokenChar c = false

variable {lib}

theorem writeValue_literal {entry : PyVal × List Char} (h : entry ∈ literals) :
    writeValue lib entry.1 = entry.2 := by
  have hall : ∀ entry ∈ literals, writeValue lib entry.1 = entry.2 := by
    simp [literals, writeValue, writeFloat, writeBool]
  exact hall entry h

theorem isNumberChar_int (i : ℤ) : ∀ c ∈ writeValue lib (.int i), isNumberChar c = true := by
  intro c hc
  rw [writeValue] at hc
  rcases isDigit_or_eq_of_mem_toString hc with hdigit | rfl
  · rw [isNumberChar, hdigit, Bool.true_or]
  · decide

theorem isNumberChar_float (q : ℚ) :
    ∀ c ∈ writeValue lib (.float (.fin q)), isNumberChar c = true := by
  intro c hc
  rw [writeValue, writeFloat] at hc
  rcases lib.chars q c hc with hdigit | hmark
  · rw [isNumberChar, hdigit, Bool.true_or]
  · rw [isNumberChar, List.contains_iff_mem.mpr hmark, Bool.or_true]

variable (lib) in
theorem isTokenChar_of_isToken {v : PyVal} (h : IsToken v) :
    writeValue lib v ≠ [] ∧ ∀ c ∈ writeValue lib v, isTokenChar c = true := by
  have hnumber {text : List Char} (h : ∀ c ∈ text, isNumberChar c = true) :
      ∀ c ∈ text, isTokenChar c = true := fun c hc => by rw [isTokenChar, h c hc, Bool.or_true]
  cases h with
  | literal hentry =>
    rw [writeValue_literal hentry]
    have hall : ∀ entry ∈ literals.map Prod.snd, entry ≠ [] ∧ entry.all isTokenChar = true := by
      decide
    exact (hall _ (List.mem_map_of_mem hentry)).imp_right List.all_eq_true.mp
  | int i =>
    refine ⟨?_, hnumber (isNumberChar_int i)⟩
    rw [writeValue, toList_toString]
    exact List.append_ne_nil_of_right_ne_nil _ (List.ne_nil_of_length_pos Nat.length_toDigits_pos)
  | float q =>
    refine ⟨fun hempty => ?_, hnumber (isNumberChar_float q)⟩
    rw [writeValue, writeFloat] at hempty
    have hmark := lib.mark q
    rw [hempty] at hmark
    exact hmark.elim List.not_mem_nil List.not_mem_nil

/-- A literal has a letter that is in no number. -/
theorem literal_ne_number {entry : PyVal × List Char} (h : entry ∈ literals) {text : List Char}
    (htext : ∀ c ∈ text, isNumberChar c = true) : entry.2 ≠ text := by
  rintro rfl
  have hall : ∀ entry ∈ literals.map Prod.snd, entry.all isNumberChar = false := by
    decide
  have hfalse := hall _ (List.mem_map_of_mem h)
  exact Bool.false_ne_true (hfalse.symm.trans (List.all_eq_true.mpr htext))

/-- An integer has neither a point nor an exponent. -/
theorem int_ne_float (i : ℤ) (q : ℚ) :
    writeValue lib (.int i) ≠ writeValue lib (.float (.fin q)) := by
  intro h
  rw [writeValue, writeValue, writeFloat] at h
  have hmark := lib.mark q
  rw [← h] at hmark
  rcases hmark with hpoint | hexponent
  · exact absurd (isDigit_or_eq_of_mem_toString hpoint) (by decide)
  · exact absurd (isDigit_or_eq_of_mem_toString hexponent) (by decide)

/-- The text of a token is the text of no other token. -/
theorem token_inj {v w : PyVal} (hv : IsToken v) (hw : IsToken w)
    (h : writeValue lib v = writeValue lib w) : v = w := by
  cases hv with
  | @literal entry hentry =>
    rw [writeValue_literal hentry] at h
    cases hw with
    | @literal entry' hentry' =>
      rw [writeValue_literal hentry'] at h
      have hnodup : (literals.map Prod.snd).Nodup := by decide
      rw [List.inj_on_of_nodup_map hnodup hentry hentry' h]
    | int i => exact absurd h (literal_ne_number hentry (isNumberChar_int i))
    | float q => exact absurd h (literal_ne_number hentry (isNumberChar_float q))
  | int i =>
    cases hw with
    | @literal entry' hentry' =>
      rw [writeValue_literal hentry'] at h
      exact absurd h.symm (literal_ne_number hentry' (isNumberChar_int i))
    | int j =>
      rw [writeValue, writeValue] at h
      rw [toString_injective (String.toList_inj.mp h)]
    | float q => exact absurd h (int_ne_float i q)
  | float q =>
    cases hw with
    | @literal entry' hentry' =>
      rw [writeValue_literal hentry'] at h
      exact absurd h.symm (literal_ne_number hentry' (isNumberChar_float q))
    | int j => exact absurd h.symm (int_ne_float j q)
    | float r =>
      rw [writeValue, writeValue, writeFloat, writeFloat] at h
      rw [lib.injective h]

/-! ### A text stands for one value -/

/-- The symbol that a string, a list or a dictionary begins with. -/
def opening : PyVal → Option Char
  | .str _ => some '"'
  | .list _ => some '['
  | .dict _ => some '{'
  | _ => none

theorem isToken_of_opening {v : PyVal} (h : opening v = none) : IsToken v := by
  have hliteral {i : ℕ} {entry : PyVal × List Char} (h : literals[i]? = some entry) :
      IsToken entry.1 := .literal (List.mem_of_getElem? h)
  cases v with
  | none => exact hliteral (i := 0) rfl
  | bool b =>
    cases b with
    | true => exact hliteral (i := 1) rfl
    | false => exact hliteral (i := 2) rfl
  | int i => exact .int i
  | float f =>
    cases f with
    | fin q => exact .float q
    | nan => exact hliteral (i := 3) rfl
    | inf => exact hliteral (i := 4) rfl
    | negInf => exact hliteral (i := 5) rfl
  | str s => cases h
  | list items => cases h
  | dict items => cases h

/-- No token begins with such a symbol. -/
theorem isTokenChar_opening {v : PyVal} {c : Char} (h : opening v = some c) :
    isTokenChar c = false := by
  cases v <;> cases h <;> decide

variable (lib) in
/-- The first symbol of a text tells what it is the text of. -/
theorem head?_writeValue (v : PyVal) (s : List Char) :
    ∃ c, (writeValue lib v ++ s).head? = some c ∧
      (opening v = some c ∨ opening v = none ∧ isTokenChar c = true) := by
  cases hopening : opening v with
  | none =>
    obtain ⟨hne, hchars⟩ := isTokenChar_of_isToken lib (isToken_of_opening hopening)
    obtain ⟨c, text, htext⟩ := List.exists_cons_of_ne_nil hne
    rw [htext] at hchars ⊢
    exact ⟨c, rfl, Or.inr ⟨rfl, hchars c List.mem_cons_self⟩⟩
  | some c =>
    refine ⟨c, ?_, Or.inl rfl⟩
    cases v <;> cases hopening <;> rw [writeValue] <;> rfl

theorem opening_eq {v w : PyVal} {s t : List Char}
    (h : writeValue lib v ++ s = writeValue lib w ++ t) : opening v = opening w := by
  obtain ⟨c, hc, hv⟩ := head?_writeValue lib v s
  obtain ⟨d, hd, hw⟩ := head?_writeValue lib w t
  obtain rfl : c = d := Option.some.inj (hc.symm.trans ((congrArg List.head? h).trans hd))
  rcases hv with hv | ⟨hv, htoken⟩ <;> rcases hw with hw | ⟨hw, htoken'⟩
  · rw [hv, hw]
  · exact absurd (htoken'.symm.trans (isTokenChar_opening hv)) Bool.true_eq_false_eq_False
  · exact absurd (htoken.symm.trans (isTokenChar_opening hw)) Bool.true_eq_false_eq_False
  · rw [hv, hw]

/-- A token ends where its symbols end. -/
theorem token_append_inj {u v s t : List Char} (hu : ∀ c ∈ u, isTokenChar c = true)
    (hv : ∀ c ∈ v, isTokenChar c = true) (hs : Ends s) (ht : Ends t) (h : u ++ s = v ++ t) :
    u = v ∧ s = t := by
  have hempty {text : List Char} (htext : Ends text) : text.takeWhile isTokenChar = [] := by
    cases text with
    | nil => rfl
    | cons c text =>
      exact List.takeWhile_cons_of_neg (by rw [htext c rfl]; exact Bool.false_ne_true)
  have htake := congrArg (List.takeWhile isTokenChar) h
  rw [List.takeWhile_append_of_pos hu, List.takeWhile_append_of_pos hv, hempty hs, hempty ht,
    List.append_nil, List.append_nil] at htake
  exact ⟨htake, List.append_cancel_left (htake ▸ h)⟩

theorem writeValue_inj_of_isToken {v w : PyVal} {s t : List Char} (hv : opening v = none)
    (hs : Ends s) (ht : Ends t) (h : writeValue lib v ++ s = writeValue lib w ++ t) :
    v = w ∧ s = t := by
  have hw := isToken_of_opening ((opening_eq h).symm.trans hv)
  have hv := isToken_of_opening hv
  obtain ⟨htext, hrest⟩ := token_append_inj (isTokenChar_of_isToken lib hv).2
    (isTokenChar_of_isToken lib hw).2 hs ht h
  exact ⟨token_inj hv hw htext, hrest⟩

/-- What is between two items of a container. -/
def IsSeparator (sep : List Char) : Prop := sep = [] ∨ sep = [',']

/-- Behind an item there is a comma or a closing bracket. -/
theorem ends_writeItems (items : List PyVal) (s : List Char) :
    Ends (writeItems lib [','] items ++ s) := by
  cases items <;> rw [writeItems] <;> rintro c ⟨⟩ <;> decide

theorem ends_writeMembers (items : List (String × PyVal)) (s : List Char) :
    Ends (writeMembers lib [','] items ++ s) := by
  rcases items with _ | ⟨⟨k, v⟩, items⟩ <;> rw [writeMembers] <;> rintro c ⟨⟩ <;> decide

variable (lib) in
/-- An item is not a closing bracket. -/
theorem item_ne_closing {sep : List Char} (hsep : IsSeparator sep) {c : Char}
    (hc : c = ']' ∨ c = '}') (v : PyVal) (s t : List Char) :
    sep ++ (writeValue lib v ++ s) ≠ c :: t := by
  rcases hsep with rfl | rfl
  · intro h
    obtain ⟨d, hd, hv⟩ := head?_writeValue lib v s
    obtain rfl : d = c := Option.some.inj (hd.symm.trans (congrArg List.head? h))
    rcases hv with hv | ⟨-, htoken⟩
    · cases v <;> cases hv <;> rcases hc with hc | hc <;> cases hc
    · rcases hc with rfl | rfl <;> exact absurd htoken (by decide)
  · rintro h
    obtain ⟨rfl, -⟩ := List.cons.inj h
    rcases hc with hc | hc <;> exact absurd hc (by decide)

variable (lib)

mutual

/-- A text is the text of one value, whatever stands behind it. -/
theorem writeValue_inj : ∀ (v w : PyVal) {s t : List Char}, Ends s → Ends t →
    writeValue lib v ++ s = writeValue lib w ++ t → v = w ∧ s = t
  | .str u, w, s, t, _, _, h => by
    have hopening := opening_eq h
    cases w <;> cases hopening
    rw [writeValue, writeValue] at h
    obtain ⟨rfl, hst⟩ := writeString_inj h
    exact ⟨rfl, hst⟩
  | .list items, w, s, t, _, _, h => by
    have hopening := opening_eq h
    cases w <;> cases hopening
    rw [writeValue, writeValue] at h
    obtain ⟨rfl, hst⟩ := writeItems_inj (Or.inl rfl) items _ (List.cons.inj h).2
    exact ⟨rfl, hst⟩
  | .dict items, w, s, t, _, _, h => by
    have hopening := opening_eq h
    cases w <;> cases hopening
    rw [writeValue, writeValue] at h
    obtain ⟨rfl, hst⟩ := writeMembers_inj (Or.inl rfl) items _ (List.cons.inj h).2
    exact ⟨rfl, hst⟩
  | .none, _, _, _, hs, ht, h => writeValue_inj_of_isToken rfl hs ht h
  | .bool _, _, _, _, hs, ht, h => writeValue_inj_of_isToken rfl hs ht h
  | .int _, _, _, _, hs, ht, h => writeValue_inj_of_isToken rfl hs ht h
  | .float _, _, _, _, hs, ht, h => writeValue_inj_of_isToken rfl hs ht h

theorem writeItems_inj {sep : List Char} (hsep : IsSeparator sep) :
    ∀ (items items' : List PyVal) {s t : List Char},
      writeItems lib sep items ++ s = writeItems lib sep items' ++ t → items = items' ∧ s = t
  | [], [], s, t, h => ⟨rfl, by rw [writeItems] at h; exact (List.cons.inj h).2⟩
  | [], v :: items', s, t, h => by
    rw [writeItems, writeItems, List.append_assoc, List.append_assoc] at h
    exact absurd h.symm (item_ne_closing lib hsep (Or.inl rfl) v _ s)
  | v :: items, [], s, t, h => by
    rw [writeItems, writeItems, List.append_assoc, List.append_assoc] at h
    exact absurd h (item_ne_closing lib hsep (Or.inl rfl) v _ t)
  | v :: items, w :: items', s, t, h => by
    rw [writeItems, writeItems] at h
    simp only [List.append_assoc, List.append_cancel_left_eq] at h
    obtain ⟨rfl, hrest⟩ := writeValue_inj v w (ends_writeItems items s)
      (ends_writeItems items' t) h
    obtain ⟨rfl, hst⟩ := writeItems_inj (Or.inr rfl) items items' hrest
    exact ⟨rfl, hst⟩

theorem writeMembers_inj {sep : List Char} (hsep : IsSeparator sep) :
    ∀ (items items' : List (String × PyVal)) {s t : List Char},
      writeMembers lib sep items ++ s = writeMembers lib sep items' ++ t →
        items = items' ∧ s = t
  | [], [], s, t, h => ⟨rfl, by rw [writeMembers] at h; exact (List.cons.inj h).2⟩
  | [], (k, v) :: items', s, t, h => by
    rw [writeMembers, writeMembers, List.append_assoc, List.append_assoc] at h
    have hkey := item_ne_closing lib hsep (Or.inr rfl) (.str k)
    rw [writeValue] at hkey
    exact absurd h.symm (hkey _ s)
  | (k, v) :: items, [], s, t, h => by
    rw [writeMembers, writeMembers, List.append_assoc, List.append_assoc] at h
    have hkey := item_ne_closing lib hsep (Or.inr rfl) (.str k)
    rw [writeValue] at hkey
    exact absurd h (hkey _ t)
  | (k, v) :: items, (k', w) :: items', s, t, h => by
    rw [writeMembers, writeMembers] at h
    simp only [List.append_assoc, List.append_cancel_left_eq, List.cons_append] at h
    obtain ⟨rfl, hvalue⟩ := writeString_inj h
    obtain ⟨rfl, hrest⟩ := writeValue_inj v w (ends_writeMembers items s)
      (ends_writeMembers items' t) (List.cons.inj hvalue).2
    obtain ⟨rfl, hst⟩ := writeMembers_inj (Or.inr rfl) items items' hrest
    exact ⟨rfl, hst⟩

end

end Values

/-! ### Sorted keys -/

/-- The order of the items of a dictionary by their keys. -/
def keyLe (a b : String × PyVal) : Bool := decide (a.1 ≤ b.1)

mutual

/-- The value with the items of all its dictionaries sorted by their keys. -/
def sortKeys : PyVal → PyVal
  | .none => .none
  | .bool b => .bool b
  | .int i => .int i
  | .float f => .float f
  | .str s => .str s
  | .list items => .list (sortItems items)
  | .dict items => .dict ((sortMembers items).mergeSort keyLe)

/-- The items of a list, each with sorted keys. -/
def sortItems : List PyVal → List PyVal
  | [] => []
  | v :: items => sortKeys v :: sortItems items

/-- The items of a dictionary, each value with sorted keys. -/
def sortMembers : List (String × PyVal) → List (String × PyVal)
  | [] => []
  | (k, v) :: items => (k, sortKeys v) :: sortMembers items

end

mutual

/-- Whether there is an integer in a value that is too large for a text. -/
def hasLargeInt : PyVal → Bool
  | .none => false
  | .bool _ => false
  | .int i => decide (maxStrDigits < Text.digitCount 10 i.natAbs)
  | .float _ => false
  | .str _ => false
  | .list items => hasLargeItem items
  | .dict items => hasLargeMember items

/-- Whether there is such an integer in a list. -/
def hasLargeItem : List PyVal → Bool
  | [] => false
  | v :: items => hasLargeInt v || hasLargeItem items

/-- Whether there is such an integer in a dictionary. -/
def hasLargeMember : List (String × PyVal) → Bool
  | [] => false
  | (_, v) :: items => hasLargeInt v || hasLargeMember items

end

/-- `json.dumps(value, separators=(",", ":"), sort_keys=True, ensure_ascii=False)`. -/
def dumps (lib : FloatText) (value : PyVal) : Except PyException String :=
  if hasLargeInt value then
    .error (.error "ValueError" ("Exceeds the limit (4300 digits) for integer string " ++
      "conversion; use sys.set_int_max_str_digits() to increase the limit"))
  else .ok (String.ofList (writeValue lib (sortKeys value)))

/-- Values have one text iff they are the same up to the order of keys. -/
theorem dumps_eq_iff {lib : FloatText} {v w : PyVal} {text text' : String}
    (hv : dumps lib v = .ok text) (hw : dumps lib w = .ok text') :
    text = text' ↔ sortKeys v = sortKeys w := by
  have htext {u : PyVal} {text : String} (h : dumps lib u = .ok text) :
      text.toList = writeValue lib (sortKeys u) := by
    rw [dumps] at h
    split_ifs at h
    rw [← Except.ok.inj h, String.toList_ofList]
  rw [← String.toList_inj, htext hv, htext hw]
  constructor
  · intro h
    have hends : Ends [] := fun c hc => nomatch hc
    exact (writeValue_inj lib _ _ hends hends (congrArg (· ++ []) h)).1
  · intro h
    rw [h]

/-- Sorting the keys of the values keeps the keys of a dictionary. -/
theorem keys_sortMembers (items : List (String × PyVal)) :
    (sortMembers items).map Prod.fst = items.map Prod.fst := by
  induction items with
  | nil => rw [sortMembers]
  | cons item items ih => rw [sortMembers, List.map_cons, List.map_cons, ih]

/-- Items with different keys are sorted in one way. -/
theorem mergeSort_keyLe_eq_iff {d d' : Dict} (hd : (d.map Prod.fst).Nodup) :
    d.mergeSort keyLe = d'.mergeSort keyLe ↔ d.Perm d' := by
  have htrans (a b c : String × PyVal) :
      keyLe a b = true → keyLe b c = true → keyLe a c = true := by
    simp only [keyLe, decide_eq_true_eq]
    exact le_trans
  have htotal (a b : String × PyVal) : (keyLe a b || keyLe b a) = true := by
    simpa only [keyLe, Bool.or_eq_true, decide_eq_true_eq] using le_total a.1 b.1
  constructor
  · intro h
    exact (List.mergeSort_perm d keyLe).symm.trans (h ▸ List.mergeSort_perm d' keyLe)
  · intro h
    refine List.Perm.eq_of_pairwise (fun a b ha hb hab hba => ?_)
      (List.pairwise_mergeSort htrans htotal d) (List.pairwise_mergeSort htrans htotal d')
      ((List.mergeSort_perm d keyLe).trans (h.trans (List.mergeSort_perm d' keyLe).symm))
    rw [keyLe, decide_eq_true_eq] at hab hba
    refine List.inj_on_of_nodup_map hd ((List.mergeSort_perm d keyLe).mem_iff.mp ha) ?_
      (le_antisymm hab hba)
    exact h.mem_iff.mpr ((List.mergeSort_perm d' keyLe).mem_iff.mp hb)

theorem Dict.get?_sortMembers (d : Dict) (key : String) :
    Dict.get? (sortMembers d) key = (d.get? key).map sortKeys := by
  induction d with
  | nil => rw [sortMembers]; rfl
  | cons item d ih =>
    obtain ⟨k, v⟩ := item
    rw [sortMembers, Dict.get?_cons, Dict.get?_cons, ih]
    split_ifs <;> rfl

/-- Dictionaries are the same up to the order of keys iff they have the same values under all
keys. -/
theorem sortKeys_dict_eq_iff {d d' : Dict} (hd : (d.map Prod.fst).Nodup)
    (hd' : (d'.map Prod.fst).Nodup) : sortKeys (.dict d) = sortKeys (.dict d') ↔
      ∀ key, (d.get? key).map sortKeys = (d'.get? key).map sortKeys := by
  have hkeys {d : Dict} (hd : (d.map Prod.fst).Nodup) : ((sortMembers d).map Prod.fst).Nodup := by
    rwa [keys_sortMembers]
  simp only [sortKeys, PyVal.dict.injEq, mergeSort_keyLe_eq_iff (hkeys hd),
    ← Dict.get?_sortMembers]
  rw [List.perm_ext_iff_of_nodup (hkeys hd).of_map (hkeys hd').of_map]
  constructor
  · intro h key
    refine Option.ext fun v => ?_
    rw [Dict.get?_eq_some_iff (hkeys hd), Dict.get?_eq_some_iff (hkeys hd'), h]
  · rintro h ⟨key, v⟩
    rw [← Dict.get?_eq_some_iff (hkeys hd), ← Dict.get?_eq_some_iff (hkeys hd'), h]

/-- A permutation that keeps the keys in their places keeps the items. -/
theorem eq_of_perm_of_keys {d d' : Dict} (hd : (d.map Prod.fst).Nodup)
    (hkeys : d.map Prod.fst = d'.map Prod.fst) (h : d.Perm d') : d = d' := by
  induction d generalizing d' with
  | nil => exact h.nil_eq
  | cons item d ih =>
    cases d' with
    | nil => cases hkeys
    | cons item' d' =>
      obtain ⟨hkey, hrest⟩ := List.cons.inj hkeys
      have hd' : ((item' :: d').map Prod.fst).Nodup := hkeys ▸ hd
      obtain rfl : item = item' := List.inj_on_of_nodup_map hd' (h.mem_iff.mp List.mem_cons_self)
        List.mem_cons_self hkey
      rw [ih (List.nodup_cons.mp hd).2 hrest (List.perm_cons item |>.mp h)]

/-- If the keys stand in the same order, the values are the same one by one. -/
theorem sortKeys_dict_eq_iff_of_keys {d d' : Dict} (hd : (d.map Prod.fst).Nodup)
    (hkeys : d.map Prod.fst = d'.map Prod.fst) : sortKeys (.dict d) = sortKeys (.dict d') ↔
      sortMembers d = sortMembers d' := by
  have hmembers : ((sortMembers d).map Prod.fst).Nodup := by rwa [keys_sortMembers]
  simp only [sortKeys, PyVal.dict.injEq, mergeSort_keyLe_eq_iff hmembers]
  refine ⟨fun h => eq_of_perm_of_keys hmembers ?_ h, fun h => h ▸ List.Perm.refl _⟩
  rw [keys_sortMembers, keys_sortMembers, hkeys]

end ZubotIngestion
