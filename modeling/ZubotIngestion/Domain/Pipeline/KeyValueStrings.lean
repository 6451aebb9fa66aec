import ZubotIngestion.Domain.Pipeline.JsonParser
import ZubotIngestion.Domain.Pipeline.JsonString
import ZubotIngestion.Text.Edges

/-!
# String values of the fallback

The fallback of the response parser looks for quoted keys with their values. Where a key has a
string literal of JSON for a value, the whole literal is captured, and what is between its quotes
is decoded with `unicode_escape`. So the key has the string of the literal just if the codec keeps
all units of it.

## Main definitions

* `JsonMember`: a quoted key with a string literal, as it is written.
* `JsonMethods.withCodec`: the methods with the codec of Python.

## Main results

* `kvAt_member`: what is captured of a member.
* `regexExtract_string_iff`: when the key has the string of the literal.
-/

namespace ZubotIngestion

open Text

/-- A quoted key, a colon with white space around it, and a string literal. -/
structure JsonMember where
  opening : CodePoint
  key : PyStr
  closing : CodePoint
  before : PyStr
  after : PyStr
  literal : JsonLiteral
  isQuote_opening : isQuote opening = true
  isQuote_closing : isQuote closing = true
  key_ne_nil : key ≠ []
  not_isQuote_key : ∀ c ∈ key, isQuote c = false
  isSpace_before : ∀ c ∈ before, c.isSpace = true
  isSpace_after : ∀ c ∈ after, c.isSpace = true

namespace JsonMember

variable (m : JsonMember)

/-- The key with its quotes. -/
def keyToken : PyStr := m.opening :: (m.key ++ [m.closing])

/-- The text of a member. -/
def text : PyStr := m.keyToken ++ (m.before ++ .of ':' :: (m.after ++ m.literal.text))

end JsonMember

/-! ### What is captured -/

theorem isSpace_of_isQuote {c : CodePoint} (h : isQuote c = true) : c.isSpace = false := by
  rcases of_decide_eq_true h with rfl | rfl <;> decide

theorem keyLength_keyToken (m : JsonMember) (rest : PyStr) :
    keyLength (m.keyToken ++ rest) = some m.keyToken.length := by
  have hinner : ((m.key ++ [m.closing]) ++ rest).takeWhile (fun c => !isQuote c) = m.key := by
    rw [List.append_assoc, List.takeWhile_append_of_pos, List.singleton_append,
      List.takeWhile_cons_of_neg (by simp [m.isQuote_closing]), List.append_nil]
    intro c hc
    rw [m.not_isQuote_key c hc]
    rfl
  have hpos : 0 < m.key.length := List.length_pos_of_ne_nil m.key_ne_nil
  have hlt : m.key.length < ((m.key ++ [m.closing]) ++ rest).length := by
    simp only [List.length_append, List.length_singleton]
    omega
  rw [JsonMember.keyToken, List.cons_append, keyLength]
  simp only [hinner]
  rw [if_pos ⟨m.isQuote_opening, hpos, hlt⟩]
  simp

/-- White space in front of a symbol that is none is skipped. -/
theorem dropWhile_isSpace_append {space : PyStr} (hspace : ∀ c ∈ space, c.isSpace = true)
    {c : CodePoint} (hc : c.isSpace = false) (rest : PyStr) :
    (space ++ c :: rest).dropWhile CodePoint.isSpace = c :: rest := by
  rw [dropWhile_append_cons hc, List.dropWhile_eq_nil_iff.mpr hspace, List.nil_append]

theorem quotedLength_literal (literal : JsonLiteral) (rest : PyStr) :
    quotedLength doubleQuote (literal.text ++ rest) = some literal.text.length := by
  have htext : literal.text ++ rest = doubleQuote :: (literal.inner ++ doubleQuote :: rest) := by
    simp only [JsonLiteral.text, List.cons_append, List.append_assoc, List.nil_append]
  rw [htext, quotedLength, if_pos rfl, JsonLiteral.inner, closeQuote_units, Option.map_some]
  simp [JsonLiteral.text, JsonLiteral.inner]

/-- A member in front of a text is captured, and its literal is captured to the end. -/
theorem kvAt_member (isDecimal : CodePoint → Bool) (m : JsonMember) (rest : PyStr) :
    kvAt isDecimal (m.text ++ rest) =
      some ((m.keyToken, m.literal.text), m.text.length) := by
  have htext : m.text ++ rest =
      m.keyToken ++ (m.before ++ .of ':' :: (m.after ++ (m.literal.text ++ rest))) := by
    simp only [JsonMember.text, List.append_assoc, List.cons_append]
  have hcolon : (CodePoint.of ':').isSpace = false := by decide
  have hquote : doubleQuote.isSpace = false := by decide
  have hafter : (m.after ++ (m.literal.text ++ rest)).dropWhile CodePoint.isSpace =
      m.literal.text ++ rest :=
    dropWhile_isSpace_append m.isSpace_after hquote _
  have hvalue : valueLength isDecimal (m.literal.text ++ rest) = some m.literal.text.length := by
    rw [valueLength, quotedLength_literal]
    rfl
  rw [htext, kvAt, keyLength_keyToken]
  simp only [Option.bind_eq_bind, Option.bind_some, List.drop_left,
    dropWhile_isSpace_append m.isSpace_before hcolon, if_true, hafter, hvalue, List.take_left]
  refine congrArg some (Prod.ext rfl ?_)
  simp only [JsonMember.text, List.length_append, List.length_cons]
  omega

/-! ### What is decoded -/

/-- The methods with the codec of Python behind `unescape`. -/
def JsonMethods.withCodec (py : JsonMethods) (names : List Byte → Option CodePoint) :
    JsonMethods :=
  { py with unescape := fun inner => unicodeEscapeDecode names (encodeUtf8 inner) }

/-- Lowering a text keeps a double quote in front of it. -/
def JsonMethods.KeepsQuote (py : JsonMethods) : Prop :=
  ∀ text, (py.lower (doubleQuote :: text)).head? = some doubleQuote

section Decoded

variable {py : JsonMethods} (names : List Byte → Option CodePoint)

theorem strip_literal (literal : JsonLiteral) : literal.text.strip = literal.text := by
  have hquote : doubleQuote.isSpace = false := by decide
  have hfront : literal.text.dropWhile CodePoint.isSpace = literal.text :=
    List.dropWhile_cons_of_neg (by rw [hquote]; exact Bool.false_ne_true)
  have hback : (doubleQuote :: literal.inner ++ [doubleQuote]).rdropWhile CodePoint.isSpace =
      doubleQuote :: literal.inner ++ [doubleQuote] :=
    List.rdropWhile_concat_neg _ _ _ (by rw [hquote]; exact Bool.false_ne_true)
  rw [PyStr.strip, hfront]
  exact hback

theorem unquote_literal (literal : JsonLiteral) : unquote literal.text = literal.inner := by
  rw [unquote, JsonLiteral.text, List.tail_cons, List.dropLast_concat]

theorem isQuoted_literal (literal : JsonLiteral) : IsQuoted literal.text := by
  refine Or.inl ⟨rfl, ?_⟩
  rw [JsonLiteral.text, ← List.cons_append, List.getLast?_concat]

/-- A text that begins with a quote is none of the literals `null`, `true` and `false`. -/
theorem literal?_of_keepsQuote (hpy : py.KeepsQuote) (literal : JsonLiteral) :
    literal? (py.lower literal.text) = none := by
  have hhead : (py.lower literal.text).head? = some doubleQuote := hpy _
  have hne {word : PyStr} (hword : word.head? ≠ some doubleQuote) :
      py.lower literal.text ≠ word := fun h => hword (h ▸ hhead)
  rw [literal?, if_neg (hne (by decide)), if_neg (hne (by decide)), if_neg (hne (by decide))]

/-- What is between the quotes of a literal is decoded. -/
theorem coerceKvValue_literal (hpy : py.KeepsQuote) (literal : JsonLiteral) :
    coerceKvValue (py.withCodec names) literal.text =
      decodeInner (py.withCodec names) literal.inner := by
  have hliteral : literal? ((py.withCodec names).lower literal.text) = none :=
    literal?_of_keepsQuote hpy literal
  rw [coerceKvValue, strip_literal, hliteral]
  simp only [if_pos (isQuoted_literal literal), unquote_literal]

/-- The value of a literal is its string iff the codec keeps its units and no surrogate is
encoded. -/
theorem coerceKvValue_literal_iff (hpy : py.KeepsQuote) (literal : JsonLiteral) :
    coerceKvValue (py.withCodec names) literal.text = .ok (.str literal.value) ↔
      literal.Kept ∧ ¬ ∃ c ∈ literal.inner, c.IsSurrogate := by
  have hkept : unicodeEscapeDecode names (encodeUtf8 literal.inner) = literal.value ↔
      literal.Kept :=
    unicodeEscapeDecode_units_iff names literal.units
  rw [coerceKvValue_literal names hpy, decodeInner, JsonMethods.withCodec, ← hkept]
  split_ifs with hsurrogate
  · simp [hsurrogate]
  · simp [hsurrogate]

end Decoded

/-! ### The dictionary -/

section Dictionary

variable {py : JsonMethods}

/-- A pair that is collected. -/
def collectPair (py : JsonMethods) (out : JsonDict) (pair : PyStr × PyStr) :
    Except DecodeException JsonDict :=
  return out.set (unquote pair.1.strip) (← coerceKvValue py pair.2)

theorem foldlM_collectPair_cons {out : JsonDict} {pair : PyStr × PyStr} {value : JsonValue}
    (hvalue : coerceKvValue py pair.2 = .ok value) (pairs : List (PyStr × PyStr)) :
    (pair :: pairs).foldlM (collectPair py) out =
      pairs.foldlM (collectPair py) (out.set (unquote pair.1.strip) value) := by
  have hcollect : collectPair py out pair = .ok (out.set (unquote pair.1.strip) value) := by
    rw [collectPair, hvalue]
    rfl
  rw [List.foldlM_cons, hcollect]
  rfl

/-- A key keeps its value while pairs with other keys are collected. -/
theorem get?_foldlM_collectPair {key : PyStr} {out d : JsonDict} {pairs : List (PyStr × PyStr)}
    (hpairs : ∀ pair ∈ pairs, unquote pair.1.strip ≠ key)
    (h : pairs.foldlM (collectPair py) out = .ok d) : d.get? key = out.get? key := by
  induction pairs generalizing out with
  | nil => rw [← Except.ok.inj h]
  | cons pair pairs ih =>
    cases hvalue : coerceKvValue py pair.2 with
    | error exc =>
      rw [List.foldlM_cons, collectPair, hvalue] at h
      cases h
    | ok value =>
      rw [foldlM_collectPair_cons hvalue] at h
      rw [ih (fun p hp => hpairs p (List.mem_cons_of_mem pair hp)) h, JsonDict.get?_set,
        if_neg (hpairs pair List.mem_cons_self)]

/-- The value of the last pair with a key. -/
theorem get?_foldlM_collectPair_append {out d : JsonDict} {pair : PyStr × PyStr}
    {before after : List (PyStr × PyStr)}
    (hafter : ∀ p ∈ after, unquote p.1.strip ≠ unquote pair.1.strip)
    (h : (before ++ pair :: after).foldlM (collectPair py) out = .ok d) :
    ∃ value, coerceKvValue py pair.2 = .ok value ∧ d.get? (unquote pair.1.strip) = some value := by
  rw [List.foldlM_append] at h
  cases hbefore : before.foldlM (collectPair py) out with
  | error exc =>
    rw [hbefore] at h
    cases h
  | ok out' =>
    rw [hbefore] at h
    have h : (pair :: after).foldlM (collectPair py) out' = .ok d := h
    cases hvalue : coerceKvValue py pair.2 with
    | error exc =>
      rw [List.foldlM_cons, collectPair, hvalue] at h
      cases h
    | ok value =>
      rw [foldlM_collectPair_cons hvalue] at h
      refine ⟨value, rfl, ?_⟩
      rw [get?_foldlM_collectPair hafter h, JsonDict.get?_set, if_pos rfl]

end Dictionary

/-! ### Members in a text -/

/-- The key of a member, as the fallback takes it from its quotes. -/
theorem unquote_keyToken (m : JsonMember) : unquote m.keyToken.strip = m.key := by
  have hopening := isSpace_of_isQuote m.isQuote_opening
  have hclosing := isSpace_of_isQuote m.isQuote_closing
  have hfront : m.keyToken.dropWhile CodePoint.isSpace = m.keyToken :=
    List.dropWhile_cons_of_neg (by rw [hopening]; exact Bool.false_ne_true)
  have hback : (m.opening :: m.key ++ [m.closing]).rdropWhile CodePoint.isSpace =
      m.opening :: m.key ++ [m.closing] :=
    List.rdropWhile_concat_neg _ _ _ (by rw [hclosing]; exact Bool.false_ne_true)
  rw [PyStr.strip, hfront]
  exact (congrArg unquote hback).trans (by
    rw [unquote, List.cons_append, List.tail_cons, List.dropLast_concat])

/-- The pairs of a text in which the scan comes to a member. -/
theorem exists_keyValues_eq {isDecimal : CodePoint → Bool} {text rest : PyStr} (m : JsonMember)
    (hreaches : Reaches (kvAt isDecimal) text (m.text ++ rest)) :
    ∃ before, keyValues isDecimal text =
      before ++ (m.keyToken, m.literal.text) :: keyValues isDecimal rest := by
  obtain ⟨before, hbefore⟩ := hreaches.findAll_eq
  have hne : m.text ++ rest ≠ [] := List.cons_ne_nil _ _
  have hpos : 0 < m.text.length := List.length_pos_of_ne_nil (List.cons_ne_nil _ _)
  refine ⟨before, ?_⟩
  rw [keyValues, hbefore, findAll_of_match hne hpos (kvAt_member isDecimal m rest),
    List.drop_left]
  rfl

/-- The value of a key is that of the last member with this key. -/
theorem get?_regexExtract {py : JsonMethods} (names : List Byte → Option CodePoint)
    {text rest : PyStr} (m : JsonMember)
    (hreaches : Reaches (kvAt py.isDecimal) text (m.text ++ rest))
    (hlast : ∀ pair ∈ keyValues py.isDecimal rest, unquote pair.1.strip ≠ m.key) {d : JsonDict}
    (hd : regexExtract (py.withCodec names) text = .ok d) :
    ∃ value, coerceKvValue (py.withCodec names) m.literal.text = .ok value ∧
      d.get? m.key = some value := by
  obtain ⟨before, hpairs⟩ := exists_keyValues_eq m hreaches
  have hkey : unquote m.keyToken.strip = m.key := unquote_keyToken m
  have hd : (before ++ (m.keyToken, m.literal.text) :: keyValues py.isDecimal rest).foldlM
      (collectPair (py.withCodec names)) [] = .ok d :=
    hpairs ▸ hd
  have hlater := get?_foldlM_collectPair_append (fun p hp => hkey.symm ▸ hlast p hp) hd
  rwa [hkey] at hlater

/-- The scan passes over a text without quotes. -/
theorem reaches_of_noQuote {isDecimal : CodePoint → Bool} {before : PyStr}
    (h : ∀ c ∈ before, isQuote c = false) (rest : PyStr) :
    Reaches (kvAt isDecimal) (before ++ rest) rest := by
  refine reaches_append fun c hc text => ?_
  have hkey : keyLength (c :: text) = none := by
    rw [keyLength]
    exact if_neg fun hquote => by
      rw [h c hc] at hquote
      exact Bool.false_ne_true hquote.1
  rw [kvAt, hkey]
  rfl

/-- Wherever a member stands in a text, so that the scan comes to it and no later pair has its key,
the key has the string of the literal iff the literal has only units that the codec keeps, and no
captured value is a quoted string with a surrogate. The literal in which only quotes, backslashes
and control characters are escaped has such units iff its string is ASCII. -/
theorem regexExtract_string_iff (py : JsonMethods) (hpy : py.KeepsQuote)
    (names : List Byte → Option CodePoint) (m : JsonMember) (text rest : PyStr)
    (hreaches : Reaches (kvAt py.isDecimal) text (m.text ++ rest))
    (hlast : ∀ pair ∈ keyValues py.isDecimal rest, unquote pair.1.strip ≠ m.key) :
    ((∃ d, regexExtract (py.withCodec names) text = .ok d ∧
        d.get? m.key = some (.str m.literal.value)) ↔
      m.literal.Kept ∧
        ∀ pair ∈ keyValues py.isDecimal text, ¬ EncodesSurrogate (py.withCodec names) pair.2) ∧
      ∀ s, (JsonLiteral.plain s).value = s ∧
        ((JsonLiteral.plain s).Kept ↔ ∀ c ∈ s, c.IsAscii) := by
  refine ⟨?_, fun s => ⟨JsonLiteral.value_plain s, JsonLiteral.kept_plain_iff s⟩⟩
  constructor
  · rintro ⟨d, hd, hget⟩
    obtain ⟨value, hcoerce, hget'⟩ := get?_regexExtract names m hreaches hlast hd
    obtain rfl := Option.some.inj (hget.symm.trans hget')
    refine ⟨((coerceKvValue_literal_iff names hpy m.literal).mp hcoerce).1, fun pair hp henc => ?_⟩
    have hraises : regexExtract (py.withCodec names) text = .error .unicodeEncodeError :=
      regexExtract_eq_error_iff.mpr ⟨rfl, pair, hp, henc⟩
    rw [hd] at hraises
    cases hraises
  · rintro ⟨hkept, hencodable⟩
    have hnone : ¬ ∃ exc, regexExtract (py.withCodec names) text = .error exc := by
      rintro ⟨exc, hexc⟩
      obtain ⟨-, pair, hp, henc⟩ := regexExtract_eq_error_iff.mp hexc
      exact hencodable pair hp henc
    cases hd : regexExtract (py.withCodec names) text with
    | error exc => exact absurd ⟨exc, hd⟩ hnone
    | ok d =>
      obtain ⟨value, hcoerce, hget⟩ := get?_regexExtract names m hreaches hlast hd
      have hliteral := (coerceKvValue_literal_iff names hpy m.literal).mpr ⟨hkept, ?_⟩
      · obtain rfl := Except.ok.inj (hcoerce.symm.trans hliteral)
        exact ⟨d, rfl, hget⟩
      · intro hsurrogate
        rw [coerceKvValue_literal names hpy, decodeInner, if_pos hsurrogate] at hcoerce
        cases hcoerce

/-! ### A character outside ASCII -/

/-- The member `"a":"é"`. -/
def accentMember : JsonMember where
  opening := doubleQuote
  key := [.of 'a']
  closing := doubleQuote
  before := []
  after := []
  literal := .plain [.of 'é']
  isQuote_opening := decide_eq_true (Or.inl rfl)
  isQuote_closing := decide_eq_true (Or.inl rfl)
  key_ne_nil := List.cons_ne_nil _ _
  not_isQuote_key := List.forall_mem_singleton.mpr (by decide)
  isSpace_before := fun _ h => absurd h List.not_mem_nil
  isSpace_after := fun _ h => absurd h List.not_mem_nil

/-- The member in an object that is not closed: its value is decoded iff `é` is ASCII. -/
theorem regexExtract_string_iff_accentMember :
    (∃ d, regexExtract (bracketMethods.withCodec fun _ => none)
        ([.of '{'] ++ (accentMember.text ++ [])) = .ok d ∧
      d.get? accentMember.key = some (.str accentMember.literal.value)) ↔
    accentMember.literal.Kept ∧
      ∀ pair ∈ keyValues bracketMethods.isDecimal ([.of '{'] ++ (accentMember.text ++ [])),
        ¬ EncodesSurrogate (bracketMethods.withCodec fun _ => none) pair.2 :=
  (regexExtract_string_iff bracketMethods (fun _ => rfl) (fun _ => none) accentMember _ []
    (reaches_of_noQuote (List.forall_mem_singleton.mpr (by decide)) _)
    fun _ h => absurd h List.not_mem_nil).1

/-- The value of the key is `Ã©`. -/
theorem not_forall_decoded :
    ¬ ∀ (py : JsonMethods) (names : List Byte → Option CodePoint) (m : JsonMember) (s : PyStr)
      (text rest : PyStr), py.KeepsQuote → m.literal = .plain s →
        Reaches (kvAt py.isDecimal) text (m.text ++ rest) →
        (∀ pair ∈ keyValues py.isDecimal rest, unquote pair.1.strip ≠ m.key) →
          ∃ d, regexExtract (py.withCodec names) text = .ok d ∧ d.get? m.key = some (.str s) := by
  intro hdecoded
  have hreaches : Reaches (kvAt bracketMethods.isDecimal) (accentMember.text ++ [])
      (accentMember.text ++ []) :=
    .here _
  have hlast : ∀ pair ∈ keyValues bracketMethods.isDecimal [],
      unquote pair.1.strip ≠ accentMember.key :=
    fun _ h => absurd h List.not_mem_nil
  obtain ⟨d, hd, hget⟩ := hdecoded bracketMethods (fun _ => none) accentMember [.of 'é'] _ []
    (fun _ => rfl) rfl hreaches hlast
  obtain ⟨value, hcoerce, hget'⟩ := get?_regexExtract _ accentMember hreaches hlast hd
  obtain rfl := Option.some.inj (hget.symm.trans hget')
  have hkept := ((coerceKvValue_literal_iff (fun _ => none) (fun _ => rfl) accentMember.literal).mp
    hcoerce).1
  have hascii := (JsonLiteral.kept_plain_iff [.of 'é']).mp hkept (.of 'é')
    (List.mem_singleton_self _)
  exact absurd hascii (by decide)

end ZubotIngestion
