import ZubotIngestion.Python.Text
import ZubotIngestion.Text.Digits
import ZubotIngestion.Text.Replace

/-!
# Identifiers as texts

`str(uuid)` and `UUID(text)`. An identifier is a number of 128 bits, written as 32 hexadecimal
digits in five groups. The reader drops `urn:`, `uuid:`, braces and hyphens, and reads what is left
with `int(text, 16)`, which takes white space, a sign, the mark `0x` and single underscores as well.
Which characters outside ASCII are decimal digits is a parameter, and so is `repr`.

## Main definitions

* `uuidStr`, `uuidOfStr`.

## Main results

* `uuidOfStr_uuidStr`: the text of an identifier is read back.
* `uuidStr_injective`: different identifiers have different texts.
-/

namespace ZubotIngestion

/-- The numbers below this bound are identifiers. -/
def uuidBound : ℕ := 2 ^ 128

/-- `'%032x' % uuid.int`. -/
def uuidHex (u : ℕ) : List Char := (Nat.toDigits 16 u).leftpad 32 '0'

/-- `str(uuid)`. -/
def uuidStr (u : ℕ) : String :=
  let hex := uuidHex u
  String.ofList (hex.take 8 ++ '-' :: ((hex.drop 8).take 4 ++ '-' :: ((hex.drop 12).take 4 ++
    '-' :: ((hex.drop 16).take 4 ++ '-' :: hex.drop 20))))

/-! ### Reading -/

/-- `Py_ISSPACE`. -/
def isAsciiSpace (c : Char) : Bool := (9 ≤ c.toNat && c.toNat ≤ 13) || c == ' '

/-- The value of a hexadecimal digit. -/
def hexCharValue? (c : Char) : Option ℕ :=
  if c.isDigit then some (c.toNat - '0'.toNat)
  else if 'a' ≤ c ∧ c ≤ 'f' then some (c.toNat - 'a'.toNat + 10)
  else if 'A' ≤ c ∧ c ≤ 'F' then some (c.toNat - 'A'.toNat + 10)
  else none

/-- Read the rest of a hexadecimal numeral behind a digit. -/
def readHexDigits (n : ℕ) : List Char → Option ℕ
  | [] => some n
  | [c] => (hexCharValue? c).map fun v => 16 * n + v
  | c :: d :: cs =>
    if c = '_' then
      match hexCharValue? d with
      | some v => readHexDigits (16 * n + v) cs
      | none => none
    else
      match hexCharValue? c with
      | some v => readHexDigits (16 * n + v) (d :: cs)
      | none => none

/-- Read a hexadecimal numeral. -/
def readHex : List Char → Option ℕ
  | [] => none
  | c :: cs => (hexCharValue? c).bind fun v => readHexDigits v cs

/-- The numeral behind the mark `0x`, and behind one underscore after that. -/
def dropHexMark : List Char → List Char
  | '0' :: c :: cs =>
    if c = 'x' ∨ c = 'X' then
      match cs with
      | '_' :: rest => rest
      | _ => cs
    else '0' :: c :: cs
  | cs => cs

/-- Read a hexadecimal numeral with its sign and its mark. -/
def readSignedHex : List Char → Option ℤ
  | [] => none
  | c :: cs =>
    if c = '-' then (readHex (dropHexMark cs)).map fun n : ℕ => -(n : ℤ)
    else if c = '+' then (readHex (dropHexMark cs)).map fun n : ℕ => (n : ℤ)
    else (readHex (dropHexMark (c :: cs))).map fun n : ℕ => (n : ℤ)

section Reading

variable (repr : String → String) (otherDigit? : Char → Option ℕ)

/-- White space and decimal digits outside ASCII become blanks and ASCII digits, and every other
character outside ASCII a question mark. -/
def asciiOf (c : Char) : Char :=
  if c.toNat < 127 then c
  else if isSpace c then ' '
  else
    match otherDigit? c with
    | some d => Nat.digitChar d
    | none => '?'

/-- `int(text, 16)`. -/
def intOfHex (text : List Char) : Except PyException ℤ :=
  match readSignedHex
      (((text.map (asciiOf otherDigit?)).dropWhile isAsciiSpace).rdropWhile isAsciiSpace) with
  | some i => .ok i
  | none => .error (.error "ValueError"
    s!"invalid literal for int() with base 16: {repr (String.ofList text)}")

/-- `text.strip("{}")`. -/
def stripBraces (text : List Char) : List Char :=
  (text.dropWhile fun c => c == '{' || c == '}').rdropWhile fun c => c == '{' || c == '}'

/-- What `UUID(text)` reads as a number. -/
def uuidDigits (text : String) : List Char :=
  (stripBraces (Text.replaceAll ['u', 'u', 'i', 'd', ':'] []
    (Text.replaceAll ['u', 'r', 'n', ':'] [] text.toList))).filter fun c => c != '-'

/-- `UUID(text)`. -/
def uuidOfStr (text : String) : Except PyException ℕ :=
  if (uuidDigits text).length ≠ 32 then
    .error (.error "ValueError" "badly formed hexadecimal UUID string")
  else
    match intOfHex repr otherDigit? (uuidDigits text) with
    | .error exc => .error exc
    | .ok i =>
      if 0 ≤ i ∧ i < uuidBound then .ok i.toNat
      else .error (.error "ValueError" "int is out of range (need a 128-bit value)")

end Reading

/-! ### The digits that are written -/

/-- The characters of a written identifier. -/
def IsHexChar (c : Char) : Prop := ∃ d < 16, c = Nat.digitChar d

theorem isHexChar_of_mem_toDigits {n : ℕ} : ∀ c ∈ Nat.toDigits 16 n, IsHexChar c := by
  induction n using Nat.strong_induction_on with
  | h n ih =>
    intro c hc
    rw [Nat.toDigits_eq_if (by decide)] at hc
    split_ifs at hc with hsmall
    · exact ⟨n, hsmall, List.mem_singleton.mp hc⟩
    · rcases List.mem_append.mp hc with hc | hc
      · exact ih (n / 16) (by omega) c hc
      · exact ⟨n % 16, Nat.mod_lt n (by decide), List.mem_singleton.mp hc⟩

theorem isHexChar_of_mem_uuidHex {u : ℕ} {c : Char} (hc : c ∈ uuidHex u) : IsHexChar c := by
  rcases List.mem_append.mp hc with hzero | hdigit
  · exact ⟨0, by decide, List.eq_of_mem_replicate hzero⟩
  · exact isHexChar_of_mem_toDigits c hdigit

/-- What a digit is not, and how it is read. -/
theorem IsHexChar.ne {c : Char} (h : IsHexChar c) :
    (∀ d ∈ ['u', '-', '{', '}', '+', '_', 'x', 'X'], c ≠ d) ∧ c.toNat < 127 ∧
      isAsciiSpace c = false := by
  obtain ⟨n, hn, rfl⟩ := h
  have hdigit : Nat.digitChar n ∉ ['u', '-', '{', '}', '+', '_', 'x', 'X'] ∧
      (Nat.digitChar n).toNat < 127 ∧ isAsciiSpace (Nat.digitChar n) = false := by
    revert n
    decide
  exact ⟨fun d hd h => hdigit.1 (h ▸ hd), hdigit.2⟩

theorem hexCharValue?_digitChar {d : ℕ} (h : d < 16) :
    hexCharValue? (Nat.digitChar d) = some d := by
  revert d
  decide

theorem length_uuidHex {u : ℕ} (h : u < uuidBound) : (uuidHex u).length = 32 := by
  have hdigits : Text.digitCount 16 u ≤ 32 :=
    (Text.digitCount_le_iff (by decide) (by decide)).mpr h
  rw [uuidHex, List.length_leftpad]
  exact max_eq_left hdigits

/-! ### Reading what is written -/

/-- The value of a list of digits behind the value `n`. -/
def hexCharsValue (n : ℕ) (cs : List Char) : ℕ :=
  cs.foldl (fun n c => 16 * n + (hexCharValue? c).getD 0) n

theorem readHexDigits_of_isHexChar {cs : List Char} (h : ∀ c ∈ cs, IsHexChar c) (n : ℕ) :
    readHexDigits n cs = some (hexCharsValue n cs) := by
  induction cs generalizing n with
  | nil => rfl
  | cons c cs ih =>
    obtain ⟨hc, hcs⟩ := List.forall_mem_cons.mp h
    have hunderscore : c ≠ '_' := hc.ne.1 '_' (by decide)
    obtain ⟨v, hv, hdigit⟩ := hc
    have hvalue : hexCharValue? c = some v := hdigit ▸ hexCharValue?_digitChar hv
    have hstep : readHexDigits n (c :: cs) = readHexDigits (16 * n + v) cs := by
      cases cs with
      | nil => simp only [readHexDigits, hvalue, Option.map_some]
      | cons d cs => rw [readHexDigits, if_neg hunderscore, hvalue]
    rw [hstep, ih hcs, hexCharsValue, hexCharsValue, List.foldl_cons, hvalue, Option.getD_some]

theorem readHex_of_isHexChar {cs : List Char} (hne : cs ≠ []) (h : ∀ c ∈ cs, IsHexChar c) :
    readHex cs = some (hexCharsValue 0 cs) := by
  obtain ⟨c, cs, rfl⟩ := List.exists_cons_of_ne_nil hne
  obtain ⟨hc, hcs⟩ := List.forall_mem_cons.mp h
  obtain ⟨v, hv, hdigit⟩ := hc
  have hvalue : hexCharValue? c = some v := hdigit ▸ hexCharValue?_digitChar hv
  rw [readHex, hvalue, Option.bind_some, readHexDigits_of_isHexChar hcs, hexCharsValue,
    hexCharsValue, List.foldl_cons, hvalue, Option.getD_some, Nat.mul_zero, Nat.zero_add]

/-- Digits are not taken for the mark. -/
theorem dropHexMark_of_isHexChar {cs : List Char} (h : ∀ c ∈ cs, IsHexChar c) :
    dropHexMark cs = cs := by
  unfold dropHexMark
  split
  · rename_i c cs
    have hc := (h c (List.mem_cons_of_mem _ List.mem_cons_self)).ne.1
    rw [if_neg (not_or.mpr ⟨hc 'x' (by decide), hc 'X' (by decide)⟩)]
  · rfl

theorem readSignedHex_of_isHexChar {cs : List Char} (hne : cs ≠ [])
    (h : ∀ c ∈ cs, IsHexChar c) : readSignedHex cs = some (hexCharsValue 0 cs : ℤ) := by
  have hread := readHex_of_isHexChar hne h
  have hmark := dropHexMark_of_isHexChar h
  obtain ⟨c, cs, rfl⟩ := List.exists_cons_of_ne_nil hne
  have hc := (h c List.mem_cons_self).ne.1
  rw [readSignedHex, if_neg (hc '-' (by decide)), if_neg (hc '+' (by decide)), hmark, hread,
    Option.map_some]

/-- The digits of a number have its value. -/
theorem hexCharsValue_toDigits (n : ℕ) : hexCharsValue 0 (Nat.toDigits 16 n) = n := by
  induction n using Nat.strong_induction_on with
  | h n ih =>
    rw [Nat.toDigits_eq_if (by decide)]
    split_ifs with hsmall
    · rw [hexCharsValue, List.foldl_cons, List.foldl_nil, hexCharValue?_digitChar hsmall,
        Option.getD_some, Nat.mul_zero, Nat.zero_add]
    · have hprefix : (Nat.toDigits 16 (n / 16)).foldl
          (fun n c => 16 * n + (hexCharValue? c).getD 0) 0 = n / 16 := ih (n / 16) (by omega)
      rw [hexCharsValue, List.foldl_append, hprefix, List.foldl_cons, List.foldl_nil,
        hexCharValue?_digitChar (Nat.mod_lt n (by decide)), Option.getD_some, Nat.div_add_mod]

theorem hexCharsValue_uuidHex (u : ℕ) : hexCharsValue 0 (uuidHex u) = u := by
  have hzeros : ∀ k, hexCharsValue 0 (List.replicate k '0') = 0 := by
    intro k
    induction k with
    | zero => rfl
    | succ k ih => exact ih
  rw [uuidHex, List.leftpad, hexCharsValue, List.foldl_append]
  exact (congrArg (hexCharsValue · _) (hzeros _)).trans (hexCharsValue_toDigits u)

/-- The text of an identifier without its hyphens. -/
theorem filter_uuidStr (u : ℕ) :
    (uuidStr u).toList.filter (fun c => c != '-') = uuidHex u := by
  have hkept : ∀ cs : List Char, (∀ c ∈ cs, c ∈ uuidHex u) →
      cs.filter (fun c => c != '-') = cs := fun cs hcs => List.filter_eq_self.mpr fun c hc =>
    bne_iff_ne.mpr ((isHexChar_of_mem_uuidHex (hcs c hc)).ne.1 '-' (by decide))
  have htake : ∀ m k, ∀ c ∈ ((uuidHex u).drop m).take k, c ∈ uuidHex u := fun m k c hc =>
    List.mem_of_mem_drop (List.mem_of_mem_take hc)
  have hgroup : ∀ (cs rest : List Char),
      (cs ++ '-' :: rest).filter (fun c => c != '-') =
        cs.filter (fun c => c != '-') ++ rest.filter (fun c => c != '-') := fun cs rest => by
    rw [List.filter_append, List.filter_cons_of_neg (by decide)]
  rw [uuidStr, String.toList_ofList, hgroup, hgroup, hgroup, hgroup,
    hkept _ fun c hc => List.mem_of_mem_take hc, hkept _ (htake 8 4), hkept _ (htake 12 4),
    hkept _ (htake 16 4), hkept _ fun c hc => List.mem_of_mem_drop hc]
  -- the groups put together again
  have hsplit : ∀ m k, ((uuidHex u).drop m).take k ++ (uuidHex u).drop (m + k) =
      (uuidHex u).drop m := fun m k => by rw [← List.drop_drop, List.take_append_drop]
  rw [hsplit 16 4, hsplit 12 4, hsplit 8 4, List.take_append_drop]

theorem isHexChar_or_eq_of_mem_uuidStr {u : ℕ} {c : Char} (hc : c ∈ (uuidStr u).toList) :
    IsHexChar c ∨ c = '-' := by
  by_cases hhyphen : c = '-'
  · exact Or.inr hhyphen
  · have hmem : c ∈ (uuidStr u).toList.filter fun c => c != '-' :=
      List.mem_filter.mpr ⟨hc, bne_iff_ne.mpr hhyphen⟩
    rw [filter_uuidStr] at hmem
    exact Or.inl (isHexChar_of_mem_uuidHex hmem)

/-- Nothing but the hyphens of a written identifier is dropped. -/
theorem uuidDigits_uuidStr (u : ℕ) : uuidDigits (uuidStr u) = uuidHex u := by
  have hne : ∀ d ∈ ['u', '{', '}'], ∀ c ∈ (uuidStr u).toList, c ≠ d := by
    intro d hd c hc
    have hother : ∀ d ∈ ['u', '{', '}'],
        d ∈ ['u', '-', '{', '}', '+', '_', 'x', 'X'] ∧ '-' ≠ d := by
      simp
    rcases isHexChar_or_eq_of_mem_uuidStr hc with hhex | rfl
    · exact hhex.ne.1 d (hother d hd).1
    · exact (hother d hd).2
  have hnone : ∀ old : List Char, 'u' ∈ old → ¬ old <:+: (uuidStr u).toList := fun old hold h =>
    hne 'u' (by decide) 'u' (h.subset hold) rfl
  have hbrace : ∀ c ∈ (uuidStr u).toList, ¬ (c == '{' || c == '}') = true := fun c hc h => by
    rcases (Bool.or_eq_true _ _).mp h with h | h
    · exact hne '{' (by decide) c hc (eq_of_beq h)
    · exact hne '}' (by decide) c hc (eq_of_beq h)
  have hstrip : stripBraces (uuidStr u).toList = (uuidStr u).toList := by
    have hfront : (uuidStr u).toList.dropWhile (fun c => c == '{' || c == '}') =
        (uuidStr u).toList :=
      List.dropWhile_eq_self_iff.mpr fun hl => hbrace _ (List.getElem_mem hl)
    rw [stripBraces, hfront]
    exact List.rdropWhile_eq_self_iff.mpr fun hl => hbrace _ (List.getLast_mem hl)
  rw [uuidDigits, Text.replaceAll_of_not_infix (hnone ['u', 'r', 'n', ':'] (by decide)),
    Text.replaceAll_of_not_infix (hnone ['u', 'u', 'i', 'd', ':'] (by decide)), hstrip,
    filter_uuidStr]

/-- The text of an identifier is read back. -/
theorem uuidOfStr_uuidStr (repr : String → String) (otherDigit? : Char → Option ℕ) {u : ℕ}
    (h : u < uuidBound) : uuidOfStr repr otherDigit? (uuidStr u) = .ok u := by
  have hhex : ∀ c ∈ uuidHex u, IsHexChar c := fun c => isHexChar_of_mem_uuidHex
  have hne : uuidHex u ≠ [] := List.ne_nil_of_length_pos (by rw [length_uuidHex h]; decide)
  have hascii : (uuidHex u).map (asciiOf otherDigit?) = uuidHex u :=
    List.map_congr_left (fun c hc => if_pos (hhex c hc).ne.2.1) |>.trans (List.map_id _)
  have hspace : ∀ c ∈ uuidHex u, ¬ isAsciiSpace c = true := fun c hc =>
    Bool.not_eq_true _ ▸ (hhex c hc).ne.2.2
  have hfront : (uuidHex u).dropWhile isAsciiSpace = uuidHex u :=
    List.dropWhile_eq_self_iff.mpr fun hl => hspace _ (List.getElem_mem hl)
  have hback : (uuidHex u).rdropWhile isAsciiSpace = uuidHex u :=
    List.rdropWhile_eq_self_iff.mpr fun hl => hspace _ (List.getLast_mem hl)
  have hint : intOfHex repr otherDigit? (uuidHex u) = .ok (u : ℤ) := by
    rw [intOfHex, hascii, hfront, hback, readSignedHex_of_isHexChar hne hhex, hexCharsValue_uuidHex]
  rw [uuidOfStr, uuidDigits_uuidStr, if_neg (not_not.mpr (length_uuidHex h)), hint]
  dsimp only
  rw [if_pos ⟨Int.natCast_nonneg u, Int.ofNat_lt.mpr h⟩, Int.toNat_natCast]

/-- Different identifiers have different texts. -/
theorem uuidStr_injective : Function.Injective uuidStr := by
  intro u v h
  have hhex := congrArg (fun text : String => text.toList.filter fun c => c != '-') h
  rw [filter_uuidStr, filter_uuidStr] at hhex
  rw [← hexCharsValue_uuidHex u, hhex, hexCharsValue_uuidHex]

example : uuidStr 0xc0ffee = "00000000-0000-0000-0000-000000c0ffee" := by decide

end ZubotIngestion
