import ZubotIngestion.Python.Strip
import ZubotIngestion.Text.Digits

/-!
# Integers as texts

`str(i)` and `int(text)` in base ten. Both refuse integers of more than 4300 digits. `int` takes a
sign, single underscores between the digits, white space around them, and every decimal digit of
Unicode; which characters outside ASCII are digits is a parameter.

## Main definitions

* `strOfInt`, `intOfStr`.

## Main results

* `intOfStr_toString`: the text of an integer is read back.
-/

namespace ZubotIngestion

/-- `sys.int_info.default_max_str_digits`. -/
def maxStrDigits : ℕ := 4300

/-- `str(i)`. -/
def strOfInt (i : ℤ) : Except PyException String :=
  if Text.digitCount 10 i.natAbs ≤ maxStrDigits then .ok (toString i)
  else .error (.error "ValueError" ("Exceeds the limit (4300 digits) for integer string " ++
    "conversion; use sys.set_int_max_str_digits() to increase the limit"))

/-- The value of what has been read of a numeral, and how many digits these were. -/
structure Numeral where
  value : ℕ
  digits : ℕ

section Reading

variable (otherDigit? : Char → Option ℕ)

/-- The value of a decimal digit. -/
def digitValue? (c : Char) : Option ℕ :=
  if c.isDigit then some (c.toNat - '0'.toNat)
  else if c.toNat < 128 then none
  else otherDigit? c

/-- Read the rest of a numeral behind a digit. -/
def readDigits (n : Numeral) : List Char → Option Numeral
  | [] => some n
  | [c] => (digitValue? otherDigit? c).map fun d => ⟨10 * n.value + d, n.digits + 1⟩
  | c :: d :: cs =>
    if c = '_' then
      match digitValue? otherDigit? d with
      | some v => readDigits ⟨10 * n.value + v, n.digits + 1⟩ cs
      | none => none
    else
      match digitValue? otherDigit? c with
      | some v => readDigits ⟨10 * n.value + v, n.digits + 1⟩ (d :: cs)
      | none => none

/-- Read a numeral. -/
def readNumeral : List Char → Option Numeral
  | [] => none
  | c :: cs => (digitValue? otherDigit? c).bind fun d => readDigits otherDigit? ⟨d, 1⟩ cs

/-- Read a numeral with its sign. -/
def readSigned : List Char → Option (Bool × Numeral)
  | [] => none
  | c :: cs =>
    if c = '-' then (readNumeral otherDigit? cs).map fun n => (true, n)
    else if c = '+' then (readNumeral otherDigit? cs).map fun n => (false, n)
    else (readNumeral otherDigit? (c :: cs)).map fun n => (false, n)

/-- `int(text)`. -/
def intOfStr (text : String) : Except PyException ℤ :=
  match readSigned otherDigit? (strip text).toList with
  | none => .error (.error "ValueError" s!"invalid literal for int() with base 10: '{text}'")
  | some (negative, n) =>
    if n.digits ≤ maxStrDigits then .ok (if negative then -n.value else n.value)
    else .error (.error "ValueError" ("Exceeds the limit (4300 digits) for integer string " ++
      s!"conversion: value has {n.digits} digits; " ++
      "use sys.set_int_max_str_digits() to increase the limit"))

variable {otherDigit?}

theorem digitValue?_of_isDigit {c : Char} (h : c.isDigit) :
    digitValue? otherDigit? c = some (c.toNat - '0'.toNat) :=
  if_pos h

/-- A list of digits is read digit by digit. -/
theorem readDigits_of_isDigit {cs : List Char} (h : ∀ c ∈ cs, c.isDigit) (n : Numeral) :
    readDigits otherDigit? n cs =
      some ⟨Nat.ofDigitChars 10 cs n.value, n.digits + cs.length⟩ := by
  induction cs generalizing n with
  | nil => rfl
  | cons c cs ih =>
    obtain ⟨hc, hcs⟩ := List.forall_mem_cons.mp h
    have hstep : readDigits otherDigit? n (c :: cs) =
        readDigits otherDigit? ⟨10 * n.value + (c.toNat - '0'.toNat), n.digits + 1⟩ cs := by
      cases cs with
      | nil => simp only [readDigits, digitValue?_of_isDigit hc, Option.map_some]
      | cons d cs =>
        have hunderscore : c ≠ '_' := by
          rintro rfl
          exact absurd hc (by decide)
        rw [readDigits, if_neg hunderscore, digitValue?_of_isDigit hc]
    rw [hstep, ih hcs, Nat.ofDigitChars_cons, List.length_cons, Nat.add_right_comm, Nat.add_assoc]

theorem readNumeral_toDigits (n : ℕ) :
    readNumeral otherDigit? (Nat.toDigits 10 n) = some ⟨n, Text.digitCount 10 n⟩ := by
  have hdigits : ∀ c ∈ Nat.toDigits 10 n, c.isDigit := fun c hc =>
    Nat.isDigit_of_mem_toDigits (by decide) (by decide) hc
  have hvalue : Nat.ofDigitChars 10 (Nat.toDigits 10 n) 0 = n := Nat.ofDigitChars_ten_toDigits
  rw [Text.digitCount]
  rcases hlist : Nat.toDigits 10 n with _ | ⟨c, cs⟩
  · exact absurd hlist (List.ne_nil_of_length_pos Nat.length_toDigits_pos)
  · rw [hlist] at hdigits hvalue
    obtain ⟨hc, hcs⟩ := List.forall_mem_cons.mp hdigits
    rw [Nat.ofDigitChars_cons, Nat.mul_zero, Nat.zero_add] at hvalue
    rw [readNumeral, digitValue?_of_isDigit hc, Option.bind_some, readDigits_of_isDigit hcs, hvalue,
      List.length_cons, Nat.add_comm]

/-- The text of an integer. -/
theorem toList_toString (i : ℤ) : (toString i).toList =
    (if i < 0 then ['-'] else []) ++ Nat.toDigits 10 i.natAbs := by
  cases i with
  | ofNat n =>
    rw [if_neg (not_lt.mpr (Int.natCast_nonneg n) : ¬ Int.ofNat n < 0)]
    exact Nat.toList_repr
  | negSucc n =>
    have htext : toString (Int.negSucc n) = "-" ++ toString (n + 1) := rfl
    have hsign : "-".toList = ['-'] := rfl
    rw [if_pos (Int.negSucc_lt_zero n), htext, String.toList_append, hsign]
    exact congrArg _ Nat.toList_repr

theorem isDigit_or_eq_of_mem_toString {i : ℤ} {c : Char} (hc : c ∈ (toString i).toList) :
    c.isDigit ∨ c = '-' := by
  rw [toList_toString, List.mem_append] at hc
  rcases hc with hsign | hdigit
  · split_ifs at hsign
    · exact Or.inr (List.mem_singleton.mp hsign)
    · cases hsign
  · exact Or.inl (Nat.isDigit_of_mem_toDigits (by decide) (by decide) hdigit)

/-- No digit and no sign is white space. -/
theorem strip_toString (i : ℤ) : strip (toString i) = toString i := by
  have hspace : ∀ c : Char, c.isDigit ∨ c = '-' → isSpace c = false := by
    intro c hc
    have hrange : 45 ≤ c.toNat ∧ c.toNat ≤ 57 := by
      rcases hc with hdigit | rfl
      · rw [Char.isDigit, Bool.and_eq_true, decide_eq_true_eq, decide_eq_true_eq] at hdigit
        have hlower : 48 ≤ c.toNat := hdigit.1
        have hupper : c.toNat ≤ 57 := hdigit.2
        omega
      · decide
    simp only [isSpace, List.contains_cons, List.contains_nil, Bool.or_eq_false_iff,
      Bool.and_eq_false_iff, decide_eq_false_iff_not, beq_eq_false_iff_ne, ne_eq, and_true]
    omega
  have hchars : ∀ c ∈ (toString i).toList, isSpace c = false := fun c hc =>
    hspace c (isDigit_or_eq_of_mem_toString hc)
  exact strip_eq_self_iff.mpr ⟨fun c hc => hchars c (List.mem_of_mem_head? hc),
    fun c hc => hchars c (List.mem_of_mem_getLast? hc)⟩

theorem readSigned_toString (i : ℤ) : readSigned otherDigit? (toString i).toList =
    some (decide (i < 0), ⟨i.natAbs, Text.digitCount 10 i.natAbs⟩) := by
  rw [toList_toString]
  by_cases h : i < 0
  · rw [if_pos h, List.singleton_append, readSigned, if_pos rfl, readNumeral_toDigits,
      decide_eq_true h]
    rfl
  · rw [if_neg h, List.nil_append, decide_eq_false h]
    have hnumeral := @readNumeral_toDigits otherDigit? i.natAbs
    rcases hlist : Nat.toDigits 10 i.natAbs with _ | ⟨c, cs⟩
    · exact absurd hlist (List.ne_nil_of_length_pos Nat.length_toDigits_pos)
    · have hc : c.isDigit := Nat.isDigit_of_mem_toDigits (b := 10) (n := i.natAbs) (by decide)
        (by decide) (hlist ▸ List.mem_cons_self)
      have hminus : c ≠ '-' := by
        rintro rfl
        exact absurd hc (by decide)
      have hplus : c ≠ '+' := by
        rintro rfl
        exact absurd hc (by decide)
      rw [hlist] at hnumeral
      rw [readSigned, if_neg hminus, if_neg hplus, hnumeral, Option.map_some]

/-- The text of an integer is read back. -/
theorem intOfStr_toString {i : ℤ} (h : Text.digitCount 10 i.natAbs ≤ maxStrDigits) :
    intOfStr otherDigit? (toString i) = .ok i := by
  rw [intOfStr, strip_toString, readSigned_toString]
  dsimp only
  rw [if_pos h]
  by_cases hneg : i < 0
  · rw [if_pos (decide_eq_true hneg)]
    exact congrArg _ (by omega)
  · rw [if_neg (by simpa using hneg)]
    exact congrArg _ (by omega)

end Reading

end ZubotIngestion
