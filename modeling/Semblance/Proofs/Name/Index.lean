import Mathlib.Data.List.Basic
import Mathlib.Data.List.Induction
import Semblance.Name.ArrayIndex

/-!
# Array indices and numerals

Digits are put together to a value from the left, and the numeral of a number is taken apart from the
right. A canonical numeral is what becomes of its value, and the numeral of a number is canonical and
has the number for its value. So the names with an index are the numerals of the numbers that are
small enough, and names are told apart by their indices.

## Key results

- `toDigits_decimalValue`: a canonical numeral is that of its value
- `isCanonicalNumeral_toDigits`: the numeral of a number is canonical
- `arrayIndex?_eq_some_iff`: the names with an index
-/

namespace Semblance

/-! ### Values -/

/-- The value of one digit. -/
def digitValue (digit : Char) : Nat :=
  digit.toNat - '0'.toNat

/-- A digit has one of ten values. -/
theorem digitValue_lt {digit : Char} (h : digit.isDigit = true) : digitValue digit < 10 := by
  have hle : digit.toNat ≤ 57 := (Char.isDigit_iff_toNat.1 h).2
  show digit.toNat - 48 < 10
  omega

/-- A digit is found from its value. -/
theorem digitChar_digitValue {digit : Char} (h : digit.isDigit = true) :
    (digitValue digit).digitChar = digit := by
  have hchar : ∀ value < 10, Nat.digitChar value = Char.ofNat ('0'.toNat + value) := by decide
  rw [hchar _ (digitValue_lt h), digitValue, Nat.add_sub_cancel' (Char.isDigit_iff_toNat.1 h).1,
    Char.ofNat_toNat]

/-- One more digit is worth ten times what is before it. -/
theorem decimalValue_concat (digits : List Char) (digit : Char) :
    decimalValue (digits ++ [digit]) = 10 * decimalValue digits + digitValue digit := by
  rw [decimalValue, List.foldl_append]
  rfl

/-- The digits of a number have its value. -/
theorem decimalValue_toDigits (n : Nat) : decimalValue (Nat.toDigits 10 n) = n :=
  Nat.ofDigitChars_ten_toDigits

/-! ### Canonical numerals -/

/-- A canonical numeral is zero, or it consists of digits and does not begin with zero. -/
theorem isCanonicalNumeral_iff {digits : List Char} : isCanonicalNumeral digits = true ↔
    digits = ['0'] ∨ ∃ first rest, digits = first :: rest ∧ first ≠ '0' ∧
      ∀ digit ∈ digits, digit.isDigit = true := by
  fun_cases isCanonicalNumeral digits with
  | case1 => simp
  | case2 => simp
  | case3 first rest hzero =>
    have hother : ¬ (first = '0' ∧ rest = []) := fun h => hzero h.1 h.2
    simp [hother, and_assoc]

/-- Without leading zeros the digits are those of their value, which is not zero. -/
theorem toDigits_decimalValue_cons {first : Char} {rest : List Char} (hfirst : first ≠ '0')
    (hdigits : ∀ digit ∈ first :: rest, digit.isDigit = true) :
    0 < decimalValue (first :: rest) ∧
      Nat.toDigits 10 (decimalValue (first :: rest)) = first :: rest := by
  induction rest using List.reverseRecOn with
  | nil =>
    -- The only digit has the value, and zero is the only digit of value zero.
    have hdigit := hdigits first List.mem_cons_self
    have hvalue : decimalValue [first] = digitValue first := Nat.zero_add _
    have hchar := digitChar_digitValue hdigit
    rw [hvalue, Nat.toDigits_of_lt_base (digitValue_lt hdigit), hchar]
    refine ⟨Nat.pos_of_ne_zero fun hzero => hfirst ?_, rfl⟩
    rw [← hchar, hzero]
    rfl
  | append_singleton rest digit ih =>
    -- The digits before the last one begin in the same way, so they are those of their value.
    rw [← List.cons_append, List.forall_mem_append] at hdigits
    obtain ⟨hpos, hrest⟩ := ih hdigits.1
    have hdigit := hdigits.2 digit List.mem_cons_self
    rw [← List.cons_append, decimalValue_concat]
    refine ⟨by omega, ?_⟩
    rw [← Nat.toDigits_append_toDigits (by decide) hpos (digitValue_lt hdigit), hrest,
      Nat.toDigits_of_lt_base (digitValue_lt hdigit), digitChar_digitValue hdigit]

/-- A canonical numeral is that of its value. -/
theorem toDigits_decimalValue {digits : List Char} (h : isCanonicalNumeral digits = true) :
    Nat.toDigits 10 (decimalValue digits) = digits := by
  rcases isCanonicalNumeral_iff.1 h with rfl | ⟨first, rest, rfl, hfirst, hdigits⟩
  · rfl
  · exact (toDigits_decimalValue_cons hfirst hdigits).2

/-- Only the numeral of zero begins with zero. -/
theorem head?_toDigits_ne {n : Nat} (h : n ≠ 0) : (Nat.toDigits 10 n).head? ≠ some '0' := by
  induction n using Nat.strongRecOn with
  | ind n ih =>
    rw [Nat.toDigits_eq_if (by decide)]
    split
    · simpa using h
    · next hge =>
      -- The first digit is that of the quotient.
      have hquotient := ih (n / 10) (by omega) (by omega)
      rwa [List.head?_append_of_ne_nil _ Nat.toDigits_ne_nil]

/-- The digits of a number are a numeral without leading zeros. -/
theorem isCanonicalNumeral_toDigits (n : Nat) : isCanonicalNumeral (Nat.toDigits 10 n) = true := by
  by_cases hzero : n = 0
  · subst hzero
    rfl
  · obtain ⟨first, rest, hcons⟩ :=
      List.exists_cons_of_ne_nil (Nat.toDigits_ne_nil (n := n) (b := 10))
    have hhead := head?_toDigits_ne hzero
    rw [hcons, List.head?_cons] at hhead
    have hfirst : first ≠ '0' := fun heq => hhead (congrArg some heq)
    refine isCanonicalNumeral_iff.2 (.inr ⟨first, rest, hcons, hfirst, fun digit hmem => ?_⟩)
    exact Nat.isDigit_of_mem_toDigits (by decide) (by decide) hmem

/-! ### Names with an index -/

/-- The names with an index are the numerals of the numbers that are small enough. -/
theorem arrayIndex?_eq_some_iff {name : String} {index : Nat} :
    arrayIndex? name = some index ↔ index < arrayIndexBound ∧ name = toString index := by
  have hchars : (toString index).toList = Nat.toDigits 10 index := by simp
  rw [arrayIndex?, Option.ite_none_right_eq_some, Bool.and_eq_true, decide_eq_true_iff,
    Option.some.injEq]
  constructor
  · rintro ⟨⟨hcanonical, hlt⟩, rfl⟩
    refine ⟨hlt, String.toList_inj.1 ?_⟩
    rw [hchars, toDigits_decimalValue hcanonical]
  · rintro ⟨hlt, rfl⟩
    rw [hchars, decimalValue_toDigits]
    exact ⟨⟨isCanonicalNumeral_toDigits index, hlt⟩, rfl⟩

/-- Names are told apart by their indices. -/
theorem arrayIndex?_inj {name name' : String} {index : Nat} (h : arrayIndex? name = some index)
    (h' : arrayIndex? name' = some index) : name = name' := by
  rw [(arrayIndex?_eq_some_iff.1 h).2, (arrayIndex?_eq_some_iff.1 h').2]

end Semblance
