import Mathlib.Data.Nat.Digits.Defs
import Semblance.Name.Identifier

/-!
# Identifiers and numerals

A decimal numeral consists of digits, with a sign before it if it is negative. So it can go on an
identifier, and it is none itself.

## Key results

- `isIdentifier_append`: what may follow the beginning of an identifier
- `isIdentifier_append_toString`: a number at the end does not matter
- `not_isIdentifier_toString`: a number is no identifier
-/

namespace Semblance

/-! ### Numerals -/

/-- A number is written in digits only. -/
theorem isDigit_of_mem_toString {n : Nat} {c : Char} (h : c ∈ (toString n).toList) :
    c.isDigit = true := by
  rw [show (toString n).toList = Nat.toDigits 10 n by simp] at h
  exact Nat.isDigit_of_mem_toDigits (by decide) (by decide) h

/-- The characters of a numeral are digits, or a sign. -/
theorem sign_or_isDigit_of_mem_toString {value : Int} {c : Char} (h : c ∈ (toString value).toList) :
    c = '-' ∨ c.isDigit = true := by
  rw [Int.toString_eq_repr, Int.repr_eq_if] at h
  split at h
  · exact .inr (isDigit_of_mem_toString h)
  · rw [String.toList_append, List.mem_append] at h
    exact h.imp List.mem_singleton.1 isDigit_of_mem_toString

/-- A number has at least one digit. -/
theorem toString_int_ne_empty (value : Int) : toString value ≠ "" := by
  rw [Int.toString_eq_repr, Int.repr_eq_if]
  split <;> simp

/-- A number may continue an identifier. -/
theorem continuesIdentifier_of_mem_toString {n : Nat} {c : Char} (h : c ∈ (toString n).toList) :
    continuesIdentifier c = true := by
  simp [continuesIdentifier, Char.isAlphanum, isDigit_of_mem_toString h]

/-- The code points of the letters begin at 65. -/
theorem le_toNat_of_isAlpha {c : Char} (h : c.isAlpha = true) : 65 ≤ c.val.toNat := by
  have hcases : (c.isUpper || c.isLower) = true := h
  rcases Bool.or_eq_true_iff.1 hcases with hupper | hlower
  · have hbounds : 'A'.val ≤ c.val ∧ c.val ≤ 'Z'.val := of_decide_eq_true hupper
    exact UInt32.le_iff_toNat_le.1 hbounds.1
  · have hbounds : (decide ('a'.val ≤ c.val) && decide (c.val ≤ 'z'.val)) = true := hlower
    have hge := of_decide_eq_true (Bool.and_eq_true_iff.1 hbounds).1
    exact Nat.le_trans (by decide) (UInt32.le_iff_toNat_le.1 hge)

/-- No identifier begins like a numeral. -/
theorem not_startsIdentifier {c : Char} (h : c = '-' ∨ c.isDigit = true) :
    startsIdentifier c = false := by
  rcases h with rfl | hdigit
  · decide
  · -- The code points of the digits lie below those of the letters.
    have hlo : 48 ≤ c.val.toNat := (Char.isDigit_iff_toNat.1 hdigit).1
    have hhi : c.val.toNat ≤ 57 := (Char.isDigit_iff_toNat.1 hdigit).2
    refine Bool.eq_false_iff.2 fun hstart => ?_
    simp only [startsIdentifier, Bool.or_eq_true, beq_iff_eq] at hstart
    rcases hstart with (halpha | rfl) | rfl
    · exact absurd (Nat.le_trans (le_toNat_of_isAlpha halpha) hhi) (by decide)
    · exact absurd hhi (by decide)
    · exact absurd hlo (by decide)

/-- A number is no identifier. -/
theorem not_isIdentifier_toString (value : Int) : isIdentifier (toString value) = false := by
  refine Bool.eq_false_iff.2 fun h => ?_
  obtain ⟨first, rest, htext, hstart, _⟩ := isIdentifier_iff.1 h
  have hmem : first ∈ (toString value).toList := htext ▸ List.mem_cons_self ..
  rw [not_startsIdentifier (sign_or_isDigit_of_mem_toString hmem)] at hstart
  exact nomatch hstart

/-! ### What an identifier goes on with -/

/-- What follows a text that is not empty has to continue it. -/
theorem isIdentifier_append {stem : String} (h : stem ≠ "") (rest : String) :
    isIdentifier (stem ++ rest) = (isIdentifier stem && rest.toList.all continuesIdentifier) := by
  rw [isIdentifier, isIdentifier, String.toList_append]
  cases hstem : stem.toList with
  | nil => exact absurd (String.toList_eq_nil_iff.1 hstem) h
  | cons first tail => simp only [List.cons_append, List.all_append, Bool.and_assoc]

/-- A number at the end does not matter. -/
theorem isIdentifier_append_toString {stem : String} (h : stem ≠ "") (n : Nat) :
    isIdentifier (stem ++ toString n) = isIdentifier stem := by
  rw [isIdentifier_append h, List.all_eq_true.2 fun _ => continuesIdentifier_of_mem_toString,
    Bool.and_true]

end Semblance
