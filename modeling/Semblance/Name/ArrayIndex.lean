import Semblance.Name.Identifier

/-! # Array indices and the property names of arrays

An array index is a canonical decimal numeral below 2³²: digits only, no sign, no leading zero.  The
property names of an array are folded so that only index names, identifier names and one wildcard
remain.

* `arrayIndex?_lt`              an index is below `arrayIndexBound`
* `arraySlot_eq_self_or`        a folded name is the name itself or the wildcard
* `arraySlot_arraySlot`         folding twice is folding once -/

namespace Semblance

/-- Array indices are below this number, 2³². -/
def arrayIndexBound : Nat := 4294967296

/-- The value of a run of decimal digits, the most significant first. -/
def decimalValue (digits : List Char) : Nat :=
  digits.foldl (fun value digit => 10 * value + (digit.toNat - '0'.toNat)) 0

/-- Whether the characters are a decimal numeral without superfluous leading zeros. -/
def isCanonicalNumeral : List Char → Bool
  | [] => false
  | ['0'] => true
  | first :: rest => first != '0' && first.isDigit && rest.all Char.isDigit

/-- The array index that the text is the canonical numeral of. -/
def arrayIndex? (s : String) : Option Nat :=
  if isCanonicalNumeral s.toList && decimalValue s.toList < arrayIndexBound then
    some (decimalValue s.toList)
  else
    none

/-- An index is below the bound. -/
theorem arrayIndex?_lt {s : String} {n : Nat} (h : arrayIndex? s = some n) :
    n < arrayIndexBound := by
  grind [arrayIndex?]

/-- The name that stands for every property of an array that is neither an index nor an
    identifier. -/
def arrayWildcard : String := "*"

/-- The name under which an array keeps a property: index and identifier names as they are, all
    others under `arrayWildcard`. -/
def arraySlot (name : String) : String :=
  if isIdentifier name || (arrayIndex? name).isSome then name else arrayWildcard

/-- A name is kept as it is, or it becomes the wildcard. -/
theorem arraySlot_eq_self_or (name : String) :
    arraySlot name = name ∨ arraySlot name = arrayWildcard := by
  grind [arraySlot]

/-- The wildcard stands for itself, although it is neither an index nor an identifier. -/
@[simp] theorem arraySlot_wildcard : arraySlot arrayWildcard = arrayWildcard := by
  cases arraySlot_eq_self_or arrayWildcard <;> assumption

/-- A folded name is not folded further. -/
@[simp] theorem arraySlot_arraySlot (name : String) :
    arraySlot (arraySlot name) = arraySlot name := by
  rcases arraySlot_eq_self_or name with hsame | hwildcard
  · rw [hsame, hsame]
  · rw [hwildcard, arraySlot_wildcard]

end Semblance
