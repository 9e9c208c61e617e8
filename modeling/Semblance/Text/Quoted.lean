import Semblance.Text.Printable

/-! # Quoted text

A quoted text stands between double quotes.  Inside, five control characters, the double quote and
the backslash are written as two characters, every other unprintable character as its code point in
lower case hexadecimal digits between braces, and all else as itself.

* `quote_toList`      the characters of a quoted text, one escape per character
* `escape_printable`  a printable character other than the quote and the backslash is left alone -/

namespace Semblance.Text

/-- The code point of a character, for a character that has no short escape: `\u` and the lower case
    hexadecimal digits, without leading zeros, between braces. -/
def escapeByNumber (c : Char) : List Char :=
  '\\' :: 'u' :: '\x7b' :: (Nat.toDigits 16 c.toNat ++ ['\x7d'])

/-- How a character is written inside a quoted text. -/
def escape (c : Char) : List Char :=
  if c = '\x00' then ['\\', '0']
  else if c = '\t' then ['\\', 't']
  else if c = '\r' then ['\\', 'r']
  else if c = '\n' then ['\\', 'n']
  else if c = '"' then ['\\', '"']
  else if c = '\\' then ['\\', '\\']
  else if isPrintable c then [c]
  else escapeByNumber c

/-- The text between double quotes, each character escaped where needed. -/
def quote (s : String) : String :=
  String.ofList ('"' :: (s.toList.flatMap escape ++ ['"']))

/-- The characters of a quoted text are the escapes between two quotes. -/
theorem quote_toList (s : String) :
    (quote s).toList = '"' :: (s.toList.flatMap escape ++ ['"']) := by
  simp [quote]

/-- A printable character other than the quote and the backslash is left alone. -/
theorem escape_printable {c : Char} (h : isPrintable c = true) (hquote : c ≠ '"')
    (hbackslash : c ≠ '\\') : escape c = [c] := by
  -- The other characters with a short escape are not printable.
  have hnul : c ≠ '\x00' := by rintro rfl; exact absurd h (by decide)
  have htab : c ≠ '\t' := by rintro rfl; exact absurd h (by decide)
  have hreturn : c ≠ '\r' := by rintro rfl; exact absurd h (by decide)
  have hfeed : c ≠ '\n' := by rintro rfl; exact absurd h (by decide)
  simp [escape, *]

end Semblance.Text
