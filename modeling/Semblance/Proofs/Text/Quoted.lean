import Mathlib.Data.List.TakeWhile
import Semblance.Text.Quoted

/-!
# Reading quoted text

A quoted text can be read back one character at a time: no escape is the beginning of another one,
and none begins with the double quote that ends the text. So a text is known from any text that
begins with its quotation.

## Key results

- `hexValue_toDigits`: hexadecimal digits can be read back
- `unescape_escape`: so can an escaped character
- `quote_append_inj`: where a quoted text ends is known, and so is the text
-/

namespace Semblance.Text

/-! ### Hexadecimal digits -/

/-- The value of a hexadecimal digit. -/
def hexDigit (c : Char) : Nat :=
  if c.isDigit then c.toNat - '0'.toNat else c.toNat - 'a'.toNat + 10

/-- The value of a run of hexadecimal digits, the most significant first. -/
def hexValue (digits : List Char) : Nat :=
  digits.foldl (fun value digit => 16 * value + hexDigit digit) 0

/-- A digit is read as what it was written for. -/
theorem hexDigit_digitChar : ∀ {n : Nat}, n < 16 → hexDigit n.digitChar = n := by
  decide

/-- A number is read as what it was written for. -/
theorem hexValue_toDigits (n : Nat) : hexValue (Nat.toDigits 16 n) = n := by
  -- All digits but the last are those of the quotient.
  induction n using Nat.strongRecOn with
  | ind n ih =>
    rw [Nat.toDigits_eq_if (by decide)]
    split
    · next hlt => simp [hexValue, hexDigit_digitChar hlt]
    · next hge =>
      have hquotient := ih (n / 16) (by omega)
      rw [hexValue] at hquotient
      rw [hexValue, List.foldl_append, hquotient, List.foldl_cons, List.foldl_nil,
        hexDigit_digitChar (Nat.mod_lt n (by decide))]
      omega

/-- Every digit of a number is the digit of a value. -/
theorem mem_toDigits {n : Nat} {c : Char} (h : c ∈ Nat.toDigits 16 n) : ∃ d, c = Nat.digitChar d := by
  induction n using Nat.strongRecOn with
  | ind n ih =>
    rw [Nat.toDigits_eq_if (by decide)] at h
    split at h
    · exact ⟨n, List.mem_singleton.1 h⟩
    · next hge =>
      rcases List.mem_append.1 h with hfirst | hlast
      · exact ih (n / 16) (by omega) hfirst
      · exact ⟨n % 16, List.mem_singleton.1 hlast⟩

/-- There is no brace among digits. -/
theorem brace_not_mem_toDigits (n : Nat) : '\x7d' ∉ Nat.toDigits 16 n := by
  intro h
  obtain ⟨d, hd⟩ := mem_toDigits h
  exact Nat.digitChar_ne '\x7d' (by decide) hd.symm

/-! ### Escaped characters -/

/-- The first character of the inside of a quoted text, and what comes after it. -/
def unescape : List Char → Option (Char × List Char)
  | '\\' :: 'u' :: '\x7b' :: rest =>
    some (Char.ofNat (hexValue (rest.takeWhile (· ≠ '\x7d'))), (rest.dropWhile (· ≠ '\x7d')).tail)
  | '\\' :: '0' :: rest => some ('\x00', rest)
  | '\\' :: 't' :: rest => some ('\t', rest)
  | '\\' :: 'r' :: rest => some ('\r', rest)
  | '\\' :: 'n' :: rest => some ('\n', rest)
  | '\\' :: c :: rest => some (c, rest)
  | c :: rest => some (c, rest)
  | [] => none

/-- A character that is written by its number is read back. -/
theorem unescape_escapeByNumber (c : Char) (rest : List Char) :
    unescape (escapeByNumber c ++ rest) = some (c, rest) := by
  have hdigits : ∀ d ∈ Nat.toDigits 16 c.toNat, decide (d ≠ '\x7d') = true := fun d hmem =>
    decide_eq_true fun heq => brace_not_mem_toDigits _ (heq ▸ hmem)
  simp only [escapeByNumber, List.cons_append, List.append_assoc, List.nil_append, unescape]
  rw [List.takeWhile_append_of_pos hdigits, List.dropWhile_append_of_pos hdigits]
  simp [hexValue_toDigits]

/-- What is no backslash stands for itself. -/
theorem unescape_of_ne {c : Char} (h : c ≠ '\\') (rest : List Char) :
    unescape (c :: rest) = some (c, rest) := by
  unfold unescape
  split <;> simp_all

/-- An escaped character can be read back. -/
theorem unescape_escape (c : Char) (rest : List Char) :
    unescape (escape c ++ rest) = some (c, rest) := by
  unfold escape
  split_ifs with hnul htab hreturn hfeed hquote hbackslash hprintable
  · subst hnul; rfl
  · subst htab; rfl
  · subst hreturn; rfl
  · subst hfeed; rfl
  · subst hquote; rfl
  · subst hbackslash; rfl
  · exact unescape_of_ne hbackslash rest
  · exact unescape_escapeByNumber c rest

/-- No escape begins with a double quote. -/
theorem escape_append_ne_quote (c : Char) (rest rest' : List Char) :
    escape c ++ rest ≠ '"' :: rest' := by
  unfold escape escapeByNumber
  split_ifs with hnul htab hreturn hfeed hquote hbackslash hprintable <;>
    simp_all

/-- Up to the double quote that ends it, the inside of a quoted text is known. -/
theorem flatMap_escape_inj {cs cs' rest rest' : List Char}
    (h : cs.flatMap escape ++ '"' :: rest = cs'.flatMap escape ++ '"' :: rest') :
    cs = cs' ∧ rest = rest' := by
  induction cs generalizing cs' with
  | nil =>
    cases cs' with
    | nil => exact ⟨rfl, (List.cons.inj h).2⟩
    | cons c' cs' =>
      rw [List.flatMap_cons, List.append_assoc] at h
      exact (escape_append_ne_quote _ _ _ h.symm).elim
  | cons c cs ih =>
    cases cs' with
    | nil =>
      rw [List.flatMap_cons, List.append_assoc] at h
      exact (escape_append_ne_quote _ _ _ h).elim
    | cons c' cs' =>
      have hread := congrArg unescape h
      rw [List.flatMap_cons, List.flatMap_cons, List.append_assoc, List.append_assoc,
        unescape_escape, unescape_escape] at hread
      obtain ⟨rfl, hrest⟩ := Prod.mk.inj (Option.some.inj hread)
      obtain ⟨rfl, rfl⟩ := ih hrest
      exact ⟨rfl, rfl⟩

/-- A text is known from what begins with its quotation, and so is the rest. -/
theorem quote_append_inj {s s' : String} {rest rest' : List Char}
    (h : (quote s).toList ++ rest = (quote s').toList ++ rest') : s = s' ∧ rest = rest' := by
  simp only [quote_toList, List.cons_append, List.append_assoc, List.cons.injEq, true_and,
    List.nil_append] at h
  obtain ⟨hs, hrest⟩ := flatMap_escape_inj h
  exact ⟨String.toList_inj.1 hs, hrest⟩

end Semblance.Text
