/-! # Identifiers

An identifier is an ASCII letter, an underscore or a dollar sign, followed by any number of those
and of ASCII digits.  The class is purely lexical: words that the output language reserves belong to
it, since they are valid property names.

* `isIdentifier_iff`            a first character that starts one, and others that continue it
* `isIdentifier.all_continues`  so all of its characters may continue one -/

namespace Semblance

/-- Whether an identifier may begin with the character. -/
def startsIdentifier (c : Char) : Bool :=
  c.isAlpha || c == '_' || c == '$'

/-- Whether an identifier may go on with the character. -/
def continuesIdentifier (c : Char) : Bool :=
  c.isAlphanum || c == '_' || c == '$'

/-- Whether the text is an identifier. -/
def isIdentifier (s : String) : Bool :=
  match s.toList with
  | [] => false
  | first :: rest => startsIdentifier first && rest.all continuesIdentifier

/-- What may begin an identifier may stand in it anywhere. -/
theorem continuesIdentifier_of_starts {c : Char} (h : startsIdentifier c = true) :
    continuesIdentifier c = true := by
  simp only [startsIdentifier, continuesIdentifier, Char.isAlphanum, Bool.or_eq_true] at *
  rcases h with (hletter | hunderscore) | hdollar
  · exact .inl (.inl (.inl hletter))
  · exact .inl (.inr hunderscore)
  · exact .inr hdollar

/-- An identifier is not empty, and its first character has a rule of its own. -/
theorem isIdentifier_iff {s : String} :
    isIdentifier s = true ↔ ∃ first rest, s.toList = first :: rest ∧
      startsIdentifier first = true ∧ rest.all continuesIdentifier = true := by
  unfold isIdentifier
  cases s.toList <;> grind

/-- Every character of an identifier is one that continues an identifier. -/
theorem isIdentifier.all_continues {s : String} (h : isIdentifier s = true) :
    s.toList.all continuesIdentifier = true := by
  obtain ⟨first, rest, htext, hstarts, hcontinues⟩ := isIdentifier_iff.1 h
  simp only [htext, List.all_cons, hcontinues, continuesIdentifier_of_starts hstarts, Bool.and_self]

/-- The empty text is no identifier. -/
theorem isIdentifier.ne_empty {s : String} (h : isIdentifier s = true) : s ≠ "" := by
  rintro rfl
  simp [isIdentifier] at h

end Semblance
