import Semblance.Proofs.Text.Quoted

/-!
# Nested lists as text

A dump is the text of a nested list. Its tokens are words, which have none of the characters that
separate tokens in them, and quoted texts, which may have any. A token or a list is followed by a
space, by a parenthesis or by nothing, so that it is clear where it ends.

## Key results

- `Token.text_append_inj`: where a token ends is known, and so is the token
- `Form.text_append_inj`: the same for a nested list
-/

namespace Semblance

/-! ### Tokens -/

/-- A token of a nested list. -/
inductive Token where
  | word (text : String)
  | quoted (text : String)
deriving DecidableEq, Repr

namespace Token

/-- The characters of a token. -/
def text : Token → List Char
  | word text => text.toList
  | quoted text => (Text.quote text).toList

/-- The characters that stand in no word. -/
def delimiters : List Char := [' ', '(', ')', '"']

/-- A word is not empty, and it has no delimiter in it. -/
def IsProper : Token → Prop
  | word text => text ≠ "" ∧ ∀ c ∈ text.toList, c ∉ delimiters
  | quoted _ => True

end Token

/-- What may come after a token or a list. -/
def Delimited (rest : List Char) : Prop :=
  ∀ c ∈ rest.head?, c = ' ' ∨ c = ')'

/-- A token may end the text. -/
theorem delimited_nil : Delimited [] := nofun

/-- A blank or a closing parenthesis may come after a token. -/
theorem delimited_cons {c : Char} {rest : List Char} (h : c = ' ' ∨ c = ')') :
    Delimited (c :: rest) := by
  intro c' hc'
  rwa [← Option.some.inj hc']

/-- What comes after a token is a delimiter. -/
theorem Delimited.mem_delimiters {c : Char} {rest : List Char} (h : Delimited (c :: rest)) :
    c ∈ Token.delimiters := by
  rcases h c rfl with rfl | rfl <;> decide

/-- A word is proper if a look at its characters finds no delimiter. -/
theorem Token.isProper_word {text : String} (hne : text ≠ "")
    (hall : (text.toList.all fun c => !delimiters.contains c) = true) : (word text).IsProper := by
  refine ⟨hne, fun c hc hmem => ?_⟩
  have hnot := List.all_eq_true.1 hall c hc
  simp [hmem] at hnot

/-- Up to the first delimiter, text is known. -/
theorem append_inj_of_delimited {text text' rest rest' : List Char}
    (htext : ∀ c ∈ text, c ∉ Token.delimiters) (htext' : ∀ c ∈ text', c ∉ Token.delimiters)
    (hrest : Delimited rest) (hrest' : Delimited rest') (h : text ++ rest = text' ++ rest') :
    text = text' ∧ rest = rest' := by
  induction text generalizing text' with
  | nil =>
    cases text' with
    | nil => exact ⟨rfl, h⟩
    | cons c text' =>
      rw [List.nil_append] at h
      subst h
      -- A text that goes on has no delimiter where the other one ends.
      exact absurd hrest.mem_delimiters (htext' c (List.mem_cons_self ..))
  | cons c text ih =>
    cases text' with
    | nil =>
      rw [List.nil_append] at h
      subst h
      exact absurd hrest'.mem_delimiters (htext c (List.mem_cons_self ..))
    | cons c' text' =>
      obtain ⟨rfl, htail⟩ := List.cons.inj h
      obtain ⟨rfl, rfl⟩ := ih (fun d hd => htext d (List.mem_cons_of_mem _ hd))
        (fun d hd => htext' d (List.mem_cons_of_mem _ hd)) htail
      exact ⟨rfl, rfl⟩

namespace Token

variable {token token' : Token}

/-- A token begins with a character that begins no list, and that comes after none. -/
theorem exists_cons (h : token.IsProper) :
    ∃ c text, token.text = c :: text ∧ c ≠ '(' ∧ c ≠ ')' := by
  cases token with
  | word text =>
    obtain ⟨hne, hchars⟩ := h
    cases htext : text.toList with
    | nil => exact absurd (String.toList_eq_nil_iff.1 htext) hne
    | cons c rest =>
      have hc := hchars c (htext ▸ List.mem_cons_self ..)
      refine ⟨c, rest, htext, ?_, ?_⟩ <;> rintro rfl <;> exact hc (by decide)
  | quoted text => exact ⟨'"', _, Text.quote_toList text, by decide, by decide⟩

/-- A word does not begin with a quote. -/
theorem word_append_ne_quoted {text text' : String} (h : (word text).IsProper)
    (rest rest' : List Char) : (word text).text ++ rest ≠ (quoted text').text ++ rest' := by
  obtain ⟨hne, hchars⟩ := h
  rw [Token.text, Token.text, Text.quote_toList]
  cases htext : text.toList with
  | nil => exact absurd (String.toList_eq_nil_iff.1 htext) hne
  | cons c _ =>
    intro heq
    obtain rfl := (List.cons.inj heq).1
    exact hchars '"' (htext ▸ List.mem_cons_self ..) (by decide)

/-- A token is known from what begins with it, and so is the rest. -/
theorem text_append_inj (h : token.IsProper) (h' : token'.IsProper) {rest rest' : List Char}
    (hrest : Delimited rest) (hrest' : Delimited rest')
    (htext : token.text ++ rest = token'.text ++ rest') : token = token' ∧ rest = rest' := by
  cases token with
  | word text =>
    cases token' with
    | word text' =>
      obtain ⟨heq, rfl⟩ := append_inj_of_delimited h.2 h'.2 hrest hrest' htext
      exact ⟨congrArg word (String.toList_inj.1 heq), rfl⟩
    | quoted text' => exact absurd htext (word_append_ne_quoted h rest rest')
  | quoted text =>
    cases token' with
    | word text' => exact absurd htext.symm (word_append_ne_quoted h' rest' rest)
    | quoted text' =>
      obtain ⟨rfl, rfl⟩ := Text.quote_append_inj htext
      exact ⟨rfl, rfl⟩

end Token

/-! ### Nested lists -/

/-- A nested list of tokens. -/
inductive Form where
  | atom (token : Token)
  | list (items : List Form)

namespace Form

mutual

/-- The text of a nested list: items in parentheses, separated by single spaces. -/
def text : Form → List Char
  | atom token => token.text
  | list [] => ['(', ')']
  | list (item :: items) => '(' :: (item.text ++ tailText items)

/-- The text of the items after the first, with the closing parenthesis. -/
def tailText : List Form → List Char
  | [] => [')']
  | item :: items => ' ' :: (item.text ++ tailText items)

end

/-- All words of a nested list are proper. -/
inductive IsProper : Form → Prop
  | atom {token : Token} : token.IsProper → IsProper (atom token)
  | list {items : List Form} : (∀ item ∈ items, IsProper item) → IsProper (list items)

/-- A blank or a closing parenthesis comes after each item of a list. -/
theorem delimited_tailText (items : List Form) (rest : List Char) :
    Delimited (tailText items ++ rest) := by
  cases items <;> rw [tailText]
  · exact delimited_cons (.inr rfl)
  · exact delimited_cons (.inl rfl)

/-- A nested list does not begin with a closing parenthesis. -/
theorem IsProper.text_append_ne {form : Form} (h : form.IsProper) (rest rest' : List Char) :
    form.text ++ rest ≠ ')' :: rest' := by
  cases h with
  | atom htoken =>
    obtain ⟨c, text, htext, _, hne⟩ := Token.exists_cons htoken
    rw [Form.text, htext]
    exact fun heq => hne (List.cons.inj heq).1
  | @list items _ => cases items <;> simp [text]

/-- A token does not begin with an opening parenthesis. -/
theorem text_list_append_ne {token : Token} (h : token.IsProper) (items : List Form)
    (rest rest' : List Char) : (list items).text ++ rest ≠ token.text ++ rest' := by
  obtain ⟨c, text, htext, hne, _⟩ := Token.exists_cons h
  rw [htext]
  cases items <;> exact fun heq => hne (List.cons.inj heq).1.symm

/-- The items after the first are known if each of them is. -/
theorem tailText_append_inj {items items' : List Form} {rest rest' : List Char}
    (hitem : ∀ item ∈ items, ∀ item' ∈ items', ∀ {rest rest'}, Delimited rest → Delimited rest' →
      item.text ++ rest = item'.text ++ rest' → item = item' ∧ rest = rest')
    (h : tailText items ++ rest = tailText items' ++ rest') : items = items' ∧ rest = rest' := by
  induction items generalizing items' with
  | nil =>
    cases items' with
    | nil => exact ⟨rfl, (List.cons.inj h).2⟩
    | cons item' items' => simp [tailText] at h
  | cons item items ih =>
    cases items' with
    | nil => simp [tailText] at h
    | cons item' items' =>
      simp only [tailText, List.cons_append, List.append_assoc, List.cons.injEq, true_and] at h
      -- What follows an item of the tail is a space or the closing bracket, so the item cannot take
      -- a character of it.
      obtain ⟨rfl, htail⟩ := hitem item (List.mem_cons_self ..) item' (List.mem_cons_self ..)
        (delimited_tailText _ _) (delimited_tailText _ _) h
      obtain ⟨rfl, rfl⟩ := ih (fun item hmem item' hmem' => hitem item (List.mem_cons_of_mem _ hmem)
        item' (List.mem_cons_of_mem _ hmem')) htail
      exact ⟨rfl, rfl⟩

/-- All items of a list are known if each of them is. -/
theorem text_list_append_inj {items items' : List Form} {rest rest' : List Char}
    (hproper : ∀ item ∈ items, item.IsProper) (hproper' : ∀ item ∈ items', item.IsProper)
    (hitem : ∀ item ∈ items, ∀ item' ∈ items', ∀ {rest rest'}, Delimited rest → Delimited rest' →
      item.text ++ rest = item'.text ++ rest' → item = item' ∧ rest = rest')
    (h : (list items).text ++ rest = (list items').text ++ rest') :
    items = items' ∧ rest = rest' := by
  cases items with
  | nil =>
    cases items' with
    | nil => simpa [text] using h
    | cons item' items' =>
      simp only [text, List.cons_append, List.append_assoc, List.cons.injEq, true_and] at h
      -- No form begins with the closing bracket, so an empty list cannot be read as a list of
      -- forms.
      exact ((hproper' item' (List.mem_cons_self ..)).text_append_ne _ _ h.symm).elim
  | cons item items =>
    cases items' with
    | nil =>
      simp only [text, List.cons_append, List.append_assoc, List.cons.injEq, true_and] at h
      exact ((hproper item (List.mem_cons_self ..)).text_append_ne _ _ h).elim
    | cons item' items' =>
      simp only [text, List.cons_append, List.append_assoc, List.cons.injEq, true_and] at h
      -- The first item stands without a space before it, so it is not part of the tail.
      obtain ⟨rfl, htail⟩ := hitem item (List.mem_cons_self ..) item' (List.mem_cons_self ..)
        (delimited_tailText _ _) (delimited_tailText _ _) h
      obtain ⟨rfl, rfl⟩ := tailText_append_inj (fun item hmem item' hmem' =>
        hitem item (List.mem_cons_of_mem _ hmem) item' (List.mem_cons_of_mem _ hmem')) htail
      exact ⟨rfl, rfl⟩

/-- A nested list is known from what begins with its text, and so is the rest. -/
theorem text_append_inj {form form' : Form} (h : form.IsProper) (h' : form'.IsProper)
    {rest rest' : List Char} (hrest : Delimited rest) (hrest' : Delimited rest')
    (htext : form.text ++ rest = form'.text ++ rest') : form = form' ∧ rest = rest' := by
  -- On how the first form is proper. An atom never begins with a bracket, which tells it from a
  -- list.
  induction h generalizing form' rest rest' with
  | atom htoken =>
    cases h' with
    | atom htoken' =>
      obtain ⟨rfl, rfl⟩ := Token.text_append_inj htoken htoken' hrest hrest' htext
      exact ⟨rfl, rfl⟩
    | list _ => exact absurd htext.symm (text_list_append_ne htoken _ _ _)
  | list hitems ih =>
    cases h' with
    | atom htoken' => exact absurd htext (text_list_append_ne htoken' _ _ _)
    | list hitems' =>
      obtain ⟨rfl, rfl⟩ := text_list_append_inj hitems hitems' (fun item hmem item' hmem' =>
        ih item hmem (hitems' item' hmem')) htext
      exact ⟨rfl, rfl⟩

/-- The text of a nested list determines it. -/
theorem text_inj {form form' : Form} (h : form.IsProper) (h' : form'.IsProper)
    (htext : form.text = form'.text) : form = form' :=
  (text_append_inj h h' delimited_nil delimited_nil (congrArg (· ++ []) htext)).1

end Form

end Semblance
