import HlsEmit.Json.Reader

/-! # The written form of JSON values

A value has many written forms: space may stand between any two tokens, the entries of
an object stand in the order they are written, and a character of a string can be
escaped in several ways. The relations below are the grammar of these forms; readers are
compared with them.
-/

namespace HlsEmit.Json

/-- A JSON value. Its numbers are integers. -/
inductive Value where
  | null
  | bool (value : Bool)
  | integer (value : Int)
  | text (value : String)
  | list (items : List Value)
  | object (entries : List (String × Value))

/-- Space between tokens. -/
def IsSpace (chars : List Char) : Prop := ∀ c ∈ chars, c = ' ' ∨ c = '\n' ∨ c = '\t' ∨ c = '\r'

theorem isSpace_nil : IsSpace [] := by simp [IsSpace]

/-- The character is a hexadecimal digit of that value, in lower or upper case. -/
def IsHexDigit (value : Nat) (c : Char) : Prop :=
  "0123456789abcdef".toList[value]? = some c ∨ "0123456789ABCDEF".toList[value]? = some c

instance (value : Nat) (c : Char) : Decidable (IsHexDigit value c) :=
  inferInstanceAs (Decidable (_ ∨ _))

/-- A number in four hexadecimal digits. -/
inductive IsHexUnit : Nat → List Char → Prop where
  | digits {a b c d : Nat} {first second third fourth : Char} :
      IsHexDigit a first → IsHexDigit b second → IsHexDigit c third → IsHexDigit d fourth →
      IsHexUnit (((a * 16 + b) * 16 + c) * 16 + d) [first, second, third, fourth]

/-- The letters after a backslash, with the characters they stand for. -/
def escapeLetters : List (Char × Char) :=
  [('"', '"'), ('\\', '\\'), ('/', '/'), ('b', '\x08'), ('f', '\x0c'), ('n', '\n'), ('r', '\r'),
    ('t', '\t')]

/-- The ways to write a character of a string. -/
inductive SpellsChar : Char → List Char → Prop where
  | plain {c : Char} : 0x20 ≤ c.toNat → c ≠ '"' → c ≠ '\\' → SpellsChar c [c]
  | letter {letter c : Char} : (letter, c) ∈ escapeLetters → SpellsChar c ['\\', letter]
  | unit {c : Char} {digits : List Char} :
      IsHexUnit c.toNat digits → SpellsChar c ('\\' :: 'u' :: digits)
  /-- A character beyond the first plane is a pair of surrogates. -/
  | pair {c : Char} {high low : List Char} : 0x10000 ≤ c.toNat →
      IsHexUnit (0xD800 + (c.toNat - 0x10000) / 0x400) high →
      IsHexUnit (0xDC00 + (c.toNat - 0x10000) % 0x400) low →
      SpellsChar c ('\\' :: 'u' :: high ++ '\\' :: 'u' :: low)

/-- The ways to write the characters of a string. -/
inductive Spells : List Char → List Char → Prop where
  | nil : Spells [] []
  | cons {c : Char} {chars spelled rest : List Char} :
      SpellsChar c spelled → Spells chars rest → Spells (c :: chars) (spelled ++ rest)

/-- A string in quotation marks. -/
inductive Quotes (text : String) : List Char → Prop where
  | marks {spelled : List Char} : Spells text.toList spelled →
      Quotes text ('"' :: (spelled ++ ['"']))

theorem spells_of_plain {chars : List Char}
    (plain : ∀ c ∈ chars, 0x20 ≤ c.toNat ∧ c ≠ '"' ∧ c ≠ '\\') : Spells chars chars := by
  induction chars with
  | nil => exact .nil
  | cons c rest ih =>
      obtain ⟨printable, notQuote, notBackslash⟩ := plain c List.mem_cons_self
      have others : Spells rest rest := ih fun d inside => plain d (List.mem_cons_of_mem _ inside)
      exact .cons (.plain printable notQuote notBackslash) others

theorem quotes_of_plain {text : String}
    (plain : ∀ c ∈ text.toList, 0x20 ≤ c.toNat ∧ c ≠ '"' ∧ c ≠ '\\') :
    Quotes text ('"' :: (text.toList ++ ['"'])) :=
  .marks (spells_of_plain plain)

theorem eq_of_spells {chars spelled : List Char} (spells : Spells chars spelled)
    (unescaped : '\\' ∉ spelled) : spelled = chars := by
  induction spells with
  | nil => rfl
  | cons first _ ih =>
      rw [List.mem_append, not_or] at unescaped
      rw [ih unescaped.2]
      cases first with
      | plain => rfl
      | letter => simp at unescaped
      | unit => simp at unescaped
      | pair => simp at unescaped

/-- Without escapes there is one way to write a string. -/
theorem eq_of_quotes {text : String} {quoted : List Char} (quotes : Quotes text quoted)
    (unescaped : '\\' ∉ quoted) : quoted = '"' :: (text.toList ++ ['"']) := by
  cases quotes with
  | marks spells =>
      rw [eq_of_spells spells fun escaped => unescaped (by simp [escaped])]

/-- What stands before an item: space, and a comma unless it is the first one. -/
inductive Leads : Bool → List Char → Prop where
  | first {space : List Char} : IsSpace space → Leads true space
  | comma {before space : List Char} : IsSpace before → IsSpace space →
      Leads false (before ++ ',' :: space)

/-- Items up to a closing bracket, each written as `Item` says. -/
inductive Items {α : Type} (Item : α → List Char → Prop) (closer : Char) :
    Bool → List α → List Char → Prop where
  | close {first : Bool} {space : List Char} : IsSpace space →
      Items Item closer first [] (space ++ [closer])
  | item {first : Bool} {a : α} {items : List α} {lead written rest : List Char} :
      Leads first lead → Item a written → Items Item closer false items rest →
      Items Item closer first (a :: items) (lead ++ (written ++ rest))

theorem Items.exists_infix {α : Type} {Item : α → List Char → Prop} {closer : Char} {first : Bool}
    {items : List α} {text : List Char} (written : Items Item closer first items text) {a : α}
    (inside : a ∈ items) : ∃ part, part <:+: text ∧ Item a part := by
  induction written with
  | close => cases inside
  | @item _ _ _ lead part rest _ writes _ ih =>
      rcases List.mem_cons.mp inside with rfl | later
      · exact ⟨part, ⟨lead, rest, by simp⟩, writes⟩
      · obtain ⟨part', ⟨before, after, rfl⟩, writes'⟩ := ih later
        exact ⟨part', ⟨lead ++ part ++ before, after, by simp⟩, writes'⟩

mutual

/-- The text is a written form of the value, without space around it. -/
inductive Written : Value → List Char → Prop where
  | null : Written .null "null".toList
  | bool (value : Bool) : Written (.bool value) (toString value).toList
  | integer (value : Int) : Written (.integer value) (toString value).toList
  | text {value : String} {quoted : List Char} : Quotes value quoted → Written (.text value) quoted
  | list {items : List Value} {inner : List Char} : Items Written ']' true items inner →
      Written (.list items) ('[' :: inner)
  | object {entries : List (String × Value)} {inner : List Char} :
      Items WrittenEntry '\x7d' true entries inner → Written (.object entries) ('\x7b' :: inner)

/-- A key, a colon and a value. -/
inductive WrittenEntry : String × Value → List Char → Prop where
  | entry {key : String} {value : Value} {quoted before after written : List Char} :
      Quotes key quoted → IsSpace before → IsSpace after → Written value written →
      WrittenEntry (key, value) (quoted ++ (before ++ ':' :: (after ++ written)))

end

theorem writtenText_of_plain (value : String)
    (plain : ∀ c ∈ value.toList, 0x20 ≤ c.toNat ∧ c ≠ '"' ∧ c ≠ '\\') :
    Written (.text value) ('"' :: (value.toList ++ ['"'])) :=
  .text (quotes_of_plain plain)

theorem writtenEntry_of_plain (key : String)
    (plain : ∀ c ∈ key.toList, 0x20 ≤ c.toNat ∧ c ≠ '"' ∧ c ≠ '\\') {value : Value}
    {written : List Char} (writes : Written value written) :
    WrittenEntry (key, value)
      ('"' :: (key.toList ++ ['"']) ++ ([] ++ ':' :: ([] ++ written))) :=
  .entry (quotes_of_plain plain) isSpace_nil isSpace_nil writes

/-- The text is a document of the value. -/
inductive IsDocument (value : Value) : List Char → Prop where
  | text {before written after : List Char} : IsSpace before → Written value written →
      IsSpace after → IsDocument value (before ++ (written ++ after))

end HlsEmit.Json
