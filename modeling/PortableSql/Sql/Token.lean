import PortableSql.Number.Power
import PortableSql.Sql.Identifier
import PortableSql.Sql.Literal
import PortableSql.Text.Blank
import PortableSql.Text.Prefix

/-!
# Tokens of portable SQL

Portable SQL is SQL of any product with placeholders (`?1`, `:name`, `@name`, `$name`), `//`
comments and two templates, `{if_seq ...}` and `{next ...}`. `Token.scan?` recognises what starts at
the beginning of a text; everything it does not recognise is plain SQL. A token keeps all of its
characters, so `Token.source` gives back what was read.
-/
namespace PortableSql

/-- Placeholder of a parameter, as written. -/
inductive Placeholder where
  /-- `?` and digits. -/
  | position (digits : List Char)
  /-- A sigil and a word. -/
  | name (text : List Char)
  deriving DecidableEq, Repr

namespace Placeholder

/-- The characters of the placeholder. -/
def text : Placeholder → List Char
  | position digits => '?' :: digits
  | name text => text

/-- The parameter that the placeholder stands for. -/
def identifier : Placeholder → Identifier
  | position digits => .position (Text.Decimal.value digits)
  | name text => .name (String.ofList text)

end Placeholder

/-- What the scanner recognises. -/
inductive Token where
  | placeholder (p : Placeholder)
  /-- Literals, block comments, `--` comments and `::` casts, which are copied. -/
  | verbatim (text : List Char)
  /-- A `//` comment and the line break behind it, which is empty at the end of the text. -/
  | note (body lineBreak : List Char)
  /-- `{if_seq`, blanks, a column, and the text up to the closing brace. -/
  | ifSeq (gap data other : List Char)
  /-- `{next`, blanks, a sequence name, and the text up to the closing brace. -/
  | next (gap name other : List Char)
  deriving DecidableEq, Repr

/-- Largest position a placeholder can have, plus one. -/
def positionLimit : Nat := 2 ^ (64 : Nat)

/-- Letters, digits and underscore of ASCII, which make up names. -/
def isWordChar (c : Char) : Bool :=
  c.isAlphanum || c == '_'

/-- Characters that end a line. -/
def isLineBreak (c : Char) : Bool :=
  c == '\n' || c == '\r'

/-- The rest of a line. -/
def lineOf (text : List Char) : List Char :=
  text.takeWhile fun c => !isLineBreak c

/-- Splits a text behind the first `*/`. -/
def closeComment? : List Char → Option (List Char × List Char)
  | [] => none
  | c :: rest =>
    if c = '*' ∧ rest.head? = some '/' then some ([c, '/'], rest.tail)
    else (closeComment? rest).map fun (inside, after) => (c :: inside, after)

/-- Splits off the line break at the beginning of a text; a carriage return and a line feed are
one. -/
def splitLineBreak : List Char → List Char × List Char
  | '\r' :: '\n' :: rest => (['\r', '\n'], rest)
  | c :: rest => ([c], rest)
  | [] => ([], [])

/-- Splits the text at the brace that closes a template; it must be on the same line. -/
def closeTemplate? (text : List Char) : Option (List Char × List Char) :=
  let other := text.takeWhile fun c => !isLineBreak c && c != '}'
  match text.dropWhile fun c => !isLineBreak c && c != '}' with
  | c :: rest => if c = '}' then some (other, rest) else none
  | [] => none

/-- The word that opens a template for the key column. -/
def ifSeqWord : List Char := "if_seq".toList

/-- The word that opens a template for the next key. -/
def nextWord : List Char := "next".toList

namespace Token

/-- The characters of the token. -/
def source : Token → List Char
  | placeholder p => p.text
  | verbatim text => text
  | note body lineBreak => body ++ lineBreak
  | ifSeq gap data other => '{' :: (ifSeqWord ++ (gap ++ (data ++ (other ++ ['}']))))
  | next gap name other => '{' :: (nextWord ++ (gap ++ (name ++ (other ++ ['}']))))

/-- Recognises a template; `text` follows its opening brace. -/
def template? (text : List Char) : Option (Token × List Char) :=
  match ifSeqWord.isPrefixOf? text with
  | some rest =>
    let body := rest.dropWhile Text.isAsciiBlank
    let data := body.takeWhile fun c => c != ',' && c != '}'
    if data.isEmpty then none
    else (closeTemplate? (body.dropWhile fun c => c != ',' && c != '}')).map fun (other, after) =>
      (ifSeq (rest.takeWhile Text.isAsciiBlank) data other, after)
  | none =>
    match nextWord.isPrefixOf? text with
    | some rest =>
      let body := rest.dropWhile Text.isAsciiBlank
      let name := body.takeWhile isWordChar
      if name.isEmpty then none
      else (closeTemplate? (body.dropWhile isWordChar)).map fun (other, after) =>
        (next (rest.takeWhile Text.isAsciiBlank) name other, after)
    | none => none

/-- Recognises a placeholder by position; `text` follows the question mark. -/
def position? (text : List Char) : Option (Token × List Char) :=
  let digits := text.takeWhile Char.isDigit
  if digits.isEmpty || decide (positionLimit ≤ Text.Decimal.value digits) then none
  else some (placeholder (.position digits), text.dropWhile Char.isDigit)

/-- Recognises a placeholder by name; `text` follows the sigil. -/
def name? (sigil : Char) (text : List Char) : Option (Token × List Char) :=
  let word := text.takeWhile isWordChar
  if word.isEmpty then none
  else some (placeholder (.name (sigil :: word)), text.dropWhile isWordChar)

/-- Recognises a literal; `text` follows the opening quote. -/
def literal? (quote : Char) (text : List Char) : Option (Token × List Char) :=
  (Literal.closing? '\\' quote text).map fun n => (verbatim (quote :: text.take n), text.drop n)

/-- Recognises a `//` comment; `text` follows the two slashes. -/
def lineNote (text : List Char) : Token × List Char :=
  let rest := text.dropWhile fun c => !isLineBreak c
  let (lineBreak, after) := splitLineBreak rest
  (note ('/' :: '/' :: lineOf text) lineBreak, after)

/-- The token at the beginning of a text, and what follows it. -/
def scan? : List Char → Option (Token × List Char)
  | [] => none
  | c :: rest =>
    if c = '?' then position? rest
    else if c = ':' ∧ rest.head? = some ':' then some (verbatim [':', ':'], rest.tail)
    else if c = ':' ∨ c = '@' ∨ c = '$' then name? c rest
    else if c = '\'' ∨ c = '"' then literal? c rest
    else if c = '/' ∧ rest.head? = some '*' then
      (closeComment? rest.tail).map fun (inside, after) => (verbatim ('/' :: '*' :: inside), after)
    else if c = '/' ∧ rest.head? = some '/' then some (lineNote rest.tail)
    else if c = '-' ∧ rest.head? = some '-' then
      some (verbatim ('-' :: lineOf rest), rest.dropWhile fun c => !isLineBreak c)
    else if c = '{' then template? rest
    else none

end Token

/-! ## Nothing is lost in scanning -/

theorem eq_cons_tail {c : Char} {text : List Char} (h : text.head? = some c) :
    text = c :: text.tail := by
  cases text with
  | nil => simp at h
  | cons d rest => simp at h; simp [h]

theorem closeComment?_source {text inside after : List Char}
    (h : closeComment? text = some (inside, after)) : text = inside ++ after := by
  induction text generalizing inside with
  | nil => simp [closeComment?] at h
  | cons c rest ih =>
    simp only [closeComment?] at h
    split at h
    · next hc =>
      simp only [Option.some.injEq, Prod.mk.injEq] at h
      obtain ⟨rfl, rfl⟩ := h
      rw [eq_cons_tail hc.2]; simp
    · simp only [Option.map_eq_some_iff, Prod.mk.injEq] at h
      obtain ⟨⟨inside', after'⟩, h', rfl, rfl⟩ := h
      simp [ih h']

theorem splitLineBreak_source (text : List Char) :
    (splitLineBreak text).1 ++ (splitLineBreak text).2 = text := by
  unfold splitLineBreak; split <;> simp

theorem closeTemplate?_source {text other after : List Char}
    (h : closeTemplate? text = some (other, after)) : text = other ++ '}' :: after := by
  simp only [closeTemplate?] at h
  split at h
  · next c rest hd =>
    split at h
    · next hc =>
      simp only [Option.some.injEq, Prod.mk.injEq] at h
      obtain ⟨rfl, rfl⟩ := h
      subst hc
      rw [← hd, List.takeWhile_append_dropWhile]
    · simp at h
  · simp at h

namespace Token

theorem template?_source {text after : List Char} {t : Token}
    (h : template? text = some (t, after)) : '{' :: text = t.source ++ after := by
  simp only [template?] at h
  split at h
  · next rest hrest =>
    split at h
    · simp at h
    · simp only [Option.map_eq_some_iff, Prod.mk.injEq] at h
      obtain ⟨⟨other, after'⟩, hclose, rfl, rfl⟩ := h
      rw [Text.eq_append_of_isPrefixOf? hrest]
      have h1 := List.takeWhile_append_dropWhile (p := Text.isAsciiBlank) (l := rest)
      have h2 := List.takeWhile_append_dropWhile (p := fun c => c != ',' && c != '}')
        (l := rest.dropWhile Text.isAsciiBlank)
      have h3 := closeTemplate?_source hclose
      rw [h3] at h2
      simp only [source, List.cons_append, List.append_assoc, List.nil_append]
      rw [h2, h1]
  · split at h
    · next rest hrest =>
      split at h
      · simp at h
      · simp only [Option.map_eq_some_iff, Prod.mk.injEq] at h
        obtain ⟨⟨other, after'⟩, hclose, rfl, rfl⟩ := h
        rw [Text.eq_append_of_isPrefixOf? hrest]
        have h1 := List.takeWhile_append_dropWhile (p := Text.isAsciiBlank) (l := rest)
        have h2 := List.takeWhile_append_dropWhile (p := isWordChar)
          (l := rest.dropWhile Text.isAsciiBlank)
        have h3 := closeTemplate?_source hclose
        rw [h3] at h2
        simp only [source, List.cons_append, List.append_assoc, List.nil_append]
        rw [h2, h1]
    · simp at h

/-- The ways in which a text begins with a token. -/
theorem scan?_cases {c : Char} {rest after : List Char} {t : Token}
    (h : scan? (c :: rest) = some (t, after)) :
    (c = '?' ∧ position? rest = some (t, after)) ∨
    (c = ':' ∧ rest.head? = some ':' ∧ t = verbatim [':', ':'] ∧ after = rest.tail) ∨
    ((c = ':' ∨ c = '@' ∨ c = '$') ∧ name? c rest = some (t, after)) ∨
    ((c = '\'' ∨ c = '"') ∧ literal? c rest = some (t, after)) ∨
    (c = '/' ∧ rest.head? = some '*' ∧ ∃ inside, closeComment? rest.tail = some (inside, after) ∧
      t = verbatim ('/' :: '*' :: inside)) ∨
    (c = '/' ∧ rest.head? = some '/' ∧ lineNote rest.tail = (t, after)) ∨
    (c = '-' ∧ rest.head? = some '-' ∧ t = verbatim ('-' :: lineOf rest) ∧
      after = rest.dropWhile fun c => !isLineBreak c) ∨
    (c = '{' ∧ template? rest = some (t, after)) := by
  simp only [scan?] at h
  split at h
  · next hc => exact .inl ⟨hc, h⟩
  split at h
  · next hc =>
    cases h
    exact .inr (.inl ⟨hc.1, hc.2, rfl, rfl⟩)
  split at h
  · next hc => exact .inr (.inr (.inl ⟨hc, h⟩))
  split at h
  · next hc => exact .inr (.inr (.inr (.inl ⟨hc, h⟩)))
  split at h
  · next hc =>
    obtain ⟨⟨inside, after'⟩, hclose, heq⟩ := Option.map_eq_some_iff.1 h
    cases heq
    exact .inr (.inr (.inr (.inr (.inl ⟨hc.1, hc.2, inside, hclose, rfl⟩))))
  split at h
  · next hc =>
    exact .inr (.inr (.inr (.inr (.inr (.inl ⟨hc.1, hc.2, Option.some.inj h⟩)))))
  split at h
  · next hc =>
    cases h
    exact .inr (.inr (.inr (.inr (.inr (.inr (.inl ⟨hc.1, hc.2, rfl, rfl⟩))))))
  split at h
  · next hc => exact .inr (.inr (.inr (.inr (.inr (.inr (.inr ⟨hc, h⟩))))))
  · cases h

/-- What a template is recognised as. -/
theorem template?_cases {text after : List Char} {t : Token}
    (h : template? text = some (t, after)) :
    (∃ gap data other, t = ifSeq gap data other) ∨ ∃ gap name other, t = next gap name other := by
  simp only [template?] at h
  split at h
  · split at h
    · cases h
    · obtain ⟨found, -, heq⟩ := Option.map_eq_some_iff.1 h
      cases heq
      exact .inl ⟨_, _, _, rfl⟩
  · split at h
    · split at h
      · cases h
      · obtain ⟨found, -, heq⟩ := Option.map_eq_some_iff.1 h
        cases heq
        exact .inr ⟨_, _, _, rfl⟩
    · cases h

theorem position?_eq_some {rest after : List Char} {t : Token}
    (h : position? rest = some (t, after)) :
    t = placeholder (.position (rest.takeWhile Char.isDigit)) ∧
      after = rest.dropWhile Char.isDigit := by
  simp only [position?] at h
  split at h <;> cases h
  exact ⟨rfl, rfl⟩

theorem name?_eq_some {c : Char} {rest after : List Char} {t : Token}
    (h : name? c rest = some (t, after)) :
    t = placeholder (.name (c :: rest.takeWhile isWordChar)) ∧ after = rest.dropWhile isWordChar := by
  simp only [name?] at h
  split at h <;> cases h
  exact ⟨rfl, rfl⟩

theorem literal?_eq_some {c : Char} {rest after : List Char} {t : Token}
    (h : literal? c rest = some (t, after)) :
    ∃ n, t = verbatim (c :: rest.take n) ∧ after = rest.drop n := by
  obtain ⟨n, -, heq⟩ := Option.map_eq_some_iff.1 h
  cases heq
  exact ⟨n, rfl, rfl⟩

theorem lineNote_source (rest : List Char) :
    '/' :: '/' :: rest = (lineNote rest).1.source ++ (lineNote rest).2 := by
  have hline := List.takeWhile_append_dropWhile (p := fun c => !isLineBreak c) (l := rest)
  have hbreak := splitLineBreak_source (rest.dropWhile fun c => !isLineBreak c)
  simp only [lineNote, source, lineOf, List.cons_append, List.append_assoc]
  rw [hbreak, hline]

/-- **A token and the rest of the text make up the text.** -/
theorem scan?_source {text after : List Char} {t : Token} (h : scan? text = some (t, after)) :
    text = t.source ++ after := by
  cases text with
  | nil => cases h
  | cons c rest =>
    obtain ⟨rfl, h⟩ | ⟨rfl, hcolon, rfl, rfl⟩ | ⟨-, h⟩ | ⟨-, h⟩ | ⟨rfl, hstar, inside, hclose, rfl⟩ |
      ⟨rfl, hslash, h⟩ | ⟨rfl, hdash, rfl, rfl⟩ | ⟨rfl, h⟩ := scan?_cases h
    · obtain ⟨rfl, rfl⟩ := position?_eq_some h
      simp [source, Placeholder.text]
    · rw [eq_cons_tail hcolon]
      simp [source]
    · obtain ⟨rfl, rfl⟩ := name?_eq_some h
      simp [source, Placeholder.text]
    · obtain ⟨n, rfl, rfl⟩ := literal?_eq_some h
      simp [source]
    · rw [eq_cons_tail hstar, closeComment?_source hclose]
      simp [source]
    · rw [eq_cons_tail hslash, lineNote_source, h]
    · simp [source, lineOf]
    · exact template?_source h

theorem source_ne_nil_of_scan? {text after : List Char} {t : Token}
    (h : scan? text = some (t, after)) : t.source ≠ [] := by
  cases text with
  | nil => cases h
  | cons c rest =>
    obtain ⟨-, h⟩ | ⟨-, -, rfl, -⟩ | ⟨-, h⟩ | ⟨-, h⟩ | ⟨-, -, inside, -, rfl⟩ | ⟨-, -, h⟩ |
      ⟨-, -, rfl, -⟩ | ⟨-, h⟩ := scan?_cases h
    · obtain ⟨rfl, -⟩ := position?_eq_some h
      simp [source, Placeholder.text]
    · simp [source]
    · obtain ⟨rfl, -⟩ := name?_eq_some h
      simp [source, Placeholder.text]
    · obtain ⟨n, rfl, -⟩ := literal?_eq_some h
      simp [source]
    · simp [source]
    · cases h
      simp [source]
    · simp [source]
    · obtain ⟨gap, data, other, rfl⟩ | ⟨gap, name, other, rfl⟩ := template?_cases h <;> simp [source]

/-- What follows a token is shorter than the text. -/
theorem length_after_lt {text after : List Char} {t : Token} (h : scan? text = some (t, after)) :
    after.length < text.length := by
  rw [scan?_source h, List.length_append]
  have := List.length_pos_iff.2 (source_ne_nil_of_scan? h)
  omega

/-- The data of a template is shorter than the text. -/
theorem length_data_lt {text after gap data other : List Char}
    (h : scan? text = some (ifSeq gap data other, after)) : data.length < text.length := by
  rw [scan?_source h]; simp [source]; omega

/-- What holds of the empty text, and of a text if it holds behind its first character or token and
of the data of that token, holds of all texts. -/
theorem scan_induction {motive : List Char → Prop} (nil : motive [])
    (plain : ∀ c rest, scan? (c :: rest) = none → motive rest → motive (c :: rest))
    (token : ∀ text t after, scan? text = some (t, after) →
      (∀ gap data other, t = ifSeq gap data other → motive data) → motive after → motive text)
    (text : List Char) : motive text := by
  induction h : text.length using Nat.strongRecOn generalizing text with
  | _ n ih =>
    subst h
    cases hscan : scan? text with
    | none =>
      cases text with
      | nil => exact nil
      | cons c rest => exact plain c rest hscan (ih rest.length (by simp) rest rfl)
    | some found =>
      obtain ⟨t, after⟩ := found
      refine token text t after hscan ?_ (ih _ (length_after_lt hscan) after rfl)
      rintro gap data other rfl
      exact ih _ (length_data_lt hscan) data rfl

end Token

end PortableSql
