import Mathlib.Data.List.TakeWhile
import PortableSql.Proofs.Sql.ByteParts
import PortableSql.Proofs.Sql.Closing
import PortableSql.Proofs.Sql.Rendering
import PortableSql.Proofs.Text.Numeral

/-!
# Texts with other placeholders

A text is respelled when its placeholders are exchanged for names and its `//` comments end with a
newline, and everything else is copied. The scan of the new text finds the tokens of the old one at the
same places: what stands behind a piece begins as it did, unless a placeholder stands there, and no
piece is closed by anything that did not close it before.
-/
namespace PortableSql

/-- A placeholder by name that begins as nothing else does. -/
inductive IsNativeName : List Char → Prop
  | mk {sigil : Char} {word : List Char} (hsigil : sigil = '@' ∨ sigil = '$') (hne : word ≠ [])
    (hword : ∀ c ∈ word, isWordChar c = true) : IsNativeName (sigil :: word)

/-- The second text is the first with its placeholders exchanged for the names, in order. A placeholder
is not followed by a character that would become part of its name. -/
inductive Respells : List (List Char) → List Char → List Char → Prop
  | nil : Respells [] [] []
  | plain {names : List (List Char)} {c : Char} {rest out : List Char}
    (hscan : Token.scan? (c :: rest) = none) (h : Respells names rest out) :
    Respells names (c :: rest) (c :: out)
  | placeholder {names : List (List Char)} {name text after out : List Char} {p : Placeholder}
    (hscan : Token.scan? text = some (.placeholder p, after)) (hname : IsNativeName name)
    (hafter : ∀ c ∈ after.head?, isWordChar c = false) (h : Respells names after out) :
    Respells (name :: names) text (name ++ out)
  | verbatim {names : List (List Char)} {text body after out : List Char}
    (hscan : Token.scan? text = some (.verbatim body, after)) (h : Respells names after out) :
    Respells names text (body ++ out)
  | note {names : List (List Char)} {text body lineBreak after out : List Char}
    (hscan : Token.scan? text = some (.note body lineBreak, after)) (h : Respells names after out) :
    Respells names text (body ++ '\n' :: out)

/-! ## What a scan looks at -/

theorem isWordChar_of_isDigit {c : Char} (h : c.isDigit = true) : isWordChar c = true := by
  simp [isWordChar, Char.isAlphanum, h]

/-- The characters that placeholders begin with. -/
def opensPlaceholder (c : Char) : Bool :=
  c == '?' || c == ':' || c == '@' || c == '$'

/-- Characters that begin no token. -/
def isInert (c : Char) : Bool :=
  !opensPlaceholder c && c != '\'' && c != '"' && c != '/' && c != '-' && c != '{'

namespace Token

/-- Why no token stands at a character. -/
structure OpensNothing (c : Char) (rest : List Char) : Prop where
  position : c = '?' → position? rest = none
  cast : c = ':' → rest.head? ≠ some ':'
  name : c = ':' ∨ c = '@' ∨ c = '$' → rest.takeWhile isWordChar = []
  literal : c = '\'' ∨ c = '"' → c ∉ rest
  comment : c = '/' → rest.head? = some '*' → closeComment? rest.tail = none
  note : c = '/' → rest.head? ≠ some '/'
  line : c = '-' → rest.head? ≠ some '-'
  template : c = '{' → template? rest = none

theorem name?_eq_none {sigil : Char} {text : List Char} :
    name? sigil text = none ↔ text.takeWhile isWordChar = [] := by
  simp [name?]

theorem literal?_eq_none {quote : Char} (hquote : quote = '\'' ∨ quote = '"') {text : List Char} :
    literal? quote text = none ↔ quote ∉ text := by
  have hne : quote ≠ '\\' := by rcases hquote with rfl | rfl <;> decide
  rw [literal?, Option.map_eq_none_iff, Literal.closing?_eq_none_iff hne]

theorem scan?_eq_none_iff {c : Char} {rest : List Char} :
    scan? (c :: rest) = none ↔ OpensNothing c rest := by
  constructor
  · intro h
    have hcast : c = ':' → rest.head? ≠ some ':' := by
      rintro rfl hcolon
      simp [scan?, hcolon] at h
    constructor
    · rintro rfl
      simpa [scan?] using h
    · exact hcast
    · intro hc
      rw [← @name?_eq_none c]
      rcases hc with rfl | rfl | rfl
      · simpa [scan?, hcast rfl] using h
      · simpa [scan?] using h
      · simpa [scan?] using h
    · intro hc
      rw [← literal?_eq_none hc]
      rcases hc with rfl | rfl <;> simpa [scan?] using h
    · rintro rfl hstar
      simpa [scan?, hstar] using h
    · rintro rfl hslash
      simp [scan?, hslash] at h
    · rintro rfl hdash
      simp [scan?, hdash] at h
    · rintro rfl
      simpa [scan?] using h
  · intro h
    simp only [scan?]
    split
    · next hc => exact h.position hc
    split
    · next hc => exact absurd hc.2 (h.cast hc.1)
    split
    · next hc => exact name?_eq_none.2 (h.name hc)
    split
    · next hc => exact (literal?_eq_none hc).2 (h.literal hc)
    split
    · next hc => rw [h.comment hc.1 hc.2, Option.map_none]
    split
    · next hc => exact absurd hc.2 (h.note hc.1)
    split
    · next hc => exact absurd hc.2 (h.line hc.1)
    split
    · next hc => exact h.template hc
    · rfl

theorem scan?_of_isInert {c : Char} (hc : isInert c = true) (rest : List Char) :
    scan? (c :: rest) = none := by
  have hne := fun d (hd : isInert d = false) => ne_of_class hc hd
  simp [scan?, hne '?' (by decide), hne ':' (by decide), hne '@' (by decide), hne '$' (by decide),
    hne '\'' (by decide), hne '"' (by decide), hne '/' (by decide), hne '-' (by decide),
    hne '{' (by decide)]

/-- A placeholder is one by position or one by name. -/
theorem placeholder_cases {text after : List Char} {p : Placeholder}
    (h : scan? text = some (placeholder p, after)) :
    (∃ rest, text = '?' :: rest ∧ position? rest = some (placeholder p, after)) ∨
      ∃ sigil rest, text = sigil :: rest ∧ (sigil = ':' ∨ sigil = '@' ∨ sigil = '$') ∧
        name? sigil rest = some (placeholder p, after) := by
  cases text with
  | nil => cases h
  | cons c rest =>
    obtain ⟨rfl, h⟩ | ⟨-, -, h, -⟩ | ⟨hsigil, h⟩ | ⟨-, h⟩ | ⟨-, -, inside, -, h⟩ | ⟨-, -, h⟩ |
      ⟨-, -, h, -⟩ | ⟨-, h⟩ := scan?_cases h
    · exact .inl ⟨rest, rfl, h⟩
    · cases h
    · exact .inr ⟨c, rest, rfl, hsigil, h⟩
    · obtain ⟨n, heq, -⟩ := literal?_eq_some h
      cases heq
    · cases h
    · cases h
    · cases h
    · obtain ⟨gap, data, other, heq⟩ | ⟨gap, name, other, heq⟩ := template?_cases h <;> cases heq

/-- A placeholder is a character that opens placeholders, and a word. -/
theorem placeholder_text {text after : List Char} {p : Placeholder}
    (h : scan? text = some (placeholder p, after)) :
    ∃ sigil word, p.text = sigil :: word ∧ opensPlaceholder sigil = true ∧
      ∀ c ∈ word, isWordChar c = true := by
  obtain ⟨rest, -, h⟩ | ⟨sigil, rest, -, hsigil, h⟩ := placeholder_cases h
  · obtain ⟨heq, -⟩ := position?_eq_some h
    cases heq
    exact ⟨'?', _, rfl, rfl, fun c hc => isWordChar_of_isDigit (List.mem_takeWhile_imp hc)⟩
  · obtain ⟨heq, -⟩ := name?_eq_some h
    cases heq
    refine ⟨sigil, _, rfl, ?_, fun c hc => List.mem_takeWhile_imp hc⟩
    rcases hsigil with rfl | rfl | rfl <;> rfl

/-- A name is read up to its end. -/
theorem isWordChar_after_name {text name after : List Char}
    (h : scan? text = some (placeholder (.name name), after)) :
    ∀ c ∈ after.head?, isWordChar c = false := by
  obtain ⟨rest, -, h⟩ | ⟨sigil, rest, -, -, h⟩ := placeholder_cases h
  · obtain ⟨heq, -⟩ := position?_eq_some h
    cases heq
  · obtain ⟨-, rfl⟩ := name?_eq_some h
    intro c hc
    have hnot := List.head?_dropWhile_not isWordChar rest
    rw [Option.mem_def.1 hc] at hnot
    simpa using hnot

/-- A note is two slashes with the rest of their line. -/
theorem note_cases {text body lineBreak after : List Char}
    (h : scan? text = some (note body lineBreak, after)) :
    ∃ rest, text = '/' :: '/' :: rest ∧ lineNote rest = (note body lineBreak, after) := by
  cases text with
  | nil => cases h
  | cons c rest =>
    obtain ⟨-, h⟩ | ⟨-, -, h, -⟩ | ⟨-, h⟩ | ⟨-, h⟩ | ⟨-, -, inside, -, h⟩ | ⟨rfl, hslash, h⟩ |
      ⟨-, -, h, -⟩ | ⟨-, h⟩ := scan?_cases h
    · obtain ⟨heq, -⟩ := position?_eq_some h
      cases heq
    · cases h
    · obtain ⟨heq, -⟩ := name?_eq_some h
      cases heq
    · obtain ⟨n, heq, -⟩ := literal?_eq_some h
      cases heq
    · cases h
    · exact ⟨rest.tail, by rw [← eq_cons_tail hslash], h⟩
    · cases h
    · obtain ⟨gap, data, other, heq⟩ | ⟨gap, name, other, heq⟩ := template?_cases h <;> cases heq

end Token

/-- What is the same for these characters. -/
theorem apply_of_opensPlaceholder {α : Type} {f : Char → α}
    (hf : f ':' = f '?' ∧ f '@' = f '?' ∧ f '$' = f '?') {c : Char} (h : opensPlaceholder c = true) :
    f c = f '?' := by
  simp only [opensPlaceholder, Bool.or_eq_true, beq_iff_eq] at h
  rcases h with ((rfl | rfl) | rfl) | rfl
  · rfl
  · exact hf.1
  · exact hf.2.1
  · exact hf.2.2

theorem isQuiet_of_isWordChar {c : Char} (h : isWordChar c = true) : isQuiet c = true := by
  have hne := fun d (hd : isWordChar d = false) => ne_of_class h hd
  simp [isQuiet, isLineBreak, hne '\'' (by decide), hne '"' (by decide), hne '*' (by decide),
    hne '/' (by decide), hne ',' (by decide), hne '}' (by decide), hne '\n' (by decide),
    hne '\r' (by decide)]

theorem opensPlaceholder_of_isInert {c : Char} (h : isInert c = true) :
    opensPlaceholder c = false := by
  cases hc : opensPlaceholder c with
  | false => rfl
  | true => simp [isInert, hc] at h

theorem isInert_of_isWordChar {c : Char} (h : isWordChar c = true) : isInert c = true := by
  have hne := fun d (hd : isWordChar d = false) => ne_of_class h hd
  simp [isInert, opensPlaceholder, hne '?' (by decide), hne ':' (by decide), hne '@' (by decide),
    hne '$' (by decide), hne '\'' (by decide), hne '"' (by decide), hne '/' (by decide),
    hne '-' (by decide), hne '{' (by decide)]

theorem isInert_of_isDigit {c : Char} (h : c.isDigit = true) : isInert c = true :=
  isInert_of_isWordChar (isWordChar_of_isDigit h)

theorem isInert_of_isAsciiBlank {c : Char} (h : Text.isAsciiBlank c = true) : isInert c = true := by
  simp only [Text.isAsciiBlank, Bool.or_eq_true, beq_iff_eq] at h
  rcases h with (((rfl | rfl) | rfl) | rfl) | rfl <;> decide

/-- A line ends with the text or with a line break. -/
theorem isLineBreak_of_head? (text : List Char) :
    ∀ c ∈ (text.dropWhile fun c => !isLineBreak c).head?, isLineBreak c = true := by
  intro c hc
  have hnot := List.head?_dropWhile_not (fun c => !isLineBreak c) text
  rw [Option.mem_def.1 hc] at hnot
  simpa using hnot

/-- A line in front of a line break is read as a whole. -/
theorem lineOf_append (text out : List Char)
    (hout : ∀ c ∈ out.head?, isLineBreak c = true) :
    lineOf (lineOf text ++ out) = lineOf text ∧
      (lineOf text ++ out).dropWhile (fun c => !isLineBreak c) = out := by
  have hline : ∀ c ∈ lineOf text, (!isLineBreak c) = true := fun c hc =>
    List.mem_takeWhile_imp (p := fun c => !isLineBreak c) hc
  exact takeWhile_append_eq hline fun c hc => by rw [hout c hc, Bool.not_true]

namespace IsNativeName

variable {name : List Char}

theorem isQuiet (h : IsNativeName name) : ∀ c ∈ name, isQuiet c = true := by
  cases h with
  | mk hsigil _ hword =>
    intro c hc
    obtain rfl | hc := List.mem_cons.1 hc
    · rcases hsigil with rfl | rfl <;> decide
    · exact isQuiet_of_isWordChar (hword c hc)

theorem ne_nil (h : IsNativeName name) : name ≠ [] := by
  cases h
  simp

end IsNativeName

namespace Respells

variable {names : List (List Char)} {text out : List Char}

/-! ## What stands behind a piece begins as it did -/

/-- The texts begin alike, or both begin with a placeholder. -/
theorem head (h : Respells names text out) :
    out.head? = text.head? ∨ ∃ c d, text.head? = some c ∧ out.head? = some d ∧
      opensPlaceholder c = true ∧ (d = '@' ∨ d = '$') := by
  cases h with
  | nil => exact .inl rfl
  | plain => exact .inl rfl
  | @placeholder names name text after out p hscan hname _ _ =>
    right
    obtain ⟨sigil, word, hp, hsigil, -⟩ := Token.placeholder_text hscan
    have hsource := Token.scan?_source hscan
    rw [Token.source, hp] at hsource
    cases hname with
    | @mk first more hfirst _ _ =>
      refine ⟨sigil, first, ?_, rfl, hsigil, hfirst⟩
      rw [hsource]
      rfl
  | @verbatim names text body after out hscan _ =>
    left
    obtain ⟨c, more, hbody⟩ := List.exists_cons_of_ne_nil (Token.source_ne_nil_of_scan? hscan)
    rw [Token.source] at hbody
    rw [Token.scan?_source hscan, Token.source, hbody]
    rfl
  | @note names text body lineBreak after out hscan _ =>
    left
    obtain ⟨rest, rfl, hnote⟩ := Token.note_cases hscan
    cases hnote
    rfl

theorem head?_eq_some_iff {c : Char} (hc : opensPlaceholder c = false) (h : Respells names text out) :
    out.head? = some c ↔ text.head? = some c := by
  obtain heq | ⟨first, second, htext, hout, hfirst, hsecond⟩ := h.head
  · rw [heq]
  · have hsecond' : opensPlaceholder second = true := by rcases hsecond with rfl | rfl <;> rfl
    have hne : ∀ d, opensPlaceholder d = true → d ≠ c := by
      rintro d hd rfl
      rw [hc] at hd
      cases hd
    simp [htext, hout, hne first hfirst, hne second hsecond']

/-- A class that does not tell the characters apart that open placeholders begins only where it did. -/
theorem head?_false {p : Char → Bool} (hp : p ':' = p '?' ∧ p '@' = p '?' ∧ p '$' = p '?')
    (h : Respells names text out) (htext : ∀ c ∈ text.head?, p c = false) :
    ∀ c ∈ out.head?, p c = false := by
  obtain heq | ⟨first, second, hfirst, hout, hopens, hsecond⟩ := h.head
  · rwa [heq]
  · intro c hc
    rw [hout, Option.mem_def, Option.some.injEq] at hc
    subst hc
    have hopens' : opensPlaceholder second = true := by rcases hsecond with rfl | rfl <;> rfl
    rw [apply_of_opensPlaceholder hp hopens', ← apply_of_opensPlaceholder hp hopens]
    exact htext first hfirst

theorem eq_nil (h : Respells names [] out) : out = [] := by
  cases h with
  | nil => rfl
  | placeholder hscan | verbatim hscan | note hscan => cases hscan

/-- A character that begins no token is copied. -/
theorem of_isInert {c : Char} {rest : List Char} (hc : isInert c = true)
    (h : Respells names (c :: rest) out) : ∃ out', out = c :: out' ∧ Respells names rest out' := by
  have hnone := Token.scan?_of_isInert hc rest
  cases h with
  | plain _ h => exact ⟨_, rfl, h⟩
  | placeholder hscan | verbatim hscan | note hscan =>
    rw [hnone] at hscan
    cases hscan

/-- A run of such characters is copied. -/
theorem run {p : Char → Bool} (hp : ∀ c, p c = true → isInert c = true)
    (h : Respells names text out) :
    out.takeWhile p = text.takeWhile p ∧ Respells names (text.dropWhile p) (out.dropWhile p) := by
  have hopens : ∀ c, opensPlaceholder c = true → p c = false := by
    intro c hc
    by_contra hpc
    have hplain := opensPlaceholder_of_isInert (hp c (by simpa using hpc))
    rw [hc] at hplain
    cases hplain
  have hsame : p ':' = p '?' ∧ p '@' = p '?' ∧ p '$' = p '?' := by
    simp [hopens ':' rfl, hopens '?' rfl, hopens '@' rfl, hopens '$' rfl]
  induction text generalizing out with
  | nil =>
    obtain rfl := h.eq_nil
    exact ⟨rfl, h⟩
  | cons c rest ih =>
    cases hc : p c with
    | true =>
      obtain ⟨out', rfl, hrest⟩ := h.of_isInert (hp c hc)
      simpa [hc] using ih hrest
    | false =>
      have hout := h.head?_false hsame (by simpa using hc)
      cases out with
      | nil => simpa [hc] using h
      | cons d out => simpa [hc, hout d rfl] using h

/-- A word of such characters is copied. -/
theorem isPrefixOf? (word : List Char) (hword : ∀ c ∈ word, isInert c = true)
    (h : Respells names text out) :
    (word.isPrefixOf? text = none → word.isPrefixOf? out = none) ∧
      ∀ rest, word.isPrefixOf? text = some rest →
        ∃ out', word.isPrefixOf? out = some out' ∧ Respells names rest out' := by
  induction word generalizing text out with
  | nil => simpa using h
  | cons c word ih =>
    have hc : isInert c = true := hword c (by simp)
    have hplain : opensPlaceholder c = false := opensPlaceholder_of_isInert hc
    cases text with
    | nil => simp [h.eq_nil]
    | cons d rest =>
      rw [Text.isPrefixOf?_cons_cons]
      by_cases hcd : c = d
      · subst hcd
        obtain ⟨out', rfl, hrest⟩ := h.of_isInert hc
        simpa [Text.isPrefixOf?_cons_cons] using ih (fun e he => hword e (by simp [he])) hrest
      · have hhead := h.head?_eq_some_iff hplain
        cases out with
        | nil => simp [hcd]
        | cons e out =>
          have hne : c ≠ e := by
            rintro rfl
            have heq : d = c := by simpa using hhead
            exact hcd heq.symm
          simp [Text.isPrefixOf?_cons_cons, hcd, hne]

/-! ## Nothing closes that did not close before -/

theorem opensNoMore (h : Respells names text out) : OpensNoMore text out := by
  induction h with
  | nil => exact .nil
  | plain _ _ ih => exact ih.cons _
  | @placeholder names name text after out p hscan hname _ _ ih =>
    obtain ⟨sigil, word, hp, hsigil, hword⟩ := Token.placeholder_text hscan
    rw [Token.scan?_source hscan]
    refine ih.replace (fun c hc => ?_) hname.isQuiet hname.ne_nil
    rw [Token.source, hp] at hc
    obtain rfl | hc := List.mem_cons.1 hc
    · exact apply_of_opensPlaceholder (by decide) hsigil
    · exact isQuiet_of_isWordChar (hword c hc)
  | @verbatim names text body after out hscan _ ih =>
    rw [Token.scan?_source hscan]
    exact ih.append body
  | @note names text body lineBreak after out hscan _ ih =>
    rw [Token.scan?_source hscan, Token.source, List.append_assoc]
    exact (ih.newline (Token.isLineBreak_of_scan? hscan).2).append body

theorem template?_eq_none (h : Respells names text out) (hnone : Token.template? text = none) :
    Token.template? out = none := by
  have hword : ∀ c, isWordChar c = true → isInert c = true := fun c => isInert_of_isWordChar
  have hblank : ∀ c, Text.isAsciiBlank c = true → isInert c = true := fun c => isInert_of_isAsciiBlank
  have hifSeq := h.isPrefixOf? ifSeqWord (List.all_eq_true.1 (by decide))
  have hnext := h.isPrefixOf? nextWord (List.all_eq_true.1 (by decide))
  unfold Token.template? at hnone ⊢
  cases hfirst : ifSeqWord.isPrefixOf? text with
  | some rest =>
    obtain ⟨out', hout, hrest⟩ := hifSeq.2 rest hfirst
    have hbody := (hrest.run hblank).2
    simp only [hfirst] at hnone
    simp only [hout]
    split
    · rfl
    · next hdata =>
      rw [Option.map_eq_none_iff]
      apply hbody.opensNoMore.data
      split at hnone
      · next hempty =>
        -- where no data begins, none begins in the other text
        rw [List.isEmpty_iff, takeWhile_eq_nil_iff_head?] at hempty hdata
        exact absurd (hbody.head?_false (by decide) hempty) hdata
      · exact Option.map_eq_none_iff.1 hnone
  | none =>
    rw [hifSeq.1 hfirst]
    simp only [hfirst] at hnone
    cases hsecond : nextWord.isPrefixOf? text with
    | some rest =>
      obtain ⟨out', hout, hrest⟩ := hnext.2 rest hsecond
      have hname := (hrest.run hblank).2.run hword
      simp only [hsecond] at hnone
      simp only [hout, hname.1]
      split
      · rfl
      · next hne =>
        rw [if_neg hne, Option.map_eq_none_iff] at hnone
        rw [hname.2.opensNoMore.template hnone, Option.map_none]
    | none => rw [hnext.1 hsecond]

/-- **A character that begins no token begins none in front of the other text.** -/
theorem opensNothing {c : Char} {rest : List Char} (hnothing : Token.OpensNothing c rest)
    (h : Respells names rest out) : Token.OpensNothing c out where
  position hc := by
    have hdigits := (h.run (p := Char.isDigit) fun c => isInert_of_isDigit).1
    have hnone := hnothing.position hc
    simp only [Token.position?] at hnone ⊢
    rw [hdigits]
    split
    · rfl
    · next hsome =>
      rw [if_neg hsome] at hnone
      cases hnone
  cast hc hcolon := by
    obtain heq | ⟨first, second, -, hout, -, hsecond⟩ := h.head
    · exact hnothing.cast hc (heq.symm.trans hcolon)
    · rw [hout, Option.some.injEq] at hcolon
      subst hcolon
      rcases hsecond with h | h <;> cases h
  name hc := by
    rw [(h.run fun c => isInert_of_isWordChar).1]
    exact hnothing.name hc
  literal hc := by
    rw [← List.count_eq_zero, h.opensNoMore.quotes c hc, List.count_eq_zero]
    exact hnothing.literal hc
  comment hc hstar := by
    have htext := (h.head?_eq_some_iff (by decide)).1 hstar
    obtain ⟨rest', rfl⟩ := List.head?_eq_some_iff.1 htext
    obtain ⟨out', rfl, hrest⟩ := h.of_isInert (by decide)
    exact hrest.opensNoMore.comment (hnothing.comment hc rfl)
  note hc := by
    rw [ne_eq, h.head?_eq_some_iff (by decide)]
    exact hnothing.note hc
  line hc := by
    rw [ne_eq, h.head?_eq_some_iff (by decide)]
    exact hnothing.line hc
  template hc := h.template?_eq_none (hnothing.template hc)

theorem scan?_plain {c : Char} {rest : List Char} (hscan : Token.scan? (c :: rest) = none)
    (h : Respells names rest out) : Token.scan? (c :: out) = none :=
  Token.scan?_eq_none_iff.2 (h.opensNothing (Token.scan?_eq_none_iff.1 hscan))

/-! ## The tokens are found again -/

/-- A name is read as a whole. -/
theorem scan?_name {name after : List Char} (hname : IsNativeName name)
    (hafter : ∀ c ∈ after.head?, isWordChar c = false) (h : Respells names after out) :
    Token.scan? (name ++ out) = some (.placeholder (.name name), out) := by
  have hout : ∀ c ∈ out.head?, isWordChar c = false := h.head?_false (by decide) hafter
  cases hname with
  | @mk sigil word hsigil hne hword =>
    obtain ⟨htake, hdrop⟩ := takeWhile_append_eq hword hout
    have hname : Token.name? sigil (word ++ out) = some (.placeholder (.name (sigil :: word)), out) := by
      simp [Token.name?, htake, hdrop, hne]
    rcases hsigil with rfl | rfl <;> simpa [Token.scan?] using hname

/-- What follows a line begins with a line break. -/
theorem isLineBreak_head? {rest : List Char}
    (h : Respells names (rest.dropWhile fun c => !isLineBreak c) out) :
    ∀ c ∈ out.head?, isLineBreak c = true := by
  have hhead := h.head?_false (p := fun c => !isLineBreak c) (by decide)
    (by simpa using isLineBreak_of_head? rest)
  simpa using hhead

/-- A literal closes where it did. -/
theorem literal?_append {quote : Char} (hquote : quote = '\'' ∨ quote = '"') {rest : List Char} {n : Nat}
    (hn : Literal.closing? '\\' quote rest = some n) (h : Respells names (rest.drop n) out) :
    Token.literal? quote (rest.take n ++ out) = some (.verbatim (quote :: rest.take n), out) := by
  have hne : quote ≠ '\\' := by rcases hquote with rfl | rfl <;> decide
  have hplain : opensPlaceholder quote = false := by rcases hquote with rfl | rfl <;> rfl
  have hlength : (rest.take n).length = n := List.length_take_of_le (Literal.closing?_le hne hn)
  have hwhole : Literal.closing? '\\' quote (rest.take n ++ rest.drop n) =
      some (rest.take n).length := by
    rw [List.take_append_drop, hlength, hn]
  have hout := Literal.closing?_append_congr hne (h.head?_eq_some_iff hplain)
    (h.opensNoMore.quotes quote hquote) hwhole
  rw [Token.literal?, hout, Option.map_some, List.take_left, List.drop_left]

/-- **A token that is copied is found again.** -/
theorem scan?_verbatim {body after : List Char}
    (hscan : Token.scan? text = some (.verbatim body, after)) (h : Respells names after out) :
    Token.scan? (body ++ out) = some (.verbatim body, out) := by
  cases text with
  | nil => cases hscan
  | cons c rest =>
    obtain ⟨-, hscan⟩ | ⟨-, -, heq, -⟩ | ⟨-, hscan⟩ | ⟨hquote, hscan⟩ | ⟨-, -, inside, hclose, heq⟩ |
      ⟨-, -, hscan⟩ | ⟨-, hdash, heq, rfl⟩ | ⟨-, hscan⟩ := Token.scan?_cases hscan
    · obtain ⟨heq, -⟩ := Token.position?_eq_some hscan
      cases heq
    · cases heq
      simp [Token.scan?]
    · obtain ⟨heq, -⟩ := Token.name?_eq_some hscan
      cases heq
    · obtain ⟨n, hn, heq⟩ := Option.map_eq_some_iff.1 hscan
      cases heq
      have hliteral := literal?_append hquote hn h
      rcases hquote with rfl | rfl <;> simpa [Token.scan?] using hliteral
    · cases heq
      simp [Token.scan?, closeComment?_append hclose]
    · cases hscan
    · cases heq
      obtain ⟨rest', rfl⟩ := List.head?_eq_some_iff.1 hdash
      obtain ⟨hline, hrest⟩ := lineOf_append ('-' :: rest') out h.isLineBreak_head?
      have hbody : lineOf ('-' :: rest') = '-' :: lineOf rest' := rfl
      rw [hbody, List.cons_append] at hline hrest
      simp [Token.scan?, hbody, hline, hrest]
    · obtain ⟨gap, data, other, heq⟩ | ⟨gap, name, other, heq⟩ := Token.template?_cases hscan <;>
        cases heq

theorem scan?_note {body lineBreak after : List Char}
    (hscan : Token.scan? text = some (.note body lineBreak, after)) (out : List Char) :
    Token.scan? (body ++ '\n' :: out) = some (.note body ['\n'], out) := by
  obtain ⟨rest, rfl, hnote⟩ := Token.note_cases hscan
  cases hnote
  obtain ⟨hline, hrest⟩ := lineOf_append rest ('\n' :: out) (by simp [isLineBreak])
  simp [Token.scan?, Token.lineNote, hline, hrest, splitLineBreak]

/-- **The parameters of the new text are the names.** -/
theorem parameters_out (h : Respells names text out) :
    parameters (pieces out) = names.map fun name => .name (String.ofList name) := by
  induction h with
  | nil => rw [pieces_nil, parameters, List.map_nil]
  | plain hscan h ih =>
    rw [pieces_of_scan?_eq_none (h.scan?_plain hscan), parameters, ih]
    rfl
  | placeholder hscan hname hafter h ih =>
    rw [pieces_of_scan?_eq_some (h.scan?_name hname hafter), parameters, ih]
    rfl
  | verbatim hscan h ih =>
    rw [pieces_of_scan?_eq_some (h.scan?_verbatim hscan), parameters, ih]
    rfl
  | note hscan h ih =>
    rw [pieces_of_scan?_eq_some (scan?_note hscan _), parameters, ih]
    rfl

end Respells

end PortableSql
