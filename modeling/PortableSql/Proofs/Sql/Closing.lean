import PortableSql.Proofs.Sql.ByteTokens

/-!
# Where literals, comments and templates close

The mark that closes a literal, a block comment or a template is searched for in the text that follows
its opening, and a literal may go back to a mark that was passed. Such a search sees little of the text:
`OpensNoMore` says that whatever finds no closing mark in one text finds none in another.
-/
namespace PortableSql

/-! ## Literals -/

namespace Literal

variable {α : Type} [DecidableEq α] {escape quote : α}

/-- What holds of the empty body, and of a body if it holds behind its first step, holds of every body.
A step is a symbol that neither escapes nor closes, an escape with what it takes along, or a quote. -/
theorem closing_induction (escape quote : α) {motive : List α → Prop} (nil : motive [])
    (other : ∀ x rest, x ≠ escape → x ≠ quote → motive rest → motive (x :: rest))
    (alone : motive [escape]) (escaped : ∀ y rest, motive rest → motive (escape :: y :: rest))
    (closing : ∀ rest, motive rest.tail → motive (quote :: rest)) (body : List α) : motive body := by
  -- an escape and a quote look at two symbols at once
  induction h : body.length using Nat.strongRecOn generalizing body with
  | _ n ih =>
    subst h
    cases body with
    | nil => exact nil
    | cons x rest =>
      by_cases hescape : x = escape
      · subst hescape
        cases rest with
        | nil => exact alone
        | cons y rest =>
          refine escaped y rest (ih rest.length ?_ rest rfl)
          simp only [List.length_cons]
          omega
      · by_cases hquote : x = quote
        · subst hquote
          refine closing rest (ih rest.tail.length ?_ rest.tail rfl)
          simp only [List.length_tail, List.length_cons]
          omega
        · exact other x rest hescape hquote (ih rest.length (by simp) rest rfl)

open ByteScan

variable (hne : quote ≠ escape)

include hne

/-- Where no quote follows, the last one that was passed closes the literal. -/
theorem closingFrom_of_not_mem {body : List α} (h : quote ∉ body) (passed : Nat)
    (last : Option Nat) : closingFrom escape quote body passed last = last := by
  induction body using closing_induction escape quote generalizing passed last with
  | nil => rfl
  | other x rest hescape hquote ih =>
    rw [closingFrom_cons hescape hquote]
    exact ih (List.not_mem_of_not_mem_cons h) ..
  | alone => simp [closingFrom, hne.symm]
  | escaped y rest ih =>
    simp only [List.mem_cons, not_or] at h
    rw [closingFrom_escape, if_neg (Ne.symm h.2.1)]
    exact ih h.2.2 ..
  | closing rest => simp at h

/-- Where a quote follows, the literal closes behind what was passed. -/
theorem exists_closingFrom_of_mem {body : List α} (h : quote ∈ body) (passed : Nat)
    (last : Option Nat) : ∃ n, closingFrom escape quote body passed last = some n ∧ passed < n := by
  induction body using closing_induction escape quote generalizing passed last with
  | nil => simp at h
  | other x rest hescape hquote ih =>
    obtain ⟨n, hn, hlt⟩ := ih (List.mem_of_ne_of_mem (Ne.symm hquote) h) (passed + 1) last
    refine ⟨n, ?_, by omega⟩
    rw [closingFrom_cons hescape hquote, hn]
  | alone => simp [hne] at h
  | escaped y rest ih =>
    rw [closingFrom_escape]
    by_cases hrest : quote ∈ rest
    · obtain ⟨n, hn, hlt⟩ := ih hrest (passed + 2) (if y = quote then some (passed + 2) else last)
      exact ⟨n, hn, by omega⟩
    · obtain rfl : y = quote := by
        simp only [List.mem_cons, hne, hrest, or_false, false_or] at h
        exact h.symm
      rw [if_pos rfl, closingFrom_of_not_mem hne hrest]
      exact ⟨passed + 2, rfl, by omega⟩
  | closing rest ih =>
    rw [closingFrom_quote hne]
    split
    · by_cases hrest : quote ∈ rest.tail
      · obtain ⟨n, hn, hlt⟩ := ih hrest (passed + 2) (some (passed + 1))
        exact ⟨n, hn, by omega⟩
      · rw [closingFrom_of_not_mem hne hrest]
        exact ⟨passed + 1, rfl, by omega⟩
    · exact ⟨passed + 1, rfl, by omega⟩

/-- A quote opens nothing if no other one follows, and only then. -/
theorem closing?_eq_none_iff {body : List α} : closing? escape quote body = none ↔ quote ∉ body := by
  constructor
  · intro h hmem
    obtain ⟨n, hn, -⟩ := exists_closingFrom_of_mem hne hmem 0 none
    rw [closing?, hn] at h
    cases h
  · intro h
    exact closingFrom_of_not_mem hne h 0 none

/-- A search that goes back has seen no quote on its way. -/
theorem not_mem_of_closingFrom_le {body : List α} {passed n : Nat} {last : Option Nat}
    (h : closingFrom escape quote body passed last = some n) (hle : n ≤ passed) : quote ∉ body := by
  intro hmem
  obtain ⟨m, hm, hlt⟩ := exists_closingFrom_of_mem hne hmem passed last
  rw [hm, Option.some.injEq] at h
  omega

theorem le_of_closingFrom {body : List α} {passed n : Nat} {last : Option Nat}
    (hlast : ∀ m ∈ last, m ≤ passed) (h : closingFrom escape quote body passed last = some n) :
    n ≤ passed + body.length := by
  induction body using closing_induction escape quote generalizing passed last with
  | nil => exact hlast n h
  | other x rest hescape hquote ih =>
    rw [closingFrom_cons hescape hquote] at h
    have hle := ih (fun m hm => Nat.le_succ_of_le (hlast m hm)) h
    simp only [List.length_cons]
    omega
  | alone =>
    have hle := hlast n (by simpa [closingFrom, hne.symm] using h)
    omega
  | escaped y rest ih =>
    rw [closingFrom_escape] at h
    have hle := ih (fun m hm => ?_) h
    · simp only [List.length_cons]
      omega
    · split at hm
      · simp at hm
        omega
      · have := hlast m hm
        omega
  | closing rest ih =>
    rw [closingFrom_quote hne] at h
    split at h
    · next hquote =>
      obtain ⟨rest, rfl⟩ := List.head?_eq_some_iff.1 hquote
      have hle := ih (by simp) h
      simp only [List.tail_cons, List.length_cons] at hle ⊢
      omega
    · simp only [Option.some.injEq] at h
      simp only [List.length_cons]
      omega

/-- A literal ends within the text. -/
theorem closing?_le {body : List α} {n : Nat} (h : closing? escape quote body = some n) :
    n ≤ body.length := by
  have hle := le_of_closingFrom hne (by simp) h
  omega

/-- **What follows a literal decides little about where it closes**: whether a quote comes next, and
how many come at all. -/
theorem closingFrom_append_congr {after after' : List α}
    (hhead : after'.head? = some quote ↔ after.head? = some quote)
    (hcount : after'.count quote = after.count quote) (body : List α) {passed : Nat}
    {last : Option Nat} (hlast : ∀ m ∈ last, m ≤ passed)
    (h : closingFrom escape quote (body ++ after) passed last = some (passed + body.length)) :
    closingFrom escape quote (body ++ after') passed last = some (passed + body.length) := by
  have hmem : quote ∉ after → quote ∉ after' := by
    simp only [← List.count_eq_zero, hcount, imp_self]
  have htail : after.head? = some quote → quote ∉ after.tail → quote ∉ after'.tail := by
    intro hquote
    obtain ⟨rest, rfl⟩ := List.head?_eq_some_iff.1 hquote
    obtain ⟨rest', rfl⟩ := List.head?_eq_some_iff.1 (hhead.2 hquote)
    rw [List.count_cons_self, List.count_cons_self] at hcount
    simp only [List.tail_cons, ← List.count_eq_zero]
    omega
  induction body using closing_induction escape quote generalizing passed last with
  | nil =>
    rw [List.nil_append] at h ⊢
    have hnot := not_mem_of_closingFrom_le hne h (Nat.le_refl passed)
    rw [closingFrom_of_not_mem hne hnot] at h
    rw [closingFrom_of_not_mem hne (hmem hnot), h]
  | other x rest hescape hquote ih =>
    rw [List.cons_append, closingFrom_cons hescape hquote] at h ⊢
    have hlength : passed + (x :: rest).length = passed + 1 + rest.length := by
      simp only [List.length_cons]
      omega
    rw [hlength] at h ⊢
    refine ih (fun m hm => ?_) h
    have := hlast m hm
    omega
  | alone =>
    -- an escape takes along what follows, so nothing ends with it
    exfalso
    cases after with
    | nil =>
      have hend : last = some (passed + 1) := by simpa [closingFrom, hne.symm] using h
      have := hlast _ hend
      omega
    | cons y rest =>
      rw [List.singleton_append, closingFrom_escape] at h
      have hnot := not_mem_of_closingFrom_le hne h (by simp)
      rw [closingFrom_of_not_mem hne hnot] at h
      split at h
      · simp at h
      · have := hlast _ h
        simp only [List.length_singleton] at this
        omega
  | escaped y rest ih =>
    rw [List.cons_append, List.cons_append, closingFrom_escape] at h ⊢
    have hlength : passed + (escape :: y :: rest).length = passed + 2 + rest.length := by
      simp only [List.length_cons]
      omega
    rw [hlength] at h ⊢
    refine ih (fun m hm => ?_) h
    split at hm
    · simp at hm
      omega
    · have := hlast m hm
      omega
  | closing rest ih =>
    rw [List.cons_append, closingFrom_quote hne] at h ⊢
    cases rest with
    | nil =>
      simp only [List.nil_append, hhead] at h ⊢
      split
      · next hquote =>
        rw [if_pos hquote] at h
        have hnot := not_mem_of_closingFrom_le hne h (by simp)
        rw [closingFrom_of_not_mem hne (htail hquote hnot)]
        rfl
      · rfl
    | cons y rest =>
      simp only [List.cons_append, List.head?_cons, List.tail_cons, Option.some.injEq] at h ⊢
      split
      · next hquote =>
        rw [if_pos hquote] at h
        have hlength : passed + (quote :: y :: rest).length = passed + 2 + rest.length := by
          simp only [List.length_cons]
          omega
        rw [hlength] at h ⊢
        exact ih (by simp) h
      · next hquote =>
        rw [if_neg hquote] at h
        simp at h

/-- **A literal closes where it did** if what follows has as many quotes, and one in front if there was
one. -/
theorem closing?_append_congr {after after' body : List α}
    (hhead : after'.head? = some quote ↔ after.head? = some quote)
    (hcount : after'.count quote = after.count quote)
    (h : closing? escape quote (body ++ after) = some body.length) :
    closing? escape quote (body ++ after') = some body.length := by
  rw [closing?, ← Nat.zero_add body.length] at h ⊢
  exact closingFrom_append_congr hne hhead hcount body (by simp) h

end Literal

/-! ## Comments -/

theorem closeComment?_ne_nil {text inside after : List Char}
    (h : closeComment? text = some (inside, after)) : inside ≠ [] := by
  rintro rfl
  cases text with
  | nil => cases h
  | cons c rest =>
    rw [closeComment?] at h
    split at h
    · cases h
    · simp at h

/-- A comment keeps the mark that closes it, whatever follows. -/
theorem closeComment?_append {text inside after : List Char}
    (h : closeComment? text = some (inside, after)) (after' : List Char) :
    closeComment? (inside ++ after') = some (inside, after') := by
  induction text generalizing inside with
  | nil => cases h
  | cons c rest ih =>
    rw [closeComment?] at h
    split at h
    · next hclose =>
      cases h
      simp [closeComment?, hclose.1]
    · next hopen =>
      obtain ⟨⟨more, after''⟩, hrest, heq⟩ := Option.map_eq_some_iff.1 h
      cases heq
      obtain ⟨d, more, rfl⟩ := List.exists_cons_of_ne_nil (closeComment?_ne_nil hrest)
      rw [closeComment?_source hrest, List.cons_append, List.head?_cons] at hopen
      have hmore := ih hrest
      rw [List.cons_append] at hmore
      rw [List.cons_append, List.cons_append, closeComment?, List.head?_cons, if_neg hopen, hmore]
      rfl

theorem closeComment?_cons_eq_none {c : Char} {rest : List Char} :
    closeComment? (c :: rest) = none ↔
      ¬(c = '*' ∧ rest.head? = some '/') ∧ closeComment? rest = none := by
  rw [closeComment?]
  split
  · next hclose => simp [hclose]
  · next hopen => simp [hopen]

/-- Without an asterisk there is nothing that closes a comment. -/
theorem closeComment?_skip {part : List Char} (h : ∀ c ∈ part, c ≠ '*') (rest : List Char) :
    closeComment? (part ++ rest) = none ↔ closeComment? rest = none := by
  induction part with
  | nil => rfl
  | cons c part ih =>
    rw [List.cons_append, closeComment?_cons_eq_none, ih fun d hd => h d (by simp [hd])]
    simp [h c (by simp)]

/-! ## Templates -/

theorem closeTemplate?_eq_none {text : List Char} :
    closeTemplate? text = none ↔
      (text.dropWhile fun c => !isLineBreak c && c != '}').head? ≠ some '}' := by
  rw [closeTemplate?]
  cases text.dropWhile fun c => !isLineBreak c && c != '}' with
  | nil => simp
  | cons c rest => by_cases hc : c = '}' <;> simp [hc]

/-- A template is closed by a brace on the same line. -/
theorem closeTemplate?_cons_eq_none {c : Char} {rest : List Char} :
    closeTemplate? (c :: rest) = none ↔
      isLineBreak c = true ∨ c ≠ '}' ∧ closeTemplate? rest = none := by
  rw [closeTemplate?_eq_none, closeTemplate?_eq_none, List.dropWhile_cons]
  by_cases hbreak : isLineBreak c = true
  · have hbrace : c ≠ '}' := by
      rintro rfl
      cases hbreak
    simp [hbreak, hbrace]
  · by_cases hbrace : c = '}'
    · simp [hbrace, isLineBreak]
    · simp [hbreak, hbrace]

theorem closeTemplate?_skip {part : List Char} (h : ∀ c ∈ part, isLineBreak c = false ∧ c ≠ '}')
    (rest : List Char) : closeTemplate? (part ++ rest) = none ↔ closeTemplate? rest = none := by
  induction part with
  | nil => rfl
  | cons c part ih =>
    rw [List.cons_append, closeTemplate?_cons_eq_none, ih fun d hd => h d (by simp [hd])]
    simp [h c (by simp)]

/-- The data of a template may go on over several lines. -/
theorem closeData?_cons_eq_none {c : Char} {rest : List Char} :
    closeTemplate? ((c :: rest).dropWhile fun c => c != ',' && c != '}') = none ↔
      c ≠ '}' ∧ if c = ',' then closeTemplate? rest = none
        else closeTemplate? (rest.dropWhile fun c => c != ',' && c != '}') = none := by
  rw [List.dropWhile_cons]
  by_cases hcomma : c = ','
  · simp [hcomma, closeTemplate?_cons_eq_none, isLineBreak]
  · by_cases hbrace : c = '}'
    · simp [hbrace, closeTemplate?_cons_eq_none, isLineBreak]
    · simp [hcomma, hbrace]

theorem closeData?_skip {part : List Char} (h : ∀ c ∈ part, c ≠ ',' ∧ c ≠ '}') (rest : List Char) :
    closeTemplate? ((part ++ rest).dropWhile fun c => c != ',' && c != '}') = none ↔
      closeTemplate? (rest.dropWhile fun c => c != ',' && c != '}') = none := by
  rw [List.dropWhile_append_of_pos]
  intro c hc
  simp [h c hc]

/-! ## Texts that leave open what another text leaves open -/

/-- What has no closing mark in `text` has none in `out`. -/
structure OpensNoMore (text out : List Char) : Prop where
  /-- There are as many quotes of either kind. -/
  quotes : ∀ quote, quote = '\'' ∨ quote = '"' → out.count quote = text.count quote
  slash : out.head? = some '/' → text.head? = some '/'
  comment : closeComment? text = none → closeComment? out = none
  template : closeTemplate? text = none → closeTemplate? out = none
  data : closeTemplate? (text.dropWhile fun c => c != ',' && c != '}') = none →
    closeTemplate? (out.dropWhile fun c => c != ',' && c != '}') = none

/-- Characters that close nothing and end no line. -/
def isQuiet (c : Char) : Bool :=
  c != '\'' && c != '"' && c != '*' && c != '/' && c != ',' && c != '}' && !isLineBreak c

theorem ne_of_class {p : Char → Bool} {c d : Char} (h : p c = true) (hd : p d = false) : c ≠ d := by
  rintro rfl
  rw [h] at hd
  cases hd

theorem isLineBreak_of_isQuiet {c : Char} (h : isQuiet c = true) : isLineBreak c = false := by
  cases hc : isLineBreak c with
  | false => rfl
  | true => simp [isQuiet, hc] at h

namespace OpensNoMore

variable {text out : List Char}

theorem nil : OpensNoMore [] [] := ⟨fun _ _ => rfl, id, id, id, id⟩

/-- A character in front of both changes nothing. -/
theorem cons (h : OpensNoMore text out) (c : Char) : OpensNoMore (c :: text) (c :: out) where
  quotes quote hquote := by rw [List.count_cons, List.count_cons, h.quotes quote hquote]
  slash := id
  comment := by
    simp only [closeComment?_cons_eq_none]
    rintro ⟨hopen, hrest⟩
    exact ⟨fun hclose => hopen ⟨hclose.1, h.slash hclose.2⟩, h.comment hrest⟩
  template := by
    simp only [closeTemplate?_cons_eq_none]
    exact Or.imp_right fun hrest => ⟨hrest.1, h.template hrest.2⟩
  data := by
    simp only [closeData?_cons_eq_none]
    rintro ⟨hbrace, hrest⟩
    refine ⟨hbrace, ?_⟩
    split
    · next hcomma => exact h.template (by simpa [hcomma] using hrest)
    · next hcomma => exact h.data (by simpa [hcomma] using hrest)

theorem append (h : OpensNoMore text out) (part : List Char) :
    OpensNoMore (part ++ text) (part ++ out) := by
  induction part with
  | nil => exact h
  | cons c part ih => exact ih.cons c

/-- Quiet characters may be replaced by others. -/
theorem replace (h : OpensNoMore text out) {part part' : List Char}
    (hpart : ∀ c ∈ part, isQuiet c = true) (hpart' : ∀ c ∈ part', isQuiet c = true)
    (hne : part' ≠ []) : OpensNoMore (part ++ text) (part' ++ out) where
  quotes quote hquote := by
    have hloud : isQuiet quote = false := by rcases hquote with rfl | rfl <;> decide
    have hnone : ∀ quiet : List Char, (∀ c ∈ quiet, isQuiet c = true) → quiet.count quote = 0 := by
      intro quiet hquiet
      refine List.count_eq_zero.2 fun hmem => ?_
      exact ne_of_class (hquiet quote hmem) hloud rfl
    rw [List.count_append, List.count_append, hnone part hpart, hnone part' hpart',
      h.quotes quote hquote]
  slash hslash := by
    obtain ⟨c, more, rfl⟩ := List.exists_cons_of_ne_nil hne
    have hc : c = '/' := by simpa using hslash
    exact absurd hc (ne_of_class (hpart' c (by simp)) (by decide))
  comment := by
    rw [closeComment?_skip fun c hc => ne_of_class (hpart c hc) (by decide),
      closeComment?_skip fun c hc => ne_of_class (hpart' c hc) (by decide)]
    exact h.comment
  template := by
    have hskip : ∀ c, isQuiet c = true → isLineBreak c = false ∧ c ≠ '}' := fun c hc =>
      ⟨isLineBreak_of_isQuiet hc, ne_of_class hc (by decide)⟩
    rw [closeTemplate?_skip fun c hc => hskip c (hpart c hc),
      closeTemplate?_skip fun c hc => hskip c (hpart' c hc)]
    exact h.template
  data := by
    have hskip : ∀ c, isQuiet c = true → c ≠ ',' ∧ c ≠ '}' := fun c hc =>
      ⟨ne_of_class hc (by decide), ne_of_class hc (by decide)⟩
    rw [closeData?_skip fun c hc => hskip c (hpart c hc),
      closeData?_skip fun c hc => hskip c (hpart' c hc)]
    exact h.data

/-- A line break may be replaced by a newline, and a newline may be added. -/
theorem newline (h : OpensNoMore text out) {lineBreak : List Char}
    (hbreak : ∀ c ∈ lineBreak, isLineBreak c = true) :
    OpensNoMore (lineBreak ++ text) ('\n' :: out) where
  quotes quote hquote := by
    have hnone : lineBreak.count quote = 0 := by
      refine List.count_eq_zero.2 fun hmem => ?_
      have hline := hbreak quote hmem
      rcases hquote with rfl | rfl <;> cases hline
    have hne : '\n' ≠ quote := by rcases hquote with rfl | rfl <;> decide
    rw [List.count_append, hnone, List.count_cons_of_ne hne, h.quotes quote hquote, Nat.zero_add]
  slash hslash := by simp at hslash
  comment := by
    rw [closeComment?_skip fun c hc => ?_, closeComment?_cons_eq_none]
    · intro hrest
      exact ⟨by simp, h.comment hrest⟩
    · rintro rfl
      cases hbreak _ hc
  template _ := closeTemplate?_cons_eq_none.2 (.inl rfl)
  data := by
    rw [closeData?_skip fun c hc => ?_, closeData?_cons_eq_none]
    · intro hrest
      exact ⟨by decide, h.data hrest⟩
    · have hline := hbreak c hc
      constructor <;> rintro rfl <;> cases hline

end OpensNoMore

end PortableSql
