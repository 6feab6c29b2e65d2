import PortableSql.Proofs.Sql.ByteLoop

/-!
# Templates in templates

The data of an `{if_seq}` template is rendered as a text of its own, by the loop that has found the
template. It ends in front of the first closing brace, and a template is one only with its closing brace,
so no template is found in it, whatever opens there. Hence the loop is entered for the text and, while a
template of the text is written, once more for its data, but never from there.

`renderNested` is told beforehand how often the loop may be entered before one of its runs has ended, and
each run gets one turn for every byte and one to stop. It ends by these limits and not by what is found in
the text, and it has an answer for every text.

## Main statement

* `no_template_in_data` — no template is found in the data of another, and two runs of the loop at a time
  are enough for every text.
-/
namespace PortableSql

open Text

/-- The token is a template. -/
def Found.IsTemplate {α : Type} : Found α → Prop
  | ifSeq _ _ | next _ _ => True
  | _ => False

/-! ## Templates and their braces -/

namespace Token

/-- The closing brace is a part of a template. -/
theorem brace_mem_source {t : Token} (h : t.taken.IsTemplate) : '}' ∈ t.source := by
  match t with
  | .placeholder (.position _) => cases h
  | .placeholder (.name _) => cases h
  | .verbatim _ => cases h
  | .note _ _ => cases h
  | .ifSeq _ _ _ => simp [source]
  | .next _ _ _ => simp [source]

theorem template?_ifSeq {text gap data other after : List Char}
    (h : template? text = some (ifSeq gap data other, after)) :
    ∃ body : List Char, data = body.takeWhile fun c => c != ',' && c != '}' := by
  simp only [template?] at h
  split at h
  · split at h
    · cases h
    · obtain ⟨found, -, heq⟩ := Option.map_eq_some_iff.1 h
      cases heq
      exact ⟨_, rfl⟩
  · split at h
    · split at h
      · cases h
      · obtain ⟨found, -, heq⟩ := Option.map_eq_some_iff.1 h
        cases heq
    · cases h

/-- The data of a template ends in front of the first closing brace, if not before. -/
theorem brace_notMem_data {text gap data other after : List Char}
    (h : scan? text = some (ifSeq gap data other, after)) : '}' ∉ data := by
  cases text with
  | nil => cases h
  | cons c rest =>
    obtain ⟨-, h⟩ | ⟨-, -, h, -⟩ | ⟨-, h⟩ | ⟨-, h⟩ | ⟨-, -, inside, -, h⟩ | ⟨-, -, h⟩ |
      ⟨-, -, h, -⟩ | ⟨-, h⟩ := scan?_cases h
    · cases (position?_eq_some h).1
    · cases h
    · cases (name?_eq_some h).1
    · obtain ⟨n, h, -⟩ := literal?_eq_some h
      cases h
    · cases h
    · cases h
    · cases h
    · obtain ⟨body, rfl⟩ := template?_ifSeq h
      intro hmem
      have hall := List.all_takeWhile (p := fun c => c != ',' && c != '}') (l := body)
      simpa using List.all_eq_true.1 hall '}' hmem

end Token

theorem brace_notMem_of_tokenAt? {text : String} {idx stop : Nat} {data other : List Char}
    (h : tokenAt? text idx = some (some (.ifSeq data other, stop))) : '}' ∉ data := by
  obtain ⟨rest, t, after, -, hscan, htoken, -⟩ := exists_scan_of_tokenAt? h
  obtain ⟨gap, rfl⟩ := t.eq_ifSeq_of_taken htoken.symm
  exact Token.brace_notMem_data hscan

/-- **In a text without closing braces no template is found**, at no offset. -/
theorem not_isTemplate_of_brace_notMem {text : String} {idx stop : Nat} {token : Found (List Char)}
    (hbrace : '}' ∉ text.toList) (h : tokenAt? text idx = some (some (token, stop))) :
    ¬token.IsTemplate := by
  obtain ⟨rest, t, after, ⟨before, htext, -⟩, hscan, rfl, -⟩ := exists_scan_of_tokenAt? h
  intro htemplate
  refine hbrace ?_
  rw [htext, Token.scan?_source hscan]
  simp [Token.brace_mem_source htemplate]

/-! ## Pieces in pieces -/

mutual

/-- How many templates are open at a time in the piece, at most. -/
def Piece.nesting : Piece → Nat
  | .ifSeq _ data _ => nesting data + 1
  | _ => 0

/-- How many templates are open at a time in the pieces, at most. -/
def nesting : List Piece → Nat
  | [] => 0
  | p :: rest => max p.nesting (nesting rest)

end

/-- Only a template has anything open in its piece. -/
theorem Token.nesting_piece_le {t : Token} {n : Nat}
    (h : ∀ gap data other, t = .ifSeq gap data other → nesting (pieces data) < n) :
    t.piece.nesting ≤ n := by
  match t with
  | .placeholder _ | .verbatim _ | .note _ _ | .next _ _ _ => simp [piece, Piece.nesting]
  | .ifSeq gap data other =>
    rw [piece, Piece.nesting]
    exact h gap data other rfl

theorem nesting_pieces_of_scan?_eq_none {c : Char} {rest : List Char}
    (h : Token.scan? (c :: rest) = none) :
    nesting (pieces (c :: rest)) = nesting (pieces rest) := by
  rw [pieces_of_scan?_eq_none h, nesting]
  simp [Piece.nesting]

/-- In a text without closing braces no template is open. -/
theorem nesting_pieces_eq_zero {text : List Char} (h : '}' ∉ text) : nesting (pieces text) = 0 := by
  induction text using Token.scan_induction with
  | nil => rw [pieces_nil, nesting]
  | plain c rest hscan ih =>
    rw [nesting_pieces_of_scan?_eq_none hscan]
    exact ih fun hmem => h (List.mem_cons_of_mem c hmem)
  | token text t after hscan hdata ih =>
    rw [Token.scan?_source hscan] at h
    have hpiece : t.piece.nesting ≤ 0 := by
      refine Token.nesting_piece_le fun gap data other htemplate => ?_
      have hbrace : '}' ∈ t.source := Token.brace_mem_source (htemplate ▸ trivial)
      exact absurd (List.mem_append_left after hbrace) h
    have hafter := ih fun hmem => h (List.mem_append_right t.source hmem)
    rw [pieces_of_scan?_eq_some hscan, nesting]
    omega

/-- **Templates are cut one level deep.** -/
theorem nesting_pieces_le (text : List Char) : nesting (pieces text) ≤ 1 := by
  induction text using Token.scan_induction with
  | nil => simp [nesting]
  | plain c rest hscan ih => rwa [nesting_pieces_of_scan?_eq_none hscan]
  | token text t after hscan hdata ih =>
    have hpiece : t.piece.nesting ≤ 1 := by
      refine Token.nesting_piece_le ?_
      rintro gap data other rfl
      rw [nesting_pieces_eq_zero (Token.brace_notMem_data hscan)]
      exact Nat.one_pos
    rw [pieces_of_scan?_eq_some hscan, nesting]
    exact Nat.max_le.2 ⟨hpiece, ih⟩

/-! ## The loop with limits -/

/-- What the data of a template is rendered to by `inner`; other tokens have none. -/
def renderDataBy (inner : String → SlotMap → Option Rendered) (slots : SlotMap) :
    Found (List Char) → Option Rendered
  | .ifSeq data _ => inner (String.ofList data) slots
  | _ => some (.copy [] slots)

/-- Renders a text from `idx` on in at most `turns` turns; what begins at `copied` has not been written
yet. The data of templates is left to `inner`. -/
def renderTurns (dialect : Dialect) (mode : ParameterMode)
    (inner : String → SlotMap → Option Rendered) (text : String) :
    (turns copied idx : Nat) → SlotMap → Option Rendered
  | 0, _, _, _ => none
  | turns + 1, copied, idx, slots =>
    if idx < text.utf8ByteSize then
      match tokenAt? text idx with
      | none => none
      | some none => renderTurns dialect mode inner text turns copied (idx + 1) slots
      | some (some (.verbatim, stop)) => renderTurns dialect mode inner text turns copied stop slots
      | some (some (token, stop)) => do
        let gap ← Stretch.cut? text ⟨copied, idx⟩
        let data ← renderDataBy inner slots token
        let shown := token.emit dialect mode slots data
        let rest ← renderTurns dialect mode inner text turns stop stop shown.slots
        return (Rendered.copy gap slots).append (shown.append rest)
    else (Stretch.cut? text ⟨copied, text.utf8ByteSize⟩).map (Rendered.copy · slots)

/-- Renders a text while at most `runs` runs of the loop have begun and not ended. -/
def renderNested (dialect : Dialect) (mode : ParameterMode) :
    (runs : Nat) → String → SlotMap → Option Rendered
  | 0, _, _ => none
  | runs + 1, text, slots =>
    renderTurns dialect mode (renderNested dialect mode runs) text (text.utf8ByteSize + 1) 0 0 slots

variable {dialect : Dialect} {mode : ParameterMode} {text : String}
variable {inner : String → SlotMap → Option Rendered}

/-- The data of every template in the text is rendered by `inner` as the loop renders it. -/
def RendersData (dialect : Dialect) (mode : ParameterMode)
    (inner : String → SlotMap → Option Rendered) (text : String) : Prop :=
  ∀ idx data other stop, tokenAt? text idx = some (some (.ifSeq data other, stop)) →
    ∀ slots, inner (String.ofList data) slots =
      renderFrom dialect mode (String.ofList data) 0 0 slots

theorem RendersData.renderDataBy_eq (h : RendersData dialect mode inner text) {idx stop : Nat}
    {token : Found (List Char)} (htoken : tokenAt? text idx = some (some (token, stop)))
    (slots : SlotMap) : renderDataBy inner slots token = renderData dialect mode slots token := by
  match token with
  | .position _ _ | .name _ | .verbatim | .note _ | .next _ _ => rfl
  | .ifSeq data other => exact h idx data other stop htoken slots

/-- **A turn for every byte that is left, and one to stop, are enough.** -/
theorem renderTurns_eq (h : RendersData dialect mode inner text) {turns copied idx : Nat}
    (hturns : text.utf8ByteSize - idx < turns) (slots : SlotMap) :
    renderTurns dialect mode inner text turns copied idx slots =
      renderFrom dialect mode text copied idx slots := by
  induction turns generalizing copied idx slots with
  | zero => omega
  | succ turns ih =>
    rw [renderTurns]
    by_cases hlt : idx < text.utf8ByteSize
    · rw [if_pos hlt]
      have hsome := tokenAt?_isSome text idx
      cases hat : tokenAt? text idx with
      | none => simp [hat] at hsome
      | some found =>
        cases found with
        | none => rw [renderFrom_of_none hlt hat, ← ih (by omega)]
        | some found =>
          obtain ⟨token, stop⟩ := found
          -- every turn but the last one goes on behind the byte it began at
          have hstop := lt_of_tokenAt? hat
          have hmore : ∀ copied slots, renderTurns dialect mode inner text turns copied stop slots =
              renderFrom dialect mode text copied stop slots := fun _ slots => ih (by omega) slots
          by_cases hverbatim : token = .verbatim
          · subst hverbatim
            rw [renderFrom_of_verbatim hlt hat, ← hmore]
          · rw [renderFrom_of_token hlt hat hverbatim, ← h.renderDataBy_eq hat]
            simp only [← hmore]
    · rw [if_neg hlt, renderFrom_end (Nat.le_of_not_lt hlt)]

theorem renderNested_succ_eq {runs : Nat}
    (h : RendersData dialect mode (renderNested dialect mode runs) text) (slots : SlotMap) :
    renderNested dialect mode (runs + 1) text slots =
      some (renderPieces dialect mode slots (pieces text.toList)) := by
  rw [renderNested, renderTurns_eq h (by omega), renderFrom_zero]

/-- One run is enough for a text without closing braces, because it asks about no data. -/
theorem renderNested_one_eq (h : '}' ∉ text.toList) (slots : SlotMap) :
    renderNested dialect mode 1 text slots =
      some (renderPieces dialect mode slots (pieces text.toList)) :=
  renderNested_succ_eq (fun _ _ _ _ hat => absurd trivial (not_isTemplate_of_brace_notMem h hat)) slots

/-- Two runs are enough for every text. -/
theorem renderNested_two_eq (text : String) (slots : SlotMap) :
    renderNested dialect mode 2 text slots =
      some (renderPieces dialect mode slots (pieces text.toList)) := by
  refine renderNested_succ_eq (fun idx data other stop hat slots => ?_) slots
  have hbrace : '}' ∉ (String.ofList data).toList := by
    rw [String.toList_ofList]
    exact brace_notMem_of_tokenAt? hat
  rw [renderNested_one_eq hbrace, renderFrom_zero]

/-- **No template is found in the data of another.** Whatever braces a text has, the data of a template
that is found in it has no closing brace and is shorter than the text, no token that is found in the data
is a template, and one run of the loop renders it. So the pieces of a text are nested one level deep, and
the text is rendered by two runs of the loop at a time, each of which ends within a turn for every byte
and one more. -/
theorem no_template_in_data (sql : String) :
    (∀ idx data other stop, tokenAt? sql idx = some (some (.ifSeq data other, stop)) →
      '}' ∉ data ∧ (String.ofList data).utf8ByteSize < sql.utf8ByteSize ∧
      (∀ idx' token stop', tokenAt? (String.ofList data) idx' = some (some (token, stop')) →
        ¬token.IsTemplate) ∧
      ∀ dialect mode slots, renderNested dialect mode 1 (String.ofList data) slots =
        some (renderPieces dialect mode slots (pieces data))) ∧
    nesting (pieces sql.toList) ≤ 1 ∧
    ∀ dialect mode slots, renderNested dialect mode 2 sql slots =
      some (renderPieces dialect mode slots (pieces sql.toList)) := by
  refine ⟨fun idx data other stop h => ?_, nesting_pieces_le sql.toList,
    fun dialect mode slots => renderNested_two_eq sql slots⟩
  have hbrace := brace_notMem_of_tokenAt? h
  have hbrace' : '}' ∉ (String.ofList data).toList := by rwa [String.toList_ofList]
  refine ⟨hbrace, data_lt_of_tokenAt? h, fun _ _ _ => not_isTemplate_of_brace_notMem hbrace',
    fun dialect mode slots => ?_⟩
  rw [renderNested_one_eq hbrace', String.toList_ofList]

/-- The data goes on behind a quote and a line break and ends behind the beginning of another template,
of which the closing brace of the first one is no part. For this text one run is not enough. -/
theorem no_template_in_data_behind_line_break :
    let sql := "\x7bif_seq 'a\n\x7bnext b, :c\x7d"
    let data := "'a\n\x7bnext b".toList
    tokenAt? sql 0 = some (some (.ifSeq data ", :c".toList, 23)) ∧ '}' ∉ data ∧
      (∀ idx token stop, tokenAt? (String.ofList data) idx = some (some (token, stop)) →
        ¬token.IsTemplate) ∧
      ∀ dialect mode slots, renderNested dialect mode 1 sql slots = none := by
  intro sql data
  have hdata : tokenAt? sql 0 = some (some (.ifSeq data ", :c".toList, 23)) := by decide +kernel
  obtain ⟨hbrace, -, hnone, -⟩ := (no_template_in_data sql).1 0 data _ 23 hdata
  refine ⟨hdata, hbrace, hnone, fun dialect mode slots => ?_⟩
  rw [renderNested, renderTurns, if_pos (by decide), hdata]
  cases Stretch.cut? sql ⟨0, 0⟩ <;> rfl

end PortableSql
