import PortableSql.Proofs.Sql.ByteTokens
import PortableSql.Sql.Rendering

/-!
# Rendering by byte offsets

`renderFrom` goes through the bytes of a text with two cursors: where the next token may begin, and
up to where the text has been written. It renders what `renderSql` renders. The tokens that it stops
at and the gaps between them cover the text, and what is written is what they are rendered to, one
after the other.
-/
namespace PortableSql

open Text

/-- What is written for a token; `data` is what the data of a template was rendered to. -/
def Found.emit (dialect : Dialect) (mode : ParameterMode) (slots : SlotMap) (data : Rendered) :
    Found (List Char) → Rendered
  | .position text digits =>
    renderParameter dialect mode (.position (Decimal.value digits)) text slots
  | .name text => renderParameter dialect mode (.name (String.ofList text)) text slots
  | .verbatim => .copy [] slots
  | .note body => .copy (body ++ ['\n']) slots
  | .ifSeq _ other => data.inTemplate dialect other
  | .next sequence other => .written dialect (.next sequence other) slots

/-- A token ends behind its beginning. -/
theorem lt_of_tokenAt? {text : String} {idx stop : Nat} {token : Found (List Char)}
    (h : tokenAt? text idx = some (some (token, stop))) : idx < stop := by
  obtain ⟨rest, t, after, -, hscan, -, rfl⟩ := exists_scan_of_tokenAt? h
  obtain ⟨c, source, hsource⟩ := List.exists_cons_of_ne_nil (Token.source_ne_nil_of_scan? hscan)
  have hpos := Utf8.width_cons_pos c source
  rw [hsource]
  omega

theorem Token.eq_ifSeq_of_taken {t : Token} {data other : List Char}
    (h : t.taken = .ifSeq data other) : ∃ gap, t = .ifSeq gap data other := by
  match t with
  | .placeholder (.position _) => cases h
  | .placeholder (.name _) => cases h
  | .verbatim _ => cases h
  | .note _ _ => cases h
  | .ifSeq gap _ _ =>
    cases h
    exact ⟨gap, rfl⟩
  | .next _ _ _ => cases h

theorem Token.eq_verbatim_of_taken {t : Token} (h : t.taken = .verbatim) :
    ∃ body, t = .verbatim body := by
  match t with
  | .placeholder (.position _) => cases h
  | .placeholder (.name _) => cases h
  | .verbatim body => exact ⟨body, rfl⟩
  | .note _ _ => cases h
  | .ifSeq _ _ _ => cases h
  | .next _ _ _ => cases h

/-- The data of a template is shorter than the text. -/
theorem data_lt_of_tokenAt? {text : String} {idx stop : Nat} {data other : List Char}
    (h : tokenAt? text idx = some (some (.ifSeq data other, stop))) :
    (String.ofList data).utf8ByteSize < text.utf8ByteSize := by
  obtain ⟨rest, t, after, hreads, hscan, htoken, -⟩ := exists_scan_of_tokenAt? h
  obtain ⟨gap, rfl⟩ := t.eq_ifSeq_of_taken htoken.symm
  have hwidth := hreads.width_eq
  rw [Token.scan?_source hscan, Utf8.width_append, Token.width_source_ifSeq] at hwidth
  rw [Utf8.utf8ByteSize_eq_width, Utf8.utf8ByteSize_eq_width, String.toList_ofList, hwidth]
  omega

/-- Renders a text from `idx` on; what begins at `copied` has not been written yet. There is no
answer if a part of the text cannot be cut out. -/
def renderFrom (dialect : Dialect) (mode : ParameterMode) (text : String) (copied idx : Nat)
    (slots : SlotMap) : Option Rendered :=
  if _ : idx < text.utf8ByteSize then
    match _ : tokenAt? text idx with
    | none => none
    | some none => renderFrom dialect mode text copied (idx + 1) slots
    | some (some (.verbatim, stop)) => renderFrom dialect mode text copied stop slots
    | some (some (token, stop)) => do
      let gap ← Stretch.cut? text ⟨copied, idx⟩
      let data ← match _ : token with
        | .ifSeq data _ => renderFrom dialect mode (String.ofList data) 0 0 slots
        | _ => some (.copy [] slots)
      let shown := token.emit dialect mode slots data
      let rest ← renderFrom dialect mode text stop stop shown.slots
      return (Rendered.copy gap slots).append (shown.append rest)
  else (Stretch.cut? text ⟨copied, text.utf8ByteSize⟩).map (Rendered.copy · slots)
termination_by (text.utf8ByteSize, text.utf8ByteSize - idx)
decreasing_by
  · exact Prod.Lex.right _ (by omega)
  · have hlt := lt_of_tokenAt? ‹_›
    exact Prod.Lex.right _ (by omega)
  · have hlt := lt_of_tokenAt? ‹_›
    exact Prod.Lex.right _ (by omega)
  · subst token
    exact Prod.Lex.left _ _ (data_lt_of_tokenAt? ‹_›)

/-- What the data of a template is rendered to; other tokens have none. -/
def renderData (dialect : Dialect) (mode : ParameterMode) (slots : SlotMap) :
    Found (List Char) → Option Rendered
  | .ifSeq data _ => renderFrom dialect mode (String.ofList data) 0 0 slots
  | _ => some (.copy [] slots)

/-! ## One turn of the loop -/

variable {dialect : Dialect} {mode : ParameterMode} {text : String} {copied idx stop : Nat}
variable {slots : SlotMap} {token : Found (List Char)}

theorem renderFrom_end (h : text.utf8ByteSize ≤ idx) :
    renderFrom dialect mode text copied idx slots =
      (Stretch.cut? text ⟨copied, text.utf8ByteSize⟩).map (Rendered.copy · slots) := by
  rw [renderFrom, dif_neg (Nat.not_lt_of_le h)]

theorem renderFrom_of_none (hlt : idx < text.utf8ByteSize) (h : tokenAt? text idx = some none) :
    renderFrom dialect mode text copied idx slots =
      renderFrom dialect mode text copied (idx + 1) slots := by
  rw [renderFrom, dif_pos hlt]
  split <;> simp_all

theorem renderFrom_of_verbatim (hlt : idx < text.utf8ByteSize)
    (h : tokenAt? text idx = some (some (.verbatim, stop))) :
    renderFrom dialect mode text copied idx slots =
      renderFrom dialect mode text copied stop slots := by
  rw [renderFrom, dif_pos hlt]
  split <;> simp_all

theorem renderFrom_of_token (hlt : idx < text.utf8ByteSize)
    (h : tokenAt? text idx = some (some (token, stop))) (hne : token ≠ .verbatim) :
    renderFrom dialect mode text copied idx slots = do
      let gap ← Stretch.cut? text ⟨copied, idx⟩
      let data ← renderData dialect mode slots token
      let shown := token.emit dialect mode slots data
      let rest ← renderFrom dialect mode text stop stop shown.slots
      return (Rendered.copy gap slots).append (shown.append rest) := by
  rw [renderFrom, dif_pos hlt]
  cases token <;> split <;> simp_all
  all_goals
    obtain ⟨rfl, rfl⟩ := h
    rfl

/-! ## What is rendered -/

namespace Rendered

theorem copy_nil_append (r : Rendered) (slots : SlotMap) : (copy [] slots).append r = r := rfl

theorem copy_append_copy (first second : List Char) (slots slots' : SlotMap) (r : Rendered) :
    (copy first slots).append ((copy second slots').append r) =
      (copy (first ++ second) slots).append r := by
  simp [append, copy]

end Rendered

/-- The bytes of a character that begins no token are passed one by one. -/
theorem renderFrom_skip {n : Nat} (hle : idx + n ≤ text.utf8ByteSize)
    (h : ∀ k < n, tokenAt? text (idx + k) = some none) :
    renderFrom dialect mode text copied idx slots =
      renderFrom dialect mode text copied (idx + n) slots := by
  induction n with
  | zero => rfl
  | succ n ih =>
    rw [ih (by omega) fun k hk => h k (by omega),
      renderFrom_of_none (by omega) (h n (Nat.lt_succ_self n)), Nat.add_assoc]

theorem tokenAt?_of_plain {c : Char} {rest : List Char}
    (h : Utf8.Reads text.toList idx (c :: rest)) (hscan : Token.scan? (c :: rest) = none) {k : Nat}
    (hk : k < c.utf8Size) : tokenAt? text (idx + k) = some none := by
  by_cases hzero : k = 0
  · rw [hzero, Nat.add_zero, tokenAt?_of_reads h, hscan, Option.map_none]
  · have hlength := String.length_utf8EncodeChar c
    have hhigh : 128 ≤ c.toNat := by
      refine Nat.le_of_not_lt fun hlow => ?_
      have hsize := Utf8.utf8Size_ascii hlow
      omega
    have hlt : k < (String.utf8EncodeChar c).length := by omega
    have hbyte : (Utf8.bytesOf text.toList)[idx + k]? = some (String.utf8EncodeChar c)[k] := by
      rw [← List.getElem?_drop, h.drop, Utf8.bytesOf_cons, List.getElem?_append_left hlt,
        List.getElem?_eq_getElem hlt]
    exact tokenAt?_of_high hbyte (Utf8.high_of_mem_utf8EncodeChar hhigh _ (List.getElem_mem hlt))

/-- What is written for a token is what its piece is rendered to, if its data is. -/
theorem Token.exists_emit_eq {t : Token} (hne : t.taken ≠ .verbatim)
    (hdata : ∀ gap data other, t = .ifSeq gap data other →
      renderFrom dialect mode (String.ofList data) 0 0 slots =
        some (renderPieces dialect mode slots (pieces data))) :
    ∃ data, renderData dialect mode slots t.taken = some data ∧
      t.taken.emit dialect mode slots data = t.piece.render dialect mode slots := by
  match t with
  | .placeholder (.position _) => exact ⟨_, rfl, by rw [Token.piece, Piece.render]; rfl⟩
  | .placeholder (.name _) => exact ⟨_, rfl, by rw [Token.piece, Piece.render]; rfl⟩
  | .verbatim _ => exact absurd rfl hne
  | .note _ _ => exact ⟨_, rfl, by rw [Token.piece, Piece.render]; rfl⟩
  | .ifSeq gap data other =>
    exact ⟨_, hdata gap data other rfl, by rw [Token.piece, Piece.render]; rfl⟩
  | .next _ _ _ => exact ⟨_, rfl, by rw [Token.piece, Piece.render]; rfl⟩

/-! ## The loop goes through the pieces

`pending` are the characters that the loop has passed but not written, `rest` those before it.
-/

variable {pending rest after : List Char} {c : Char} {t : Token}

theorem renderFrom_nil (h : Utf8.Reads text.toList copied (pending ++ []))
    (hidx : idx = copied + Utf8.width pending) :
    renderFrom dialect mode text copied idx slots =
      some ((Rendered.copy pending slots).append
        (renderPieces dialect mode slots (pieces []))) := by
  have hwidth := h.width_eq
  rw [← Utf8.utf8ByteSize_eq_width, Utf8.width_append, Utf8.width_nil, Nat.add_zero] at hwidth
  rw [renderFrom_end (by omega), hwidth, Stretch.cut?_of_reads h, Option.map_some, pieces_nil,
    renderPieces]
  simp [Rendered.append, Rendered.copy]

/-- A character that begins no token is passed. -/
theorem renderFrom_plain (h : Utf8.Reads text.toList idx (c :: rest))
    (hscan : Token.scan? (c :: rest) = none)
    (hnext : renderFrom dialect mode text copied (idx + c.utf8Size) slots =
      some ((Rendered.copy (pending ++ [c]) slots).append
        (renderPieces dialect mode slots (pieces rest)))) :
    renderFrom dialect mode text copied idx slots =
      some ((Rendered.copy pending slots).append
        (renderPieces dialect mode slots (pieces (c :: rest)))) := by
  have hsize := h.width_eq
  rw [← Utf8.utf8ByteSize_eq_width, Utf8.width_cons] at hsize
  rw [renderFrom_skip (by omega) fun k hk => tokenAt?_of_plain h hscan hk, hnext,
    pieces_of_scan?_eq_none hscan, renderPieces, Piece.render, ← Rendered.copy_append_copy]
  rfl

theorem lt_size_of_scan? (h : Utf8.Reads text.toList idx rest)
    (hscan : Token.scan? rest = some (t, after)) : idx < text.utf8ByteSize := by
  have hstop := lt_of_tokenAt? (tokenAt?_of_scan? h hscan)
  have hsize := h.width_eq
  rw [← Utf8.utf8ByteSize_eq_width, Token.scan?_source hscan, Utf8.width_append] at hsize
  omega

/-- Any token but a verbatim one is written behind what was passed. -/
theorem renderFrom_token (h : Utf8.Reads text.toList copied (pending ++ rest))
    (hidx : idx = copied + Utf8.width pending) (hscan : Token.scan? rest = some (t, after))
    (hverbatim : t.taken ≠ .verbatim)
    (hdata : ∀ gap data other, t = .ifSeq gap data other →
      renderFrom dialect mode (String.ofList data) 0 0 slots =
        some (renderPieces dialect mode slots (pieces data)))
    (hrest : ∀ slots, renderFrom dialect mode text (idx + Utf8.width t.source)
      (idx + Utf8.width t.source) slots = some (renderPieces dialect mode slots (pieces after))) :
    renderFrom dialect mode text copied idx slots =
      some ((Rendered.copy pending slots).append
        (renderPieces dialect mode slots (pieces rest))) := by
  have hreads : Utf8.Reads text.toList idx rest := hidx ▸ h.append
  have htoken := tokenAt?_of_scan? hreads hscan
  obtain ⟨data, hrendered, hemit⟩ := Token.exists_emit_eq hverbatim hdata
  rw [pieces_of_scan?_eq_some hscan, renderPieces,
    renderFrom_of_token (lt_size_of_scan? hreads hscan) htoken hverbatim, hidx,
    Stretch.cut?_of_reads h, ← hidx, hrendered]
  simp only [Option.bind_eq_bind, Option.bind_some, hemit, hrest]
  rfl

/-- **The loop renders what is left of the text**, behind what it has passed. -/
theorem renderFrom_eq (h : Utf8.Reads text.toList copied (pending ++ rest))
    (hidx : idx = copied + Utf8.width pending) :
    renderFrom dialect mode text copied idx slots =
      some ((Rendered.copy pending slots).append
        (renderPieces dialect mode slots (pieces rest))) := by
  induction rest using Token.scan_induction generalizing text pending copied idx slots with
  | nil => exact renderFrom_nil h hidx
  | plain c rest hscan ih =>
    have hreads : Utf8.Reads text.toList idx (c :: rest) := hidx ▸ h.append
    refine renderFrom_plain hreads hscan (ih (by simpa using h) ?_)
    rw [Utf8.width_append, Utf8.width_cons, Utf8.width_nil, hidx]
    omega
  | token rest t after hscan hdata ih =>
    have hreads : Utf8.Reads text.toList idx rest := hidx ▸ h.append
    have hsource := Token.scan?_source hscan
    by_cases hverbatim : t.taken = .verbatim
    · obtain ⟨body, rfl⟩ := t.eq_verbatim_of_taken hverbatim
      have htoken := tokenAt?_of_scan? hreads hscan
      rw [renderFrom_of_verbatim (lt_size_of_scan? hreads hscan) htoken,
        pieces_of_scan?_eq_some hscan, renderPieces, Token.piece, Piece.render,
        Rendered.copy_append_copy]
      refine ih ?_ ?_
      · rw [hsource] at h
        simpa [Token.source] using h
      · rw [Utf8.width_append, hidx, Nat.add_assoc]
        rfl
    · refine renderFrom_token h hidx hscan hverbatim ?_ fun slots => ?_
      · -- the data is a text of its own, of which nothing has been passed
        intro gap data other hifSeq
        rw [← Rendered.copy_nil_append (renderPieces dialect mode slots (pieces data)) slots]
        exact hdata gap data other hifSeq ⟨[], by simp, rfl⟩ rfl
      · rw [← Rendered.copy_nil_append (renderPieces dialect mode slots (pieces after)) slots]
        rw [hsource] at hreads
        exact ih hreads.append rfl

/-- The loop over a whole text. -/
theorem renderFrom_zero (dialect : Dialect) (mode : ParameterMode) (text : String)
    (slots : SlotMap) :
    renderFrom dialect mode text 0 0 slots =
      some (renderPieces dialect mode slots (pieces text.toList)) := by
  rw [← Rendered.copy_nil_append (renderPieces dialect mode slots (pieces text.toList)) slots]
  exact renderFrom_eq (Utf8.Reads.zero text.toList) rfl

end PortableSql
