import PortableSql.Proofs.Sql.Idempotence
import PortableSql.Sqlite.Dialect

/-!
# Texts with native parameters

A text with native parameters is copied: every piece of it but the templates comes out as it was
written, and a `//` comment ends with one newline. A dialect that writes placeholders as they are
written, as that of SQLite does, makes the same text of portable parameters, templates included.
-/
namespace PortableSql

/-- The piece with one newline where a `//` comment has its line break. -/
def Piece.newlineEnded : Piece → Piece
  | .note body _ => .note body ['\n']
  | piece => piece

/-- What is behind the line of a comment in front of these pieces: one line break, or nothing if the
text ends there. -/
def EndsLine (lineBreak : List Char) (behind : List Piece) : Prop :=
  lineBreak ∈ [['\n'], ['\r'], ['\r', '\n']] ∨ lineBreak = [] ∧ behind = []

/-! ## Comments -/

theorem splitLineBreak_cases {text : List Char} (h : ∀ c ∈ text.head?, isLineBreak c = true) :
    (splitLineBreak text).1 ∈ [['\n'], ['\r'], ['\r', '\n']] ∨ splitLineBreak text = ([], []) := by
  unfold splitLineBreak
  split
  · simp
  · next c rest _ =>
    have hc : isLineBreak c = true := h c rfl
    obtain rfl | rfl : c = '\n' ∨ c = '\r' := by simpa [isLineBreak] using hc
    · simp
    · simp
  · simp

theorem Token.endsLine_of_scan? {text body lineBreak after : List Char}
    (h : Token.scan? text = some (.note body lineBreak, after)) :
    EndsLine lineBreak (pieces after) := by
  obtain ⟨rest, rfl, hnote⟩ := Token.note_cases h
  have hhead : ∀ c ∈ (rest.dropWhile fun c => !isLineBreak c).head?, isLineBreak c = true := by
    intro c hc
    have hnot := List.head?_dropWhile_not (fun c => !isLineBreak c) rest
    rw [Option.mem_def.1 hc] at hnot
    simpa using hnot
  simp only [lineNote, Prod.mk.injEq, note.injEq] at hnote
  obtain ⟨⟨-, rfl⟩, rfl⟩ := hnote
  obtain hbreak | hend := splitLineBreak_cases hhead
  · exact .inl hbreak
  · rw [hend]
    exact .inr ⟨rfl, pieces_nil⟩

/-- **A comment of a text is a line of it**, with a line break behind it unless the text ends. -/
theorem endsLine_of_note (text : List Char) {body lineBreak : List Char} {behind : List Piece}
    (h : .note body lineBreak :: behind <:+ pieces text) :
    (∀ c ∈ body, isLineBreak c = false) ∧ EndsLine lineBreak behind := by
  induction text using Token.scan_induction with
  | nil =>
    rw [pieces_nil] at h
    cases List.suffix_nil.1 h
  | plain c rest hscan ih =>
    rw [pieces_of_scan?_eq_none hscan, List.suffix_cons_iff] at h
    obtain h | h := h
    · cases h
    · exact ih h
  | token text t after hscan _ ih =>
    rw [pieces_of_scan?_eq_some hscan, List.suffix_cons_iff] at h
    obtain h | h := h
    · obtain ⟨hpiece, rfl⟩ := List.cons.inj h
      cases t with
      | note body' lineBreak' =>
        cases hpiece
        exact ⟨(Token.isLineBreak_of_scan? hscan).1, Token.endsLine_of_scan? hscan⟩
      | _ => cases hpiece
    · exact ih h

/-! ## Native parameters -/

variable {dialect : Dialect}

theorem Piece.render_native {p : Piece} (h : p.isTemplate = false) (coalescing : Bool)
    (slots : SlotMap) :
    p.render dialect ⟨true, coalescing⟩ slots = .copy p.newlineEnded.source slots := by
  cases p with
  | placeholder p =>
    rw [Piece.render, renderParameter, if_pos rfl]
    rfl
  | ifSeq gap data other => cases h
  | next gap name other => cases h
  | plain c => rfl
  | verbatim text => rfl
  | note body lineBreak => rfl

/-- **With native parameters, pieces without templates are copied.** -/
theorem renderPieces_native {ps : List Piece} (h : ∀ piece ∈ ps, piece.isTemplate = false)
    (coalescing : Bool) (slots : SlotMap) :
    renderPieces dialect ⟨true, coalescing⟩ slots ps =
      .copy (sources (ps.map Piece.newlineEnded)) slots := by
  induction ps with
  | nil => rfl
  | cons p rest ih =>
    rw [renderPieces, Piece.render_native (h p (by simp)), Rendered.slots_copy,
      ih fun piece hpiece => h piece (by simp [hpiece]), List.map_cons, sources]
    rfl

/-! ## Placeholders as they are written -/

/-- A dialect that writes placeholders as they are written. -/
structure Dialect.KeepsPlaceholders (dialect : Dialect) : Prop where
  position : ∀ text slot, dialect.position text slot = text
  name : ∀ text slot, dialect.name text slot = text

theorem Sqlite.keepsPlaceholders : Sqlite.dialect.KeepsPlaceholders where
  position _ _ := rfl
  name _ _ := rfl

variable (mode mode' : ParameterMode)

theorem Dialect.KeepsPlaceholders.text_renderParameter (hd : dialect.KeepsPlaceholders)
    (id : Identifier) (text : List Char) (slots : SlotMap) :
    (renderParameter dialect mode id text slots).text = text := by
  rw [renderParameter]
  split
  · rfl
  · cases id with
    | position n => exact hd.position text _
    | name name => exact hd.name text _

mutual

theorem Piece.text_render_of_keeps (hd : dialect.KeepsPlaceholders) (slots slots' : SlotMap) :
    (p : Piece) → (p.render dialect mode slots).text = (p.render dialect mode' slots').text
  | .placeholder p => by
    rw [Piece.render, Piece.render, hd.text_renderParameter, hd.text_renderParameter]
  | .ifSeq _ data other => by
    rw [Piece.render, Piece.render, Rendered.inTemplate, Rendered.inTemplate,
      text_renderPieces_of_keeps hd slots slots' data]
  | .plain _ | .verbatim _ | .note _ _ | .next _ _ _ => by
    rw [Piece.render, Piece.render]
    rfl

/-- **What is made of a text does not depend on the slots of its parameters**, nor on whether it gives
out any. -/
theorem text_renderPieces_of_keeps (hd : dialect.KeepsPlaceholders) (slots slots' : SlotMap) :
    (ps : List Piece) →
      (renderPieces dialect mode slots ps).text = (renderPieces dialect mode' slots' ps).text
  | [] => by
    rw [renderPieces, renderPieces]
    rfl
  | p :: rest => by
    rw [renderPieces, renderPieces, Rendered.append, Rendered.append,
      p.text_render_of_keeps hd slots slots', text_renderPieces_of_keeps hd _ _ rest]

end

theorem Dialect.KeepsPlaceholders.sql_renderSql (hd : dialect.KeepsPlaceholders) (sql : String) :
    (renderSql dialect mode sql).sql = (renderSql dialect mode' sql).sql :=
  congrArg String.ofList (text_renderPieces_of_keeps mode mode' hd .empty .empty (pieces sql.toList))

/-- **Native parameters are passed through.** SQLite gets the same text whether parameters are portable
or native, with templates or without. A text without templates comes out with native parameters as it
is in every dialect, except that every `//` comment has one newline in the place of its line break, or
at the end of the text; no slots are given out. -/
theorem native_text_kept :
    (∀ (sql : String) (coalescing coalescing' : Bool),
      (renderSql Sqlite.dialect ⟨false, coalescing⟩ sql).sql =
        (renderSql Sqlite.dialect ⟨true, coalescing'⟩ sql).sql) ∧
    ∀ sql : String, (∀ piece ∈ pieces sql.toList, piece.isTemplate = false) →
      sql = String.ofList (sources (pieces sql.toList)) ∧
      (∀ body lineBreak behind, .note body lineBreak :: behind <:+ pieces sql.toList →
        (∀ c ∈ body, isLineBreak c = false) ∧ EndsLine lineBreak behind) ∧
      ∀ (dialect : Dialect) (coalescing : Bool),
        renderSql dialect ⟨true, coalescing⟩ sql =
          ⟨String.ofList (sources ((pieces sql.toList).map Piece.newlineEnded)), .empty⟩ := by
  constructor
  · intro sql coalescing coalescing'
    exact Sqlite.keepsPlaceholders.sql_renderSql _ _ sql
  · intro sql htemplates
    refine ⟨?_, fun body lineBreak behind => endsLine_of_note sql.toList, ?_⟩
    · rw [sources_pieces, String.ofList_toList]
    · intro dialect coalescing
      rw [renderSql, render, renderPieces_native htemplates]
      rfl

/-- Two comments, the second of which ends the text, beside a literal with slashes. -/
theorem native_text_kept_beside_comments :
    let sql := "?1//:a\r\n'//'//b"
    (∀ piece ∈ pieces sql.toList, piece.isTemplate = false) ∧
      renderSql Postgres.dialect ⟨true, true⟩ sql = ⟨"?1//:a\n'//'//b\n", .empty⟩ := by
  intro sql
  have htemplates : ∀ piece ∈ pieces sql.toList, piece.isTemplate = false := by decide +kernel
  have hkept := (native_text_kept.2 sql htemplates).2.2 Postgres.dialect true
  exact ⟨htemplates, hkept.trans (by decide +kernel)⟩

end PortableSql
