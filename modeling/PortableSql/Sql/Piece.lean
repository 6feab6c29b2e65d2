import PortableSql.Sql.Token

/-!
# Portable SQL in pieces

`pieces` cuts a text into single plain characters and the tokens between them; the data of an
`{if_seq}` template is cut into pieces itself. The sources of the pieces, one after the other, are
the text.
-/
namespace PortableSql

/-- A part of portable SQL. -/
inductive Piece where
  /-- A character that opens no token. -/
  | plain (c : Char)
  | placeholder (p : Placeholder)
  | verbatim (text : List Char)
  | note (body lineBreak : List Char)
  | ifSeq (gap : List Char) (data : List Piece) (other : List Char)
  | next (gap name other : List Char)

/-- The pieces of a text, in order. -/
def pieces (text : List Char) : List Piece :=
  match _ : Token.scan? text with
  | some (.ifSeq gap data other, after) => .ifSeq gap (pieces data) other :: pieces after
  | some (.placeholder p, after) => .placeholder p :: pieces after
  | some (.verbatim body, after) => .verbatim body :: pieces after
  | some (.note body lineBreak, after) => .note body lineBreak :: pieces after
  | some (.next gap name other, after) => .next gap name other :: pieces after
  | none =>
    match text with
    | [] => []
    | c :: rest => .plain c :: pieces rest
termination_by text.length
decreasing_by
  · exact Token.length_data_lt ‹_›
  all_goals first | exact Token.length_after_lt ‹_› | simp

mutual

/-- The characters that the piece was read from. -/
def Piece.source : Piece → List Char
  | .plain c => [c]
  | .placeholder p => p.text
  | .verbatim text => text
  | .note body lineBreak => body ++ lineBreak
  | .ifSeq gap data other => '{' :: (ifSeqWord ++ (gap ++ (sources data ++ (other ++ ['}']))))
  | .next gap name other => '{' :: (nextWord ++ (gap ++ (name ++ (other ++ ['}']))))

/-- The characters that the pieces were read from. -/
def sources : List Piece → List Char
  | [] => []
  | p :: rest => p.source ++ sources rest

end

/-- The piece that a token becomes. -/
def Token.piece : Token → Piece
  | .placeholder p => .placeholder p
  | .verbatim text => .verbatim text
  | .note body lineBreak => .note body lineBreak
  | .ifSeq gap data other => .ifSeq gap (pieces data) other
  | .next gap name other => .next gap name other

@[simp] theorem pieces_nil : pieces [] = [] := by
  rw [pieces]; simp [Token.scan?]

/-- A text that begins with a token is cut behind it. -/
theorem pieces_of_scan?_eq_some {text after : List Char} {t : Token}
    (h : Token.scan? text = some (t, after)) : pieces text = t.piece :: pieces after := by
  rw [pieces]
  split <;> simp_all
  all_goals rw [← h.1, Token.piece]

/-- A text that begins with no token is cut behind its first character. -/
theorem pieces_of_scan?_eq_none {c : Char} {rest : List Char} (h : Token.scan? (c :: rest) = none) :
    pieces (c :: rest) = .plain c :: pieces rest := by
  rw [pieces]; split <;> simp_all

/-- **The pieces make up the text**: every character is in exactly one of them, in order. -/
theorem sources_pieces (text : List Char) : sources (pieces text) = text := by
  induction text using Token.scan_induction with
  | nil => simp [sources]
  | plain c rest hscan ih =>
    rw [pieces_of_scan?_eq_none hscan]
    simp [sources, Piece.source, ih]
  | token text t after hscan hdata ih =>
    rw [pieces_of_scan?_eq_some hscan, sources, ih]
    conv => rhs; rw [Token.scan?_source hscan]
    congr 1
    cases t with
    | ifSeq gap data other =>
      simp [Token.piece, Piece.source, Token.source, hdata gap data other rfl]
    | _ => simp [Token.piece, Piece.source, Token.source]

end PortableSql
