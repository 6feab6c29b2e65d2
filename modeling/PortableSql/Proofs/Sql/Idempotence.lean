import PortableSql.Postgres.Dialect
import PortableSql.Proofs.Sql.Renumbering
import PortableSql.Proofs.Sql.Respelling
import PortableSql.SqlServer.Dialect

/-!
# Rendered SQL is rendered to itself

The placeholders of PostgreSQL and SQL Server are portable placeholders too, by name. A rendered text is
the text respelled with them, so the scan finds the tokens at the same places when it is rendered again,
and the names take the slots that they are the names of.
-/
namespace PortableSql

/-- A template for keys. -/
def Piece.isTemplate : Piece → Bool
  | .ifSeq .. | .next .. => true
  | .plain _ | .placeholder _ | .verbatim _ | .note .. => false

/-- Pieces whose placeholders can be exchanged for names: there are no templates, and no placeholder by
position is followed by a character that would become part of a name. -/
structure Respellable (ps : List Piece) : Prop where
  noTemplate : ∀ piece ∈ ps, piece.isTemplate = false
  apart : ∀ (k : Nat) (digits : List Char) (c : Char), ps[k]? = some (.placeholder (.position digits)) →
    ps[k + 1]? = some (.plain c) → isWordChar c = false

/-- A dialect that writes a name of its slot for every parameter. -/
structure Dialect.WritesSlots (dialect : Dialect) (placeholder : Nat → List Char) : Prop where
  position : ∀ text slot, dialect.position text slot = placeholder slot
  name : ∀ text slot, dialect.name text slot = placeholder slot
  native : ∀ slot, IsNativeName (placeholder slot)
  different : ∀ m n, (Identifier.name (String.ofList (placeholder m))).same
    (.name (String.ofList (placeholder n))) = true → m = n

/-- A rendered text is rendered to itself. Its parameters are the placeholders of the slots, in order,
and stand in the places of these slots. -/
structure Dialect.Repeats (dialect : Dialect) (placeholder : Nat → List Char) (first : RenderedSql) :
    Prop where
  sql : (renderSql dialect ⟨false, true⟩ first.sql).sql = first.sql
  entries : (renderSql dialect ⟨false, true⟩ first.sql).slots.entries =
    first.slots.entries.mapIdx fun k entry =>
      (.name (String.ofList (placeholder (k + 1))), entry.2)
  nativeCount : (renderSql dialect ⟨false, true⟩ first.sql).slots.nativeCount = first.slots.nativeCount

theorem Respellable.tail {piece : Piece} {ps : List Piece} (h : Respellable (piece :: ps)) :
    Respellable ps where
  noTemplate other hother := h.noTemplate other (List.mem_cons_of_mem _ hother)
  apart k digits c := h.apart (k + 1) digits c

/-- Behind a placeholder by position no name goes on. -/
theorem Respellable.isWordChar_head? {digits after : List Char}
    (h : Respellable (.placeholder (.position digits) :: pieces after)) :
    ∀ c ∈ after.head?, isWordChar c = false := by
  intro c hc
  obtain ⟨rest, rfl⟩ := List.head?_eq_some_iff.1 hc
  by_contra hword
  rw [Bool.not_eq_false] at hword
  have hplain := Token.scan?_of_isInert (isInert_of_isWordChar hword) rest
  rw [pieces_of_scan?_eq_none hplain] at h
  rw [h.apart 0 digits c rfl rfl] at hword
  cases hword

namespace Dialect.WritesSlots

variable {dialect : Dialect} {placeholder : Nat → List Char} (hd : dialect.WritesSlots placeholder)

include hd

/-- A placeholder is rendered to that of its slot. -/
theorem renderPieces_placeholder (p : Placeholder) (ps : List Piece) (slots : SlotMap) :
    let next := slots.assign p.identifier true
    let rest := renderPieces dialect ⟨false, true⟩ next.2 ps
    let out := renderPieces dialect ⟨false, true⟩ slots (.placeholder p :: ps)
    out.text = placeholder next.1 ++ rest.text ∧
      out.placed = (p.identifier, next.1) :: rest.placed := by
  have hwrite : ∀ id text slot, dialect.write (.parameter id text slot) = placeholder slot := by
    intro id text slot
    cases id with
    | position n => exact hd.position text slot
    | name name => exact hd.name text slot
  intro next rest out
  have hout : out = (Rendered.written dialect (.parameter p.identifier p.text next.1) next.2).append
      rest := by
    simp only [out, rest, next, renderPieces, Piece.render, renderParameter]
    rfl
  rw [hout]
  exact ⟨congrArg (· ++ rest.text) (hwrite ..), rfl⟩

/-- **Rendering respells a text** with the placeholders of its slots. -/
theorem respells_renderPieces (text : List Char) (h : Respellable (pieces text)) (slots : SlotMap) :
    let out := renderPieces dialect ⟨false, true⟩ slots (pieces text)
    Respells (out.placed.map fun placement => placeholder placement.2) text out.text := by
  induction text using Token.scan_induction generalizing slots with
  | nil =>
    rw [pieces_nil]
    exact .nil
  | plain c rest hscan ih =>
    rw [pieces_of_scan?_eq_none hscan] at h ⊢
    exact .plain hscan (ih h.tail slots)
  | token text t after hscan _ ih =>
    rw [pieces_of_scan?_eq_some hscan] at h ⊢
    have hrest := ih h.tail
    cases t with
    | placeholder p =>
      have hafter : ∀ c ∈ after.head?, isWordChar c = false := by
        cases p with
        | position digits => exact h.isWordChar_head?
        | name name => exact Token.isWordChar_after_name hscan
      obtain ⟨htext, hplaced⟩ := hd.renderPieces_placeholder p (pieces after) slots
      simp only [Token.piece, htext, hplaced]
      exact .placeholder hscan (hd.native _) hafter (hrest _)
    | verbatim body => exact .verbatim hscan (hrest slots)
    | note body lineBreak =>
      have hnote := Respells.note hscan (hrest slots)
      rw [List.append_cons] at hnote
      exact hnote
    | ifSeq gap data other => cases h.noTemplate _ List.mem_cons_self
    | next gap name other => cases h.noTemplate _ List.mem_cons_self

/-- A respelled text is rendered to itself if the names are the placeholders of their slots. -/
theorem text_renderPieces {names : List (List Char)} {text out : List Char} (h : Respells names text out)
    (slots : SlotMap)
    (hnames : (renderPieces dialect ⟨false, true⟩ slots (pieces out)).placed.map
      (fun placement => placeholder placement.2) = names) :
    (renderPieces dialect ⟨false, true⟩ slots (pieces out)).text = out := by
  induction h generalizing slots with
  | nil =>
    rw [pieces_nil]
    rfl
  | plain hscan h ih =>
    rw [pieces_of_scan?_eq_none (h.scan?_plain hscan)] at hnames ⊢
    exact congrArg (List.cons _) (ih slots hnames)
  | @placeholder names name text after out p hscan hname hafter h ih =>
    rw [pieces_of_scan?_eq_some (h.scan?_name hname hafter), Token.piece] at hnames ⊢
    obtain ⟨htext, hplaced⟩ := hd.renderPieces_placeholder (.name name) (pieces out) slots
    rw [hplaced, List.map_cons, List.cons.injEq] at hnames
    rw [htext, hnames.1, ih _ hnames.2]
  | @verbatim names text body after out hscan h ih =>
    rw [pieces_of_scan?_eq_some (h.scan?_verbatim hscan)] at hnames ⊢
    exact congrArg (body ++ ·) (ih slots hnames)
  | @note names text body lineBreak after out hscan h ih =>
    rw [pieces_of_scan?_eq_some (Respells.scan?_note hscan _)] at hnames ⊢
    rw [List.append_cons]
    exact congrArg ((body ++ ['\n']) ++ ·) (ih slots hnames)

/-- **A rendered text is rendered to itself.** -/
theorem repeats (sql : String) (h : Respellable (pieces sql.toList)) :
    dialect.Repeats placeholder (renderSql dialect ⟨false, true⟩ sql) := by
  let first := renderSql dialect ⟨false, true⟩ sql
  let out := SlotMap.assignAll true (parameters (pieces sql.toList)) .empty
  let name : Nat → Identifier := fun slot => .name (String.ofList (placeholder slot))
  let text := (render dialect ⟨false, true⟩ sql.toList).text
  have hslots : first.slots = out.2 := slots_renderSql dialect true sql
  have hrespells : Respells (out.1.map fun placement => placeholder placement.2) sql.toList text := by
    rw [← placed_render dialect true sql.toList]
    exact hd.respells_renderPieces sql.toList h .empty
  have hids : parameters (pieces text) = out.1.map fun placement => name placement.2 := by
    rw [hrespells.parameters_out, List.map_map]
    rfl
  obtain ⟨hplaced, hcount, hentries⟩ := SlotMap.entries_renumbered hd.different
    (parameters (pieces sql.toList))
  rw [← hids] at hplaced hcount hentries
  have hslots' := slots_renderSql dialect true first.sql
  have hplaced' := placed_render dialect true text
  have hlist : first.sql.toList = text := String.toList_ofList
  rw [hlist] at hslots'
  constructor
  · have hnames : (render dialect ⟨false, true⟩ text).placed.map
        (fun placement => placeholder placement.2) = out.1.map fun placement =>
          placeholder placement.2 := by
      rw [hplaced', hplaced, renumber, List.map_map]
      rfl
    have htext := hd.text_renderPieces hrespells .empty hnames
    rw [renderSql, hlist]
    exact congrArg String.ofList htext
  · rw [hslots', hslots, hentries]
  · rw [hslots', hslots, hcount]

end Dialect.WritesSlots

/-! ## The dialects -/

theorem isWordChar_of_mem_digits {n : Nat} {c : Char} (h : c ∈ Text.Decimal.digits n) :
    isWordChar c = true :=
  isWordChar_of_isDigit (Text.Decimal.isDigit_of_mem_digits h)

/-- Names that end in the digits of different numbers are different. -/
theorem eq_of_same_name (before : List Char) (hbefore : ∀ c ∈ before, c.toNat < 128) {m n : Nat}
    (h : (Identifier.name (String.ofList (before ++ Text.Decimal.digits m))).same
      (.name (String.ofList (before ++ Text.Decimal.digits n))) = true) : m = n := by
  have hlower : ∀ n, Text.lowerAfter [] (before ++ Text.Decimal.digits n) =
      before.map Char.toLower ++ Text.Decimal.digits n := by
    intro n
    have hdigits : ∀ c ∈ Text.Decimal.digits n, c.isDigit = true := fun c =>
      Text.Decimal.isDigit_of_mem_digits
    rw [Text.lowerAfter_of_ascii, List.map_append]
    · congr 1
      refine (List.map_congr_left fun c hc => ?_).trans (List.map_id _)
      exact Text.toLower_of_isDigit (hdigits c hc)
    · intro c hc
      obtain hc | hc := List.mem_append.1 hc
      · exact hbefore c hc
      · by_contra hhigh
        have hnot := ByteScan.isDigit_of_high (Nat.le_of_not_lt hhigh)
        rw [hdigits c hc] at hnot
        cases hnot
  rw [Identifier.same_iff] at h
  simp only [Identifier.key_name, foldName, Text.lower, String.toList_ofList, hlower,
    Identifier.name.injEq] at h
  have hlist := String.ofList_injective h
  exact Text.Decimal.digits_injective (List.append_cancel_left hlist)

theorem Postgres.writesSlots : Postgres.dialect.WritesSlots Postgres.placeholder where
  position _ _ := rfl
  name _ _ := rfl
  native slot := by
    refine .mk (.inr rfl) (Text.Decimal.digits_ne_nil slot) ?_
    intro c hc
    exact isWordChar_of_mem_digits hc
  different _ _ h := eq_of_same_name ['$'] (by simp) h

theorem SqlServer.writesSlots : SqlServer.dialect.WritesSlots SqlServer.placeholder where
  position _ _ := rfl
  name _ _ := rfl
  native slot := by
    refine .mk (.inl rfl) (by simp) ?_
    intro c hc
    obtain rfl | hc := List.mem_cons.1 hc
    · decide
    · exact isWordChar_of_mem_digits hc
  different _ _ h := eq_of_same_name ['@', 'P'] (by simp) h

/-- **Rendering is idempotent**, for PostgreSQL and for SQL Server, on every text without templates in
which no placeholder by position is followed by a letter, a digit or an underscore. What was rendered is
rendered to itself, and its k-th parameter is the placeholder of slot k, at the places of the k-th
parameter of the text. -/
theorem rendering_idempotent (sql : String) (h : Respellable (pieces sql.toList)) :
    Postgres.dialect.Repeats Postgres.placeholder (renderSql Postgres.dialect ⟨false, true⟩ sql) ∧
      SqlServer.dialect.Repeats SqlServer.placeholder (renderSql SqlServer.dialect ⟨false, true⟩ sql) :=
  ⟨Postgres.writesSlots.repeats sql h, SqlServer.writesSlots.repeats sql h⟩

theorem rendering_idempotent_mixed :
    let sql := "?2,:b,?2"
    Respellable (pieces sql.toList) ∧
      (renderSql Postgres.dialect ⟨false, true⟩ sql).sql = "$1,$2,$1" ∧
      (renderSql SqlServer.dialect ⟨false, true⟩ sql).sql = "@P1,@P2,@P1" ∧
      Postgres.dialect.Repeats Postgres.placeholder (renderSql Postgres.dialect ⟨false, true⟩ sql) ∧
      SqlServer.dialect.Repeats SqlServer.placeholder
        (renderSql SqlServer.dialect ⟨false, true⟩ sql) := by
  have hpieces : pieces "?2,:b,?2".toList = [.placeholder (.position ['2']), .plain ',',
      .placeholder (.name [':', 'b']), .plain ',', .placeholder (.position ['2'])] := by
    with_unfolding_all rfl
  have hsql : Respellable (pieces "?2,:b,?2".toList) := by
    rw [hpieces]
    constructor
    · simp [Piece.isTemplate]
    · intro k digits c hk hc
      rcases k with _ | _ | _ | _ | k
      · obtain rfl : ',' = c := by simpa using hc
        decide
      · simp at hk
      · simp at hk
      · simp at hk
      · simp at hc
  exact ⟨hsql, by decide +kernel, by decide +kernel, rendering_idempotent _ hsql⟩

end PortableSql
