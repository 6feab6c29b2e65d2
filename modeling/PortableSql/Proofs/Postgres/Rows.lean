import PortableSql.Postgres.Statement
import PortableSql.Proofs.Statement.Binding
import PortableSql.Proofs.Statement.Browsing

/-!
# Rows of a PostgreSQL statement

A successful execution leaves a statement before the first row of the server's answer. From then on
the calls that are not for another execution move the cursor by fetching only; the rest of what they
change is the index of columns and the parameters. What is read behind a fetch is read from its row,
at the position that the server's names give a column.
-/
namespace PortableSql.Postgres

/-- The rows of an answer: a text without columns has none. -/
def Prepared.rowsOf (prepared : Prepared) (completed : Completed) : List Cells :=
  if prepared.columns.isEmpty then [] else completed.rows

/-- The bytes of a column of a row, with its position. -/
def readCell (names : List String) (row : Cells) (column : Identifier) :
    Result (Nat × Option Bytes) := do
  let position ← columnPosition names column
  let cell ← row.raw position
  pure (position, cell)

/-- A value in the bytes of a column; nothing for NULL. -/
def valueOf (types : List ValueType) (kind : ValueKind) : Nat × Option Bytes → Result (Option Value)
  | (_, none) => .ok none
  | (position, some bytes) =>
    (decodeBytes ((OneBased.get? types position).getD .any) kind bytes).map some

/-- A column of a row as a value; nothing for NULL. -/
def readColumn (names : List String) (types : List ValueType) (row : Cells) (column : Identifier)
    (kind : ValueKind) : Result (Option Value) :=
  readCell names row column >>= valueOf types kind

/-- A column of a row is NULL. -/
def readNull (names : List String) (row : Cells) (column : Identifier) : Result Bool :=
  (readCell names row column).map fun cell => cell.2.isNone

namespace Statement

variable {σ : Type} {server : Link σ} {s t : Statement} {link link' : σ}

/-- What the statement keeps of its rows. -/
def cursor (s : Statement) : Cursor Cells := ⟨s.rows, s.current?, s.state⟩

/-! ## Between two executions -/

/-- The parts that change, and the statement without them. -/
def parts (s : Statement) : StatementParts Cells Cells Statement where
  cursor := s.cursor
  columns := s.columns
  params := s.params
  frame := { s with
    rows := [], current? := none, state := .undefined, columns := .empty, params := [] }

/-- The statement with other parameters. -/
def withParams (s : Statement) (params : Cells) : Statement :=
  { s with params := params }

/-- The type that the server reported for the column at a position. -/
def typeAt (s : Statement) (column : Identifier) (position : Nat) : Result ValueType :=
  match OneBased.get? s.columnTypes position with
  | some type => .ok type
  | none => .error (.columnNotFound column.text)

/-- The bytes at a position of the current row, with the position. -/
def cellAt (row? : Option Cells) (position : Nat) : Result (Nat × Option Bytes) :=
  match row? with
  | some row => (row.raw position).map fun cell => (position, cell)
  | none => .error (.sequence .noRow)

/-- Binding to one slot, as a change of the parameters alone. -/
def bindSlot (types : List ValueType) (param : Identifier) (value? : Option Value) (slot : Nat)
    (params : Cells) : Result Cells :=
  (match OneBased.get? types slot with
    | some type => .ok type
    | none => .error (.parameterNotFound param.text)) >>= fun target =>
      params.bind slot target value?

theorem bindSlots_eq (param : Identifier) (value? : Option Value) (slots : List Nat)
    (s : Statement) :
    s.bindSlots param value? slots =
      (bindAll (bindSlot s.paramTypes param value?) slots s.params).map id s.withParams := by
  refine eq_bindAll s.withParams (fun params => (s.withParams params).bindSlots param value?)
    (fun _ => rfl) (fun (params : Cells) slot rest => ?_) slots s.params
  have hslot : ((s.withParams params).slotType param slot >>= fun target =>
      (s.withParams params).params.bind slot target value?) =
        bindSlot s.paramTypes param value? slot params := rfl
  rw [bindSlots, hslot]
  cases bindSlot s.paramTypes param value? slot params <;> rfl

theorem setValue_eq (param : Identifier) (value? : Option Value) (s : Statement) :
    s.setValue param value? =
      match s.requirePrepared with
      | .error e => (.error e, s)
      | .ok _ => (s.placeholders.bindOwned (bindSlot s.paramTypes param value?) param s.params).map id
          s.withParams := by
  rw [setValue]
  cases s.requirePrepared with
  | error e => rfl
  | ok _ =>
    exact s.placeholders.eq_bindOwned s.withParams
      (fun slots => bindSlots_eq param value? slots s) param

theorem columnType_eq_lookUp (column : Identifier) (s : Statement) :
    s.columnType column =
      lookUp s.state.checkPrepared (locate column) (fun t => t.typeAt column) s := by
  grind [columnType, lookUp, typeAt]

theorem currentCell_eq_lookUp (column : Identifier) (s : Statement) :
    s.currentCell column =
      lookUp s.state.checkHasData (locate column) (fun t => cellAt t.current?) s := by
  grind [currentCell, lookUp, cellAt]

/-- How statements work between two executions. -/
def browsing {σ : Type} (server : Link σ) :
    Browsing (statements server) Cells (Nat × Option Bytes) Cells where
  parts := parts
  withParams := withParams
  names := columnNames
  locate := locate
  currentCell := currentCell
  allowed := StatementState.checkPrepared
  typeAt _ := typeAt
  cellAt := cellAt
  valueOf s := valueOf s.columnTypes
  isNullCell cell := cell.2.isNone
  state_eq _ := rfl
  names_frame _ := rfl
  parts_withParams _ _ := rfl
  withParams_params _ := rfl
  allowed_of_checkCanFetch := @StatementState.checkPrepared_of_checkCanFetch
  fetch_eq s := by
    change s.fetch.map id parts = s.cursor.fetch.map id _
    rw [fetch, Cursor.fetch]
    cases hcheck : s.state.checkCanFetch <;> simp [cursor, parts, hcheck]
  locate_eq _ _ := rfl
  columnType_eq := columnType_eq_lookUp
  currentCell_eq := currentCell_eq_lookUp
  getValue_eq column kind s := by
    change s.getValue column kind = _
    rw [getValue]
    rcases s.currentCell column with ⟨e | ⟨position, _ | bytes⟩, t⟩ <;> rfl
  isNull_eq column s := by
    change s.isNull column = _
    rw [isNull]
    rcases s.currentCell column with ⟨e | cell, t⟩ <;> rfl
  setValue_snd param value? s := by
    change ∃ params, (s.setValue param value?).2 = s.withParams params
    rw [setValue_eq]
    cases s.requirePrepared with
    | error e => exact ⟨s.params, rfl⟩
    | ok _ => exact ⟨_, rfl⟩

/-! ## Executions -/

/-- An execution is before the first row of the answer. -/
theorem place_accept (server : Link σ) (prepared : Prepared) (completed : Completed) {s : Statement}
    (hcolumns : s.columns.Reads s.columnNames) :
    (browsing server).Place (prepared.rowsOf completed) (s.accept prepared completed).parts.frame 0
      (s.accept prepared completed) := by
  rw [accept, Prepared.rowsOf]
  split <;> exact ⟨rfl, rfl, hcolumns⟩

/-- An execution succeeds exactly when the server answers it, and then the answer is taken over. -/
theorem perform_eq_ok {prepared : Prepared}
    (h : s.perform server prepared link = (.ok (), t, link')) :
    ∃ completed, (server.run prepared s.params link).1 = some completed ∧
      t = s.accept prepared completed := by
  rw [Statement.perform] at h
  rcases hserver : server.run prepared s.params link with ⟨_ | completed, link₁⟩
  · rw [hserver] at h
    cases h
  · rw [hserver] at h
    cases h
    exact ⟨completed, rfl, rfl⟩

/-- The rows that the server answers to an execution, if it answers: what is prepared is run with the
parameters bound to it, and a text without any. -/
def answeredRows? (server : Link σ) (s : Statement) (link : σ) : StatementCall → Option (List Cells)
  | .run => do
    let prepared ← s.requirePrepared.toOption
    let completed ← (server.run prepared s.params link).1
    pure (prepared.rowsOf completed)
  | .execute sql => do
    let out := renderSql dialect ⟨true, dialect.coalescing⟩ sql
    let (prepared?, link) := server.prepare out.sql link
    let prepared ← prepared?
    let completed ← (server.run prepared (.ofLength prepared.params.length) link).1
    pure (prepared.rowsOf completed)
  | _ => none

theorem exists_place_of_run (h : s.run server link = (.ok (), t, link')) :
    ∃ rows, s.answeredRows? server link .run = some rows ∧
      (browsing server).Place rows t.parts.frame 0 t := by
  rw [run] at h
  cases hprepared : s.requirePrepared with
  | error e =>
    rw [hprepared] at h
    cases h
  | ok prepared =>
    rw [hprepared] at h
    obtain ⟨completed, hserver, rfl⟩ := perform_eq_ok h
    have hrun : (server.run prepared s.params link).1 = some completed := hserver
    refine ⟨prepared.rowsOf completed, ?_, place_accept server _ _ (ColumnIndex.reads_empty _)⟩
    simp [answeredRows?, hprepared, hrun, Except.toOption]

theorem exists_place_of_execute {sql : String}
    (h : s.execute server sql link = (.ok (), t, link')) :
    ∃ rows, s.answeredRows? server link (.execute sql) = some rows ∧
      (browsing server).Place rows t.parts.frame 0 t := by
  rw [execute, compile] at h
  have htext : (s.forget sql true).2 = (renderSql dialect ⟨true, dialect.coalescing⟩ sql).sql := rfl
  revert h
  rcases hforget : s.forget sql true with ⟨fresh, text⟩
  rw [hforget] at htext
  subst htext
  dsimp only
  rcases hserver : server.prepare (renderSql dialect ⟨true, dialect.coalescing⟩ sql).sql link with
    ⟨_ | prepared, link₁⟩
  · intro h
    cases h
  · intro h
    obtain ⟨completed, hanswer, rfl⟩ := perform_eq_ok h
    have hrun : (server.run prepared (.ofLength prepared.params.length) link₁).1 = some completed :=
      hanswer
    cases hforget
    refine ⟨prepared.rowsOf completed, ?_, place_accept server _ _ (ColumnIndex.reads_empty _)⟩
    simp [answeredRows?, hserver, hrun]

/-- **A successful execution is at the start of the rows of the server's answer.** -/
theorem exists_place_of_executes {call : StatementCall} (hcall : call.executes = true)
    (h : (statements server).perform call s link = (.done (.ok ()), t, link')) :
    ∃ rows, s.answeredRows? server link call = some rows ∧
      (browsing server).Place rows t.parts.frame 0 t := by
  cases call with
  | run => exact exists_place_of_run ((statements server).perform_run_iff.1 h)
  | execute sql => exact exists_place_of_execute ((statements server).perform_execute_iff.1 h)
  | _ => cases hcall

theorem columnPosition_bind_cellAt (names : List String) (row : Cells) (column : Identifier) :
    columnPosition names column >>= cellAt (some row) = readCell names row column := by
  rw [readCell]
  rcases columnPosition names column with e | position
  · rfl
  · change (row.raw position).map _ = row.raw position >>= fun cell => .ok (position, cell)
    cases row.raw position <;> rfl

/-- **The rows of the answer are delivered**, each once and in order. -/
theorem exists_delivers_of_executes {call : StatementCall} (hcall : call.executes = true)
    (h : (statements server).perform call s link = (.done (.ok ()), t, link')) :
    ∃ rows, s.answeredRows? server link call = some rows ∧
      (statements server).Delivers rows (readColumn t.columnNames t.columnTypes)
        (readNull t.columnNames) t link' := by
  obtain ⟨rows, hrows, hstart⟩ := exists_place_of_executes hcall h
  have hdelivers := hstart.delivers link'
  simp only [browsing, columnPosition_bind_cellAt] at hdelivers
  exact ⟨rows, hrows, hdelivers⟩

end Statement

end PortableSql.Postgres
