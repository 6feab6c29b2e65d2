import PortableSql.Proofs.Statement.Binding
import PortableSql.Proofs.Statement.Browsing
import PortableSql.SqlServer.Statement

/-!
# Rows of a SQL Server statement

A successful execution leaves a statement before the first row of the server's results, which follow
one another as one list. From then on the calls that are not for another execution move the cursor by
fetching only, and what is read behind a fetch is read from its row.
-/
namespace PortableSql.SqlServer

/-- The cell of a column of a row. -/
def readCell (names : List String) (row : Cells) (column : Identifier) : Result Cell :=
  columnPosition names column >>= row.cell

/-- A value in a cell; nothing for NULL. -/
def valueOf (kind : ValueKind) (cell : Cell) : Result (Option Value) :=
  if cell.isNull then .ok none else (decodeCell cell kind).map some

/-- A column of a row as a value; nothing for NULL. -/
def readColumn (names : List String) (row : Cells) (column : Identifier) (kind : ValueKind) :
    Result (Option Value) :=
  readCell names row column >>= valueOf kind

/-- A column of a row is NULL. -/
def readNull (names : List String) (row : Cells) (column : Identifier) : Result Bool :=
  (readCell names row column).map Cell.isNull

namespace Statement

variable {σ : Type} {server : Link σ} {s t : Statement} {link link' : σ}

/-- What the statement keeps of its rows. -/
def cursor (s : Statement) : Cursor Cells := ⟨s.rows, s.current?, s.state⟩

/-! ## Between two executions -/

/-- The parts that change, and the statement without them. -/
def parts (s : Statement) : StatementParts Cells Cells Statement where
  cursor := s.cursor
  columns := s.columns
  params := s.params
  frame := { s with
    rows := [], current? := none, state := .undefined, columns := .empty, params := [] }

/-- The statement with other parameters. -/
def withParams (s : Statement) (params : Cells) : Statement :=
  { s with params := params }

/-- The type of the column at a position: that of its value in the current row, else the declared
one. -/
def typeAt (row? : Option Cells) (s : Statement) (column : Identifier) (position : Nat) :
    Result ValueType :=
  match currentType? position { s with current? := row? }, OneBased.get? s.columnTypes position with
  | some type, _ => .ok type
  | none, some declared => .ok declared.valueType
  | none, none => .error (.columnNotFound column.text)

/-- The cell at a position of the current row. -/
def cellAt (row? : Option Cells) (position : Nat) : Result Cell :=
  match row? with
  | some row => row.cell position
  | none => .error (.sequence .noRow)

theorem bindSlots_eq (value? : Option Value) (slots : List Nat) (s : Statement) :
    s.bindSlots value? slots =
      (bindAll (fun slot params => Cells.bind params slot value?) slots s.params).map id
        s.withParams := by
  refine eq_bindAll s.withParams (fun params => (s.withParams params).bindSlots value?)
    (fun _ => rfl) (fun params slot rest => ?_) slots s.params
  rw [bindSlots]
  cases hbind : Cells.bind params slot value? <;> simp [withParams, hbind]

theorem setValue_eq (param : Identifier) (value? : Option Value) (s : Statement) :
    s.setValue param value? =
      match s.requirePrepared with
      | .error e => (.error e, s)
      | .ok _ => (s.placeholders.bindOwned (fun slot params => Cells.bind params slot value?) param
          s.params).map id s.withParams := by
  rw [setValue]
  cases s.requirePrepared with
  | error e => rfl
  | ok _ =>
    exact s.placeholders.eq_bindOwned s.withParams (fun slots => bindSlots_eq value? slots s) param

theorem columnType_eq_lookUp (column : Identifier) (s : Statement) :
    s.columnType column =
      lookUp s.state.checkExecuted (locate column) (fun t => typeAt t.current? t column) s := by
  unfold columnType lookUp
  cases s.state.checkExecuted with
  | error e => rfl
  | ok _ =>
    rcases s.locate column with ⟨e | position, located⟩
    · rfl
    · dsimp only [typeAt]
      cases currentType? position located <;>
        cases OneBased.get? located.columnTypes position <;> rfl

theorem currentCell_eq_lookUp (column : Identifier) (s : Statement) :
    s.currentCell column =
      lookUp s.state.checkHasData (locate column) (fun t => cellAt t.current?) s := by
  grind [currentCell, lookUp, cellAt]

/-- How statements work between two executions. -/
def browsing {σ : Type} (server : Link σ) : Browsing (statements server) Cells Cell Cells where
  parts := parts
  withParams := withParams
  names := columnNames
  locate := locate
  currentCell := currentCell
  allowed := StatementState.checkExecuted
  typeAt cursor := typeAt cursor.current?
  cellAt := cellAt
  valueOf _ := valueOf
  isNullCell := Cell.isNull
  state_eq _ := rfl
  names_frame _ := rfl
  parts_withParams _ _ := rfl
  withParams_params _ := rfl
  allowed_of_checkCanFetch := @StatementState.checkExecuted_of_checkCanFetch
  fetch_eq s := by
    change s.fetch.map id parts = s.cursor.fetch.map id _
    rw [fetch, Cursor.fetch]
    cases hcheck : s.state.checkCanFetch <;> simp [cursor, parts, hcheck]
  locate_eq _ _ := rfl
  columnType_eq := columnType_eq_lookUp
  currentCell_eq := currentCell_eq_lookUp
  getValue_eq column kind s := by
    change s.getValue column kind = _
    rw [getValue]
    rcases s.currentCell column with ⟨e | cell, t⟩
    · rfl
    · dsimp only
      split <;> rename_i hnull <;> simp [bind, Except.bind, valueOf, hnull]
  isNull_eq column s := by
    change s.isNull column = _
    rw [isNull]
    rcases s.currentCell column with ⟨e | cell, t⟩ <;> rfl
  setValue_snd param value? s := by
    change ∃ params, (s.setValue param value?).2 = s.withParams params
    rw [setValue_eq]
    cases s.requirePrepared with
    | error e => exact ⟨s.params, rfl⟩
    | ok _ => exact ⟨_, rfl⟩

/-! ## Executions -/

/-- The rows that the server answers to an execution, if it answers: what is prepared is run with the
parameters bound to it, and a text without any. -/
def answeredRows? (server : Link σ) (s : Statement) (link : σ) : StatementCall → Option (List Cells)
  | .run => do
    let text ← s.requirePrepared.toOption
    let sets ← (server.send text s.params link).1.toOption
    pure (sets.flatMap ResultSet.rows)
  | .execute sql => do
    let out := renderSql dialect ⟨true, dialect.coalescing⟩ sql
    let sets ← (server.send out.sql (.ofLength out.slots.nativeCount) link).1.toOption
    pure (sets.flatMap ResultSet.rows)
  | _ => none

/-- An execution that succeeds has been answered, and the answer is taken over. -/
theorem perform_eq_ok {text : String} (h : s.perform server text link = (.ok (), t, link')) :
    ∃ sets affected, (server.send text s.params link).1 = .ok sets ∧ t = s.accept sets affected := by
  rw [Statement.perform] at h
  rcases hserver : server.send text s.params link with ⟨e | sets, link₁⟩
  · rw [hserver] at h
    cases h
  · rw [hserver] at h
    dsimp only at h
    split at h
    · cases h
      exact ⟨sets, _, rfl, rfl⟩
    · rcases hcount : server.rowCount link₁ with ⟨e | affected, link₂⟩
      · rw [hcount] at h
        cases h
      · rw [hcount] at h
        cases h
        exact ⟨sets, affected, rfl, rfl⟩

/-- An execution that fails changes nothing. -/
theorem perform_eq_error {text : String} {e : Error}
    (h : s.perform server text link = (.error e, t, link')) : t = s := by
  rw [Statement.perform] at h
  rcases hserver : server.send text s.params link with ⟨e' | sets, link₁⟩
  · rw [hserver] at h
    cases h
    rfl
  · rw [hserver] at h
    dsimp only at h
    split at h
    · cases h
    · rcases hcount : server.rowCount link₁ with ⟨e' | affected, link₂⟩ <;> rw [hcount] at h <;>
        cases h
      rfl

/-- An execution is before the first row of the results. -/
theorem place_accept (server : Link σ) (sets : List ResultSet) (affected : Nat) (s : Statement) :
    (browsing server).Place (sets.flatMap ResultSet.rows) (s.accept sets affected).parts.frame 0
      (s.accept sets affected) :=
  ⟨rfl, rfl, ColumnIndex.reads_empty _⟩

/-- **A successful execution is at the start of the rows of the server's results.** -/
theorem exists_place_of_executes {call : StatementCall} (hcall : call.executes = true)
    (h : (statements server).perform call s link = (.done (.ok ()), t, link')) :
    ∃ rows, s.answeredRows? server link call = some rows ∧
      (browsing server).Place rows t.parts.frame 0 t := by
  cases call with
  | run =>
    have hrun : s.run server link = (.ok (), t, link') := (statements server).perform_run_iff.1 h
    rw [run] at hrun
    cases hprepared : s.requirePrepared with
    | error e =>
      rw [hprepared] at hrun
      cases hrun
    | ok text =>
      rw [hprepared] at hrun
      obtain ⟨sets, affected, hserver, rfl⟩ := perform_eq_ok hrun
      refine ⟨sets.flatMap ResultSet.rows, ?_, place_accept server sets affected s⟩
      simp [answeredRows?, hprepared, hserver, Except.toOption]
  | execute sql =>
    have hrun : s.execute server sql link = (.ok (), t, link') :=
      (statements server).perform_execute_iff.1 h
    obtain ⟨sets, affected, hserver, rfl⟩ := perform_eq_ok hrun
    have hsend : (server.send (renderSql dialect ⟨true, dialect.coalescing⟩ sql).sql
        (.ofLength (renderSql dialect ⟨true, dialect.coalescing⟩ sql).slots.nativeCount) link).1 =
          .ok sets := hserver
    refine ⟨sets.flatMap ResultSet.rows, ?_, place_accept server sets affected _⟩
    simp [answeredRows?, hsend, Except.toOption]
  | _ => cases hcall

/-- **The rows of the results are delivered**, each once and in order. -/
theorem exists_delivers_of_executes {call : StatementCall} (hcall : call.executes = true)
    (h : (statements server).perform call s link = (.done (.ok ()), t, link')) :
    ∃ rows, s.answeredRows? server link call = some rows ∧
      (statements server).Delivers rows (readColumn t.columnNames) (readNull t.columnNames) t
        link' := by
  obtain ⟨rows, hrows, hstart⟩ := exists_place_of_executes hcall h
  exact ⟨rows, hrows, hstart.delivers link'⟩

/-! ## On a row -/

/-- A failed execution changes nothing, and one that succeeds is before the first row. -/
theorem onRow_perform (h : s.cursor.OnRow) (server : Link σ) (text : String) (link : σ) :
    (s.perform server text link).2.1.cursor.OnRow := by
  rcases hperform : s.perform server text link with ⟨e | _, t, link'⟩
  · rw [perform_eq_error hperform]
    exact h
  · obtain ⟨sets, affected, -, rfl⟩ := perform_eq_ok hperform
    exact Cursor.onRow_behind (sets.flatMap ResultSet.rows) 0

/-- **A statement says that it is on a row exactly when it has one**, behind every history and
whatever the server answers. -/
theorem fetching_iff_current (server : Link σ) (calls : List StatementCall) (link : σ) :
    let s := ((statements server).history calls .new link).2.1
    s.state = .fetching ↔ s.current?.isSome = true := by
  have hstart : Statement.new.cursor.OnRow := Cursor.onRow_empty (by decide)
  refine (statements server).history_invariant
    (P := fun _ s _ => s.cursor.OnRow) ?_ calls (fun _ _ => trivial) [] .new link hstart
  intro past s link call _ h
  by_cases hkeeps : call.keepsRows = true
  · exact ((browsing server).browsed_perform hkeeps s link).onRow h
  · cases call with
    | prepare sql native => exact Cursor.onRow_empty nofun
    | run =>
      change (s.run server link).2.1.cursor.OnRow
      rw [run]
      cases s.requirePrepared with
      | error e => exact h
      | ok text => exact onRow_perform h server text link
    | execute sql =>
      have hcompiled : (s.compile sql true).1.cursor.OnRow := Cursor.onRow_empty nofun
      exact onRow_perform hcompiled server _ link
    | _ => exact absurd rfl hkeeps

end Statement

end PortableSql.SqlServer
