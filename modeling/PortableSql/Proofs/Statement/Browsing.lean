import PortableSql.Proofs.Sql.ColumnIndex
import PortableSql.Proofs.Statement.Cursor

/-!
# Calls between two executions

Products differ in how a text is prepared and run. Between two executions their statements do the
same: a fetch moves the cursor, a column is looked up in the index of names and then read from the
row that the cursor is on, and a value that is bound goes into the parameters. `Browsing` says so of
the statements of a product; what follows from it is shown here for all of them.

## Main definitions

* `StatementParts` — what these calls change of a statement, and what they leave.
* `Browsing` — how the calls of a product work on the parts.
* `Browsing.Place` — where a statement stands among the rows of its last execution.

## Main statements

* `Browsing.browsed_perform` — what any of these calls can do.
* `Browsing.Place.delivers` — the rows are delivered, each once and in order.
-/
namespace PortableSql

/-- The parts of a statement that change between two executions, and the statement without them. -/
structure StatementParts (R P S : Type) where
  cursor : Cursor R
  columns : ColumnIndex
  params : P
  frame : S

/-! ## Where a fetch is allowed -/

namespace StatementState

theorem checkPrepared_of_checkCanFetch {state : StatementState} (h : state.checkCanFetch = .ok ()) :
    state.checkPrepared = .ok () := by
  cases state <;> first | rfl | cases h

theorem checkExecuted_of_checkCanFetch {state : StatementState} (h : state.checkCanFetch = .ok ()) :
    state.checkExecuted = .ok () := by
  cases state <;> first | rfl | cases h

end StatementState

/-! ## Looking a column up -/

section

variable {S α : Type}

/-- Looks a column up, if that is allowed, and answers from its position. -/
def lookUp (allowed : Result Unit) (locate : S → Result Nat × S) (answer : S → Nat → Result α)
    (s : S) : Result α × S :=
  match allowed with
  | .error e => (.error e, s)
  | .ok _ =>
    match locate s with
    | (.error e, located) => (.error e, located)
    | (.ok position, located) => (answer located position, located)

variable (allowed : Result Unit) (locate : S → Result Nat × S) (answer : S → Nat → Result α) (s : S)

theorem lookUp_fst :
    (lookUp allowed locate answer s).1 =
      allowed >>= fun _ => (locate s).1 >>= answer (locate s).2 := by
  unfold lookUp
  cases allowed with
  | error e => rfl
  | ok _ => rcases locate s with ⟨e | position, located⟩ <;> rfl

theorem lookUp_snd_cases :
    (lookUp allowed locate answer s).2 = s ∨
      (lookUp allowed locate answer s).2 = (locate s).2 := by
  unfold lookUp
  cases allowed with
  | error e => exact .inl rfl
  | ok _ => rcases locate s with ⟨e | position, located⟩ <;> exact .inr rfl

end

/-- How the statements of a product work between two executions: `R` is a row, `C` what is read of a
column of it, and `P` the parameters. -/
structure Browsing {σ S : Type} (api : StatementInterface σ S) (R C P : Type) where
  parts : S → StatementParts R P S
  /-- The statement with other parameters. -/
  withParams : S → P → S
  /-- The names of the columns. -/
  names : S → List String
  /-- Position of a column. -/
  locate : Identifier → S → Result Nat × S
  /-- A column of the current row. -/
  currentCell : Identifier → S → Result C × S
  /-- The state allows to ask for the type of a column. -/
  allowed : StatementState → Result Unit
  /-- The type of a column that was found at a position. -/
  typeAt : Cursor R → S → Identifier → Nat → Result ValueType
  /-- What is at a position of the current row, if there is one. -/
  cellAt : Option R → Nat → Result C
  valueOf : S → ValueKind → C → Result (Option Value)
  isNullCell : C → Bool
  -- from here on the laws, which each product proves of its own calls
  state_eq : ∀ s, api.state s = (parts s).cursor.state
  names_frame : ∀ s, names (parts s).frame = names s
  parts_withParams : ∀ s params, parts (withParams s params) = { parts s with params := params }
  withParams_params : ∀ s, withParams s (parts s).params = s
  allowed_of_checkCanFetch : ∀ {state : StatementState},
    state.checkCanFetch = .ok () → allowed state = .ok ()
  fetch_eq : ∀ s, (api.fetch s).map id parts =
    (parts s).cursor.fetch.map id fun cursor => { parts s with cursor := cursor }
  locate_eq : ∀ column s,
    let found := (parts s).columns.find (m := Id) (.ok (names s)) column
    (locate column s).map id parts = (found.1, { parts s with columns := found.2 })
  columnType_eq : ∀ column s, api.columnType column s =
    lookUp (allowed (api.state s)) (locate column)
      (fun t => typeAt (parts t).cursor (parts t).frame column) s
  currentCell_eq : ∀ column s, currentCell column s =
    lookUp (api.state s).checkHasData (locate column)
      (fun t => cellAt (parts t).cursor.current?) s
  getValue_eq : ∀ column kind s, api.getValue column kind s =
    let (cell, t) := currentCell column s
    (cell >>= valueOf (parts t).frame kind, t)
  isNull_eq : ∀ column s, api.isNull column s =
    let (cell, t) := currentCell column s
    (cell.map isNullCell, t)
  setValue_snd : ∀ param value? s, ∃ params, (api.setValue param value? s).2 = withParams s params

namespace Browsing

variable {σ S R C P : Type} {api : StatementInterface σ S} (b : Browsing api R C P)

theorem fetch_fst (s : S) : (api.fetch s).1 = (b.parts s).cursor.fetch.1 :=
  congrArg Prod.fst (b.fetch_eq s)

theorem parts_fetch (s : S) :
    b.parts (api.fetch s).2 = { b.parts s with cursor := (b.parts s).cursor.fetch.2 } :=
  congrArg Prod.snd (b.fetch_eq s)

theorem parts_locate (column : Identifier) (s : S) :
    b.parts (b.locate column s).2 = { b.parts s with
      columns := ((b.parts s).columns.find (m := Id) (.ok (b.names s)) column).2 } :=
  congrArg Prod.snd (b.locate_eq column s)

/-! ## What a call does -/

/-- What a call between two executions can do: move the cursor by a fetch, read the names of the
columns, and bind parameters. -/
structure Browsed (call : StatementCall) (s t : S) : Prop where
  cursor : (b.parts t).cursor =
    if call.isFetch then (b.parts s).cursor.fetch.2 else (b.parts s).cursor
  columns : (b.parts s).columns.Reads (b.names s) → (b.parts t).columns.Reads (b.names s)
  params : (∀ param value?, call ≠ .setValue param value?) → (b.parts t).params = (b.parts s).params
  frame : (b.parts t).frame = (b.parts s).frame

variable {b} {s t : S} {call : StatementCall}

theorem Browsed.names (h : b.Browsed call s t) : b.names t = b.names s := by
  rw [← b.names_frame t, h.frame, b.names_frame]

/-- The state stays in step with the row. -/
theorem Browsed.onRow (h : b.Browsed call s t) (hs : (b.parts s).cursor.OnRow) :
    (b.parts t).cursor.OnRow := by
  rw [h.cursor]
  split
  · exact hs.fetch
  · exact hs

theorem browsed_self (hcall : call.isFetch = false) (s : S) : b.Browsed call s s :=
  ⟨by rw [hcall]; rfl, id, fun _ => rfl, rfl⟩

theorem browsed_fetch (s : S) : b.Browsed .fetch s (api.fetch s).2 := by
  constructor <;> rw [b.parts_fetch]
  · rfl
  · exact id
  · exact fun _ => rfl

theorem browsed_locate (hcall : call.isFetch = false) (column : Identifier) (s : S) :
    b.Browsed call s (b.locate column s).2 := by
  constructor <;> rw [b.parts_locate]
  · rw [hcall]
    rfl
  · exact fun h => (ColumnIndex.find_of_reads h column).2
  · exact fun _ => rfl

theorem browsed_lookUp {α : Type} (hcall : call.isFetch = false) (allowed : Result Unit)
    (column : Identifier) (answer : S → Nat → Result α) (s : S) :
    b.Browsed call s (lookUp allowed (b.locate column) answer s).2 := by
  rcases lookUp_snd_cases allowed (b.locate column) answer s with h | h <;> rw [h]
  · exact browsed_self hcall s
  · exact browsed_locate hcall column s

theorem browsed_currentCell (hcall : call.isFetch = false) (column : Identifier) (s : S) :
    b.Browsed call s (b.currentCell column s).2 := by
  rw [b.currentCell_eq]
  exact browsed_lookUp hcall _ column _ s

theorem browsed_setValue (param : Identifier) (value? : Option Value) (s : S) :
    b.Browsed (.setValue param value?) s (api.setValue param value? s).2 := by
  obtain ⟨params, hset⟩ := b.setValue_snd param value? s
  constructor <;> rw [hset, b.parts_withParams]
  · rfl
  · exact id
  · exact fun h => absurd rfl (h param value?)

/-- **What any call does that is not for another execution.** -/
theorem browsed_perform (b : Browsing api R C P) (hcall : call.keepsRows = true) (s : S) (link : σ) :
    b.Browsed call s (api.perform call s link).2.1 := by
  cases call with
  | prepare sql native => cases hcall
  | run => cases hcall
  | execute sql => cases hcall
  | fetch => exact browsed_fetch s
  | columnType column =>
    change b.Browsed _ s (api.columnType column s).2
    rw [b.columnType_eq]
    exact browsed_lookUp rfl _ column _ s
  | getValue column kind =>
    change b.Browsed _ s (api.getValue column kind s).2
    rw [b.getValue_eq]
    exact browsed_currentCell rfl column s
  | isNull column =>
    change b.Browsed _ s (api.isNull column s).2
    rw [b.isNull_eq]
    exact browsed_currentCell rfl column s
  | setValue param value? => exact browsed_setValue param value? s
  | _ => exact browsed_self rfl s

/-! ## What a reading answers -/

theorem locate_fst_of_reads (h : (b.parts s).columns.Reads (b.names s)) (column : Identifier) :
    (b.locate column s).1 = columnPosition (b.names s) column :=
  (congrArg Prod.fst (b.locate_eq column s)).trans (ColumnIndex.find_of_reads h column).1

/-- The index makes no difference to what is read. -/
theorem lookUp_fst_of_reads {α : Type} (h : (b.parts s).columns.Reads (b.names s))
    (allowed : Result Unit) (column : Identifier) (answer : Cursor R → S → Nat → Result α) :
    (lookUp allowed (b.locate column) (fun t => answer (b.parts t).cursor (b.parts t).frame) s).1 =
      allowed >>= fun _ => columnPosition (b.names s) column >>=
        answer (b.parts s).cursor (b.parts s).frame := by
  rw [lookUp_fst, locate_fst_of_reads h, b.parts_locate]

theorem columnType_fst_of_reads (h : (b.parts s).columns.Reads (b.names s)) (column : Identifier) :
    (api.columnType column s).1 = b.allowed (api.state s) >>= fun _ =>
      columnPosition (b.names s) column >>= b.typeAt (b.parts s).cursor (b.parts s).frame column := by
  rw [b.columnType_eq]
  exact lookUp_fst_of_reads h _ column fun cursor frame => b.typeAt cursor frame column

theorem currentCell_fst_of_reads (h : (b.parts s).columns.Reads (b.names s))
    (column : Identifier) :
    (b.currentCell column s).1 = (api.state s).checkHasData >>= fun _ =>
      columnPosition (b.names s) column >>= b.cellAt (b.parts s).cursor.current? := by
  rw [b.currentCell_eq]
  exact lookUp_fst_of_reads h _ column fun cursor _ => b.cellAt cursor.current?

theorem frame_currentCell (column : Identifier) (s : S) :
    (b.parts (b.currentCell column s).2).frame = (b.parts s).frame := by
  have hread : b.Browsed (.isNull column) s (b.currentCell column s).2 :=
    browsed_currentCell rfl column s
  exact hread.frame

theorem getValue_fst (column : Identifier) (kind : ValueKind) (s : S) :
    (api.getValue column kind s).1 =
      (b.currentCell column s).1 >>= b.valueOf (b.parts s).frame kind := by
  rw [b.getValue_eq, ← frame_currentCell column s]

theorem isNull_fst (column : Identifier) (s : S) :
    (api.isNull column s).1 = (b.currentCell column s).1.map b.isNullCell := by
  rw [b.isNull_eq]

/-! ## The place among the rows -/

variable (b) in
/-- The statement stands behind `k` fetches of these rows, and has read of the names of its columns
what they are, if anything. -/
structure Place (rows : List R) (frame : S) (k : Nat) (s : S) : Prop where
  cursor : (b.parts s).cursor = .behind rows k
  frame : (b.parts s).frame = frame
  columns : (b.parts s).columns.Reads (b.names s)

namespace Place

variable {rows : List R} {frame : S} {k : Nat}

theorem names (h : b.Place rows frame k s) : b.names s = b.names frame := by
  rw [← b.names_frame s, h.frame]

/-- A call between two executions moves on by its fetch. -/
theorem perform (h : b.Place rows frame k s) (hcall : call.keepsRows = true) (link : σ) :
    b.Place rows frame (k + if call.isFetch then 1 else 0) (api.perform call s link).2.1 := by
  have hbrowsed := b.browsed_perform hcall s link
  refine ⟨?_, hbrowsed.frame.trans h.frame, ?_⟩
  · rw [hbrowsed.cursor, h.cursor, Cursor.fetch_behind]
    split <;> rfl
  · rw [hbrowsed.names]
    exact hbrowsed.columns h.columns

/-- **The place is the number of fetches**, for calls each of which moves on by its fetch. -/
theorem history (leaves : StatementEvent → Bool)
    (step : ∀ k s link call, leaves ⟨call, (api.perform call s link).1⟩ = true →
      b.Place rows frame k s →
        b.Place rows frame (k + if call.isFetch then 1 else 0) (api.perform call s link).2.1)
    (h : b.Place rows frame 0 s) (calls : List StatementCall) (link : σ) :
    let reached := api.history calls s link
    (∀ event ∈ reached.1, leaves event = true) →
      b.Place rows frame (fetchCount reached.1) reached.2.1 := by
  refine api.history_invariant
    (P := fun past s _ => (∀ event ∈ past, leaves event = true) →
      b.Place rows frame (fetchCount past) s)
    ?_ calls (fun _ _ => trivial) [] s link fun _ => h
  intro past s link call _ hpast hevents
  rw [fetchCount_concat]
  have hbefore := hpast fun event hevent => hevents event (List.mem_append_left _ hevent)
  have hlast := hevents _ (List.mem_append_right _ (List.mem_singleton_self _))
  exact step _ s link call hlast hbefore

theorem fetch (h : b.Place rows frame k s) : (api.fetch s).1 = Cursor.fetched rows k := by
  rw [b.fetch_fst, h.cursor, Cursor.fetch_behind]

theorem checkHasData (h : b.Place rows frame k s) :
    (api.state s).checkHasData =
      match OneBased.get? rows k with
      | some _ => .ok ()
      | none => .error (.sequence .noRow) := by
  rw [b.state_eq, h.cursor]
  exact Cursor.checkHasData_stateBehind rows k

/-- **What is read is read from the row that was fetched last**, and without one nothing is. -/
theorem currentCell (h : b.Place rows frame k s) (column : Identifier) :
    (b.currentCell column s).1 = Cursor.reading rows k fun row =>
      columnPosition (b.names frame) column >>= b.cellAt (some row) := by
  have hcurrent : (b.parts s).cursor.current? = OneBased.get? rows k := by rw [h.cursor]; rfl
  rw [currentCell_fst_of_reads h.columns, h.checkHasData, hcurrent, h.names, Cursor.reading]
  cases OneBased.get? rows k <;> rfl

theorem getValue (h : b.Place rows frame k s) (column : Identifier) (kind : ValueKind) :
    (api.getValue column kind s).1 = Cursor.reading rows k fun row =>
      (columnPosition (b.names frame) column >>= b.cellAt (some row)) >>= b.valueOf frame kind := by
  rw [getValue_fst column kind s, h.currentCell, h.frame, Cursor.reading, Cursor.reading]
  cases OneBased.get? rows k <;> rfl

theorem isNull (h : b.Place rows frame k s) (column : Identifier) :
    (api.isNull column s).1 = Cursor.reading rows k fun row =>
      (columnPosition (b.names frame) column >>= b.cellAt (some row)).map b.isNullCell := by
  rw [isNull_fst (b := b), h.currentCell, Cursor.reading, Cursor.reading]
  cases OneBased.get? rows k <;> rfl

/-- **Behind an execution its rows are delivered**, each once and in order. -/
theorem delivers (h : b.Place rows frame 0 s) (link : σ) :
    api.Delivers rows
      (fun row column kind =>
        (columnPosition (b.names frame) column >>= b.cellAt (some row)) >>= b.valueOf frame kind)
      (fun row column =>
        (columnPosition (b.names frame) column >>= b.cellAt (some row)).map b.isNullCell)
      s link := by
  intro calls hcalls reached fetches
  have hmap : (api.history calls s link).1.map StatementEvent.call = calls :=
    api.map_call_history calls s link
  have hcount : fetchCount (api.history calls s link).1 = fetches := by
    have hmapped := congrArg (List.countP StatementCall.isFetch) hmap
    rwa [List.countP_map] at hmapped
  have hkeeps : ∀ event ∈ (api.history calls s link).1, event.call.keepsRows = true := by
    intro event hevent
    refine hcalls event.call ?_
    rw [← hmap]
    exact List.mem_map_of_mem hevent
  have hreached : b.Place rows frame fetches reached := by
    rw [← hcount]
    exact h.history (fun event => event.call.keepsRows)
      (fun _ _ link _ hcall hplace => hplace.perform hcall link) calls link hkeeps
  exact ⟨hreached.fetch, hreached.getValue, hreached.isNull⟩

end Place

end Browsing

end PortableSql
