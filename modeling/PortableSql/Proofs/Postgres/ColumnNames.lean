import PortableSql.Proofs.Postgres.Rows
import PortableSql.Proofs.Result
import PortableSql.Proofs.Statement.ColumnNames

/-!
# Names of columns of a PostgreSQL statement

The server describes a text when it prepares it, for a prepared statement as for a text that is run at
once. A run describes nothing: it only has the names read again.
-/
namespace PortableSql.Postgres.Statement

variable {σ : Type} {server : Link σ} {s t : Statement} {link link' : σ}
  {last? : Option (List String)}

/-- The names of the columns that the server describes a text with, for the calls that have it
prepare one. -/
def describedNames? (server : Link σ) (_ : Statement) (link : σ) :
    StatementCall → Option (List String)
  | .prepare sql native => described sql native
  | .execute sql => described sql true
  | _ => none
where
  described (sql : String) (native : Bool) : Option (List String) :=
    let text := (renderSql dialect ⟨native, dialect.coalescing⟩ sql).sql
    (server.prepare text link).1.map fun prepared => prepared.columns.map (·.1)

theorem typesNamed_of_length (server : Link σ) (h : s.columnTypes.length = s.columnNames.length) :
    (browsing server).TypesNamed s := by
  intro cursor name position hnamed
  obtain ⟨type, htype⟩ := hnamed.exists_get? h
  change typeAt s (.name name) position = typeAt s (.position position) position
  rw [typeAt, typeAt, htype]

theorem knowsColumns_new (server : Link σ) : (browsing server).KnowsColumns none new :=
  ⟨nofun, typesNamed_of_length server rfl, ColumnIndex.reads_empty _⟩

/-! ## Runs -/

/-- An execution keeps the columns. -/
theorem knowsColumns_accept (server : Link σ) (prepared : Prepared) (completed : Completed)
    (hlast : last? = some s.columnNames) (htypes : (browsing server).TypesNamed s)
    (hcolumns : s.columns.Reads s.columnNames) :
    (browsing server).KnowsColumns last? (s.accept prepared completed) := by
  rw [accept]
  split <;> exact ⟨fun _ => hlast, htypes, hcolumns⟩

/-- The server refuses an execution, which changes nothing, or finishes it. -/
theorem perform_server_cases (server : Link σ) (prepared : Prepared) (s : Statement) (link : σ) :
    (∃ link', s.perform server prepared link = (.error (.refused .postgres), s, link')) ∨
      ∃ completed link',
        s.perform server prepared link = (.ok (), s.accept prepared completed, link') := by
  rw [Statement.perform]
  rcases server.run prepared s.params link with ⟨_ | completed, link'⟩
  · exact .inl ⟨link', rfl⟩
  · exact .inr ⟨completed, link', rfl⟩

/-- **A run keeps the columns and has their names read again**, whether the server refuses it or
not. -/
theorem knowsColumns_run (h : (browsing server).KnowsColumns last? s) (link : σ) :
    (browsing server).KnowsColumns last? (s.run server link).2.1 := by
  rw [run]
  cases hprepared : s.requirePrepared with
  | error e => exact h
  | ok prepared =>
    have hchecked : s.state.checkPrepared = .ok () := by
      rw [requirePrepared, Result.bind_eq_ok_iff] at hprepared
      obtain ⟨⟨⟩, hchecked, -⟩ := hprepared
      exact hchecked
    -- what was read of the names is given up before the server is asked, the names are not
    dsimp only
    rcases perform_server_cases server prepared { s.discardRows with columns := .empty } link with
      ⟨link', hrefused⟩ | ⟨completed, link', hfinished⟩
    · rw [hrefused]
      exact ⟨h.last, h.types, ColumnIndex.reads_empty _⟩
    · rw [hfinished]
      exact knowsColumns_accept server prepared completed (h.last hchecked) h.types
        (ColumnIndex.reads_empty _)

/-! ## Texts -/

/-- The statement has another text, which nothing has been made of. -/
structure Waiting (server : Link σ) (s : Statement) : Prop where
  state : s.state = .undefined
  types : (browsing server).TypesNamed s
  columns : s.columns = .empty

theorem Waiting.reads (h : Waiting server s) : s.columns.Reads s.columnNames := by
  rw [h.columns]
  exact ColumnIndex.reads_empty _

/-- Nothing may be asked about columns of such a text. -/
theorem Waiting.knowsColumns (h : Waiting server s) : (browsing server).KnowsColumns last? s := by
  refine ⟨fun hchecked => ?_, h.types, h.reads⟩
  change s.state.checkPrepared = .ok () at hchecked
  rw [h.state] at hchecked
  cases hchecked

/-- A text waits, whether the server describes it or refuses it. -/
theorem waiting_of_compile (h : (browsing server).KnowsColumns last? s) {sql : String}
    {native : Bool} {answer : Result Prepared}
    (hcompile : s.compile server sql native link = (answer, t, link')) : Waiting server t := by
  rw [compile] at hcompile
  dsimp only at hcompile
  split at hcompile <;> cases hcompile
  · exact ⟨rfl, h.types, rfl⟩
  · exact ⟨rfl, typesNamed_of_length server (by simp [describe]), rfl⟩

/-- A text that the server prepares has the columns that it describes. -/
theorem described_of_compile {sql : String} {native : Bool} {prepared : Prepared}
    (h : s.compile server sql native link = (.ok prepared, t, link')) :
    describedNames?.described server link sql native = some t.columnNames := by
  have htext : (s.forget sql native).2 = (renderSql dialect ⟨native, dialect.coalescing⟩ sql).sql := rfl
  rw [compile] at h
  dsimp only at h
  rw [htext] at h
  rw [describedNames?.described]
  rcases hserver : server.prepare (renderSql dialect ⟨native, dialect.coalescing⟩ sql).sql link with
    ⟨_ | described, link₁⟩
  · rw [hserver] at h
    cases h
  · rw [hserver] at h
    cases h
    rfl

/-- The names that the calls have brought last, behind one more call. -/
abbrev namesBehind? (server : Link σ) (call : StatementCall) (s : Statement) (link : σ)
    (last? : Option (List String)) : Option (List String) :=
  (statements server).namesBehind? (describedNames? server) call s link last?

/-- **Preparing a text brings its columns**, or leaves the statement without a text. -/
theorem knowsColumns_prepare (h : (browsing server).KnowsColumns last? s) (sql : String)
    (native : Bool) (link : σ) :
    (browsing server).KnowsColumns (namesBehind? server (.prepare sql native) s link last?)
      (s.prepare server sql native link).2.1 := by
  rcases hcompile : s.compile server sql native link with ⟨e | prepared, t, link'⟩
  · rw [prepare, hcompile]
    exact (waiting_of_compile h hcompile).knowsColumns
  · have hwaiting := waiting_of_compile h hcompile
    have hlast : namesBehind? server (.prepare sql native) s link last? = some t.columnNames := by
      refine (statements server).namesBehind?_of_some _ ?_ (described_of_compile hcompile)
      simp [StatementInterface.perform, statements, prepare, hcompile, StatementAnswer.succeeds]
    rw [prepare, hcompile, hlast]
    exact ⟨fun _ => rfl, hwaiting.types, hwaiting.reads⟩

/-- **Executing a text brings its columns**, or leaves the statement without a text. -/
theorem knowsColumns_execute (h : (browsing server).KnowsColumns last? s) (sql : String)
    (link : σ) :
    (browsing server).KnowsColumns (namesBehind? server (.execute sql) s link last?)
      (s.execute server sql link).2.1 := by
  rcases hcompile : s.compile server sql true link with ⟨e | prepared, t, link'⟩
  · rw [execute, hcompile]
    exact (waiting_of_compile h hcompile).knowsColumns
  · have hwaiting := waiting_of_compile h hcompile
    rcases perform_server_cases server prepared t link' with
      ⟨link₁, hrefused⟩ | ⟨completed, link₁, hfinished⟩
    · rw [execute, hcompile]
      dsimp only
      rw [hrefused]
      exact hwaiting.knowsColumns
    · have hlast : namesBehind? server (.execute sql) s link last? = some t.columnNames := by
        refine (statements server).namesBehind?_of_some _ ?_ (described_of_compile hcompile)
        simp [StatementInterface.perform, statements, execute, hcompile, hfinished,
          StatementAnswer.succeeds]
      rw [execute, hcompile]
      dsimp only
      rw [hfinished]
      exact knowsColumns_accept server prepared completed hlast hwaiting.types hwaiting.reads

/-! ## Any call -/

/-- **Every call keeps what the statement knows of its columns.** -/
theorem knowsColumns_perform (h : (browsing server).KnowsColumns last? s) (call : StatementCall)
    (link : σ) :
    (browsing server).KnowsColumns (namesBehind? server call s link last?)
      ((statements server).perform call s link).2.1 := by
  cases call with
  | prepare sql native => exact knowsColumns_prepare h sql native link
  | execute sql => exact knowsColumns_execute h sql link
  | run =>
    rw [namesBehind?, (statements server).namesBehind?_of_none _ rfl]
    exact knowsColumns_run h link
  | _ =>
    rw [namesBehind?, (statements server).namesBehind?_of_none _ rfl]
    exact h.of_browsed ((browsing server).browsed_perform rfl s link)

end PortableSql.Postgres.Statement
