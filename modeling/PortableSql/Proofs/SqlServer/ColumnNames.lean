import PortableSql.Proofs.SqlServer.Rows
import PortableSql.Proofs.Statement.ColumnNames

/-!
# Names of columns of a SQL Server statement

Columns come with the results of an execution, and those of the first result count. An execution that
fails leaves what there was before.
-/
namespace PortableSql.SqlServer.Statement

variable {σ : Type} {server : Link σ} {s t : Statement} {link link' : σ}
  {last? : Option (List String)}

/-- The names of the columns of the first result. -/
def namesOf (sets : List ResultSet) : List String :=
  ((sets.head?.map ResultSet.columns).getD []).map (·.1)

/-- The names of the columns that the server answers an execution with, if it answers. -/
def answeredNames? (server : Link σ) (s : Statement) (link : σ) :
    StatementCall → Option (List String)
  | .run => do
    let text ← s.requirePrepared.toOption
    let sets ← (server.send text s.params link).1.toOption
    pure (namesOf sets)
  | .execute sql => do
    let out := renderSql dialect ⟨true, dialect.coalescing⟩ sql
    let sets ← (server.send out.sql (.ofLength out.slots.nativeCount) link).1.toOption
    pure (namesOf sets)
  | _ => none

theorem typesNamed_of_length (server : Link σ) (h : s.columnTypes.length = s.columnNames.length) :
    (browsing server).TypesNamed s := by
  intro cursor name position hnamed
  obtain ⟨declared, hdeclared⟩ := hnamed.exists_get? h
  change typeAt cursor.current? s (.name name) position =
    typeAt cursor.current? s (.position position) position
  rw [typeAt, typeAt, hdeclared]
  cases currentType? position { s with current? := cursor.current? } <;> rfl

/-! ## Texts and executions -/

/-- Without an execution nothing may be asked about columns. -/
theorem knowsColumns_of_unexecuted (server : Link σ) (hstate : s.state.checkExecuted ≠ .ok ())
    (htypes : s.columnTypes.length = s.columnNames.length) (hcolumns : s.columns = .empty) :
    (browsing server).KnowsColumns last? s := by
  refine ⟨fun hallowed => absurd hallowed hstate, typesNamed_of_length server htypes, ?_⟩
  change s.columns.Reads s.columnNames
  rw [hcolumns]
  exact ColumnIndex.reads_empty _

theorem knowsColumns_new (server : Link σ) : (browsing server).KnowsColumns none new :=
  knowsColumns_of_unexecuted server nofun rfl rfl

/-- The results of an execution bring the columns of the first one. -/
theorem knowsColumns_accept (server : Link σ) (sets : List ResultSet) (affected : Nat)
    (s : Statement) :
    (browsing server).KnowsColumns (some (namesOf sets)) (s.accept sets affected) :=
  ⟨fun _ => rfl, typesNamed_of_length server (by simp [accept]), ColumnIndex.reads_empty _⟩

/-- The names that the calls have brought last, behind one more call. -/
abbrev namesBehind? (server : Link σ) (call : StatementCall) (s : Statement) (link : σ)
    (last? : Option (List String)) : Option (List String) :=
  (statements server).namesBehind? (answeredNames? server) call s link last?

/-- **An execution that succeeds brings its columns, and one that fails leaves those of before.**
`started` is the statement that is about to send the text. -/
theorem knowsColumns_of_sends {call : StatementCall} {started : Statement} (text : String)
    (hcall : ∀ outcome t link', started.perform server text link = (outcome, t, link') →
      (statements server).perform call s link = (.done outcome, t, link'))
    (hnames : ∀ sets, (server.send text started.params link).1 = .ok sets →
      answeredNames? server s link call = some (namesOf sets))
    (hstarted : (browsing server).KnowsColumns last? started) :
    (browsing server).KnowsColumns (namesBehind? server call s link last?)
      ((statements server).perform call s link).2.1 := by
  rcases hperform : started.perform server text link with ⟨e | _, t, link'⟩
  · have hfails := hcall _ _ _ hperform
    have hlast : namesBehind? server call s link last? = last? := by
      rw [namesBehind?, StatementInterface.namesBehind?, hfails]
      rfl
    rw [hlast, hfails, perform_eq_error hperform]
    exact hstarted
  · have hsucceeds := hcall _ _ _ hperform
    obtain ⟨sets, affected, hserver, rfl⟩ := perform_eq_ok hperform
    have hlast : namesBehind? server call s link last? = some (namesOf sets) :=
      (statements server).namesBehind?_of_some _ (by rw [hsucceeds]; rfl) (hnames sets hserver)
    rw [hlast, hsucceeds]
    exact knowsColumns_accept server sets affected started

/-- A run that finds nothing prepared changes nothing; any other sends a text. -/
theorem knowsColumns_run (h : (browsing server).KnowsColumns last? s) (link : σ) :
    (browsing server).KnowsColumns (namesBehind? server .run s link last?)
      ((statements server).perform .run s link).2.1 := by
  cases hprepared : s.requirePrepared with
  | error e =>
    have hfails : (statements server).perform .run s link = (.done (.error e), s, link) := by
      rw [StatementInterface.perform_run_iff]
      simp [statements, run, hprepared]
    have hlast : namesBehind? server .run s link last? = last? := by
      rw [namesBehind?, StatementInterface.namesBehind?, hfails]
      rfl
    rw [hlast, hfails]
    exact h
  | ok text =>
    refine knowsColumns_of_sends text ?_ ?_ h
    · intro outcome t link' hperform
      rw [StatementInterface.perform_run_iff]
      simpa [statements, run, hprepared] using hperform
    · intro sets hsets
      simp [answeredNames?, hprepared, hsets, Except.toOption]

theorem knowsColumns_execute (last? : Option (List String)) (server : Link σ) (sql : String)
    (s : Statement) (link : σ) :
    (browsing server).KnowsColumns (namesBehind? server (.execute sql) s link last?)
      ((statements server).perform (.execute sql) s link).2.1 := by
  refine knowsColumns_of_sends (s.compile sql true).2 ?_ ?_
    (knowsColumns_of_unexecuted server nofun rfl rfl : (browsing server).KnowsColumns last?
      (s.compile sql true).1)
  · intro outcome t link' hperform
    exact (statements server).perform_execute_iff.2 hperform
  · intro sets hsets
    have hsend : (server.send (renderSql dialect ⟨true, dialect.coalescing⟩ sql).sql
        (.ofLength (renderSql dialect ⟨true, dialect.coalescing⟩ sql).slots.nativeCount) link).1 =
          .ok sets := hsets
    simp [answeredNames?, hsend, Except.toOption]

/-! ## Any call -/

/-- **Every call keeps what the statement knows of its columns.** -/
theorem knowsColumns_perform (h : (browsing server).KnowsColumns last? s) (call : StatementCall)
    (link : σ) :
    (browsing server).KnowsColumns (namesBehind? server call s link last?)
      ((statements server).perform call s link).2.1 := by
  cases call with
  | prepare sql native => exact knowsColumns_of_unexecuted server nofun rfl rfl
  | execute sql => exact knowsColumns_execute last? server sql s link
  | run => exact knowsColumns_run h link
  | _ =>
    rw [namesBehind?, (statements server).namesBehind?_of_none _ rfl]
    exact h.of_browsed ((browsing server).browsed_perform rfl s link)

end PortableSql.SqlServer.Statement
