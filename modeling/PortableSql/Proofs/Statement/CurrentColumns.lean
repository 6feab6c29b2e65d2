import PortableSql.Postgres.Script
import PortableSql.Proofs.Postgres.ColumnNames
import PortableSql.Proofs.SqlServer.ColumnNames
import PortableSql.SqlServer.Script

/-!
# Columns are found among the present ones

Statements keep the names of columns that they have read once, and have to read them anew when other
columns take the place of the first. They do, whatever is called and whatever the server answers: a
name always stands for the last of the present columns that has it.
-/
namespace PortableSql

/-- **A name stands for the last column of the present result that has it.** Behind every history of
calls on a new statement, in every call that the state allows, a name is taken for the last of these
columns that has it, and is not found if none has: on PostgreSQL those of the last text that was
prepared, or executed, with success, and on SQL Server those of the last execution that succeeded. -/
theorem column_names_current {σ τ : Type} (postgres : Postgres.Link σ) (sqlServer : SqlServer.Link τ)
    (calls : List StatementCall) :
    (∀ link : σ,
      let api := Postgres.statements postgres
      let described? :=
        api.lastNames? (Postgres.Statement.describedNames? postgres) calls .new link none
      api.NamesCurrent Postgres.Statement.locate StatementState.checkPrepared described?
        (api.history calls .new link).2.1) ∧
    ∀ link : τ,
      let api := SqlServer.statements sqlServer
      let answered? :=
        api.lastNames? (SqlServer.Statement.answeredNames? sqlServer) calls .new link none
      api.NamesCurrent SqlServer.Statement.locate StatementState.checkExecuted answered?
        (api.history calls .new link).2.1 := by
  constructor
  · intro link api described?
    exact Browsing.namesCurrent_history
      (fun _ _ link call h => Postgres.Statement.knowsColumns_perform h call link)
      (Postgres.Statement.knowsColumns_new postgres) calls link
  · intro link api answered?
    exact Browsing.namesCurrent_history
      (fun _ _ link call h => SqlServer.Statement.knowsColumns_perform h call link)
      (SqlServer.Statement.knowsColumns_new sqlServer) calls link

/-- A name is read as the first of two columns; behind another text, which has two columns of that
name, it is the second one. -/
theorem column_names_current_behind_another_text :
    let api := Postgres.statements Postgres.Script.link
    let server := Postgres.Script.new
      [("t", ⟨[], [("id", 23), ("x", 23)], false, []⟩), ("u", ⟨[], [("id", 23), ("ID", 25)], false, []⟩)]
      false false
    let calls : List StatementCall :=
      [.prepare "t" false, .columnType (.name "Id"), .prepare "u" false]
    let s := (api.history calls .new server).2.1
    s.state.checkPrepared = .ok () ∧
      api.lastNames? (Postgres.Statement.describedNames? Postgres.Script.link) calls .new server none =
        some ["id", "ID"] ∧
      (s.locate (.name "Id")).1 = .ok 2 := by
  intro api server calls s
  have hstate : s.state = .prepared := by
    subst s calls server api
    decide +kernel
  have hchecked : s.state.checkPrepared = .ok () := by
    rw [hstate]
    rfl
  have hdescribed : api.lastNames? (Postgres.Statement.describedNames? Postgres.Script.link) calls .new
      server none = some ["id", "ID"] := by
    subst s calls server api
    decide +kernel
  refine ⟨hchecked, hdescribed, ?_⟩
  obtain ⟨names, hlast, hresolved⟩ :=
    ((column_names_current Postgres.Script.link SqlServer.Script.link calls).1 server).column hchecked
  obtain rfl : ["id", "ID"] = names := Option.some_inj.mp (hdescribed.symm.trans hlast)
  have hsecond : OneBased.get? ["id", "ID"] 2 = some "ID" := rfl
  have hfold : foldName "ID" = foldName "Id" := by decide +kernel
  cases (hresolved "Id").1 with
  | missing unnamed => exact absurd hfold (unnamed "ID" (by simp))
  | @last position named same =>
    rw [same]
    obtain ⟨other, hother, -⟩ := named.named
    match position, hother with
    | 1, _ => exact absurd hfold (named.last 2 "ID" (by decide) hsecond)
    | 2, _ => rfl

end PortableSql
