import PortableSql.Postgres.Statement
import PortableSql.Proofs.Statement.Comparison

/-!
# What can be observed of a PostgreSQL statement

A text that the server does not prepare leaves the parameters and columns of the text before it in the
statement. They are hidden by the state: as long as nothing has been prepared every call is refused,
and the next text that the server prepares replaces them. `observable` is a statement without what is
hidden, and no call can tell it from the statement itself.
-/
namespace PortableSql

/-- What a statement answers for which nothing has been prepared. -/
def StatementCall.refusal : StatementCall → StatementAnswer
  | prepare .. | run | execute _ | setValue .. => .done (.error (.sequence .notPrepared))
  | fetch => .row (.error (.sequence .notExecuted))
  | rowsAffected => .count (.error (.sequence .notExecuted))
  | lastRowId => .key (.error (.sequence .notExecuted))
  | paramsCount | columnsCount => .count (.error (.sequence .notPrepared))
  | paramType _ | columnType _ => .type (.error (.sequence .notPrepared))
  | columnName _ => .name (.error (.sequence .notPrepared))
  | getValue .. => .value (.error (.sequence .noRow))
  | isNull _ => .row (.error (.sequence .noRow))

namespace Postgres.Statement

variable {σ : Type} (server : Link σ)

/-- The statement without the parameters and columns that its state hides. -/
def observable (s : Statement) : Statement :=
  if s.state = .undefined then
    { s with paramTypes := [], params := [], columnNames := [], columnTypes := [] }
  else s

@[simp] theorem state_observable (s : Statement) : s.observable.state = s.state := by
  rw [observable]
  split <;> rfl

@[simp] theorem lastSql?_observable (s : Statement) : s.observable.lastSql? = s.lastSql? := by
  rw [observable]
  split <;> rfl

/-- Without anything prepared every call on the text is refused and changes nothing. -/
theorem perform_undefined {s : Statement} (hs : s.state = .undefined) {call : StatementCall}
    (hcall : call.keepsText = true) (link : σ) :
    (statements server).perform call s link = (call.refusal, s, link) := by
  cases call with
  | prepare sql native => cases hcall
  | execute sql => cases hcall
  | _ =>
    simp [StatementInterface.perform, statements, StatementCall.refusal, run, requirePrepared, fetch,
      affected, lastRowId, paramsCount, paramType, columnsCount, columnName, columnType, setValue,
      getValue, isNull, currentCell, hs, StatementState.checkPrepared, StatementState.checkExecuted,
      StatementState.checkCanFetch, StatementState.checkHasData, bind, Except.bind]

/-! ## A text leaves nothing of the text before it -/

/-- Whether the server prepares a text does not depend on the statement, and what can be observed
afterwards does not either. -/
theorem compile_cases (sql : String) (native : Bool) (s t : Statement) (link : σ) :
    (∃ prepared fresh link',
      s.compile server sql native link = (.ok prepared, fresh, link') ∧
      t.compile server sql native link = (.ok prepared, fresh, link')) ∨
    ∃ e u v link', s.compile server sql native link = (.error e, u, link') ∧
      t.compile server sql native link = (.error e, v, link') ∧ u.observable = v.observable := by
  have htext : (s.forget sql native).2 = (t.forget sql native).2 := rfl
  rw [compile, compile]
  dsimp only
  rw [htext]
  rcases hserver : server.prepare (t.forget sql native).2 link with ⟨_ | prepared, link'⟩
  · exact .inr ⟨_, _, _, link', rfl, rfl, rfl⟩
  · exact .inl ⟨prepared, _, link', rfl, rfl⟩

/-- **Preparing or executing a text makes the same of all statements.** -/
theorem viewed_perform_text {call : StatementCall} (hcall : call.keepsText = false)
    (s t : Statement) (link : σ) :
    viewed observable ((statements server).perform call s link) =
      viewed observable ((statements server).perform call t link) := by
  cases call with
  | prepare sql native =>
    rcases compile_cases server sql native s t link with
      ⟨prepared, fresh, link', hs, ht⟩ | ⟨e, u, v, link', hs, ht, hview⟩
    · simp [StatementInterface.perform, statements, prepare, hs, ht]
    · simp [StatementInterface.perform, statements, prepare, hs, ht, viewed, hview]
  | execute sql =>
    rcases compile_cases server sql true s t link with
      ⟨prepared, fresh, link', hs, ht⟩ | ⟨e, u, v, link', hs, ht, hview⟩
    · simp [StatementInterface.perform, statements, execute, hs, ht]
    · simp [StatementInterface.perform, statements, execute, hs, ht, viewed, hview]
  | _ => cases hcall

/-! ## Nothing else looks behind the state -/

/-- **No call tells a statement from what can be observed of it.** -/
theorem viewed_perform_observable (call : StatementCall) (s : Statement) (link : σ) :
    viewed observable ((statements server).perform call s.observable link) =
      viewed observable ((statements server).perform call s link) := by
  by_cases hstate : s.state = .undefined
  · by_cases hcall : call.keepsText = true
    · have hsame : s.observable.observable = s.observable := by
        simp [observable, hstate]
      have hview : s.observable.state = .undefined := by rw [state_observable, hstate]
      rw [perform_undefined server hstate hcall, perform_undefined server hview hcall]
      simp [viewed, hsame]
    · exact viewed_perform_text server (by simpa using hcall) s.observable s link
  · have hsame : s.observable = s := by simp [observable, hstate]
    rw [hsame]

/-- Statements of which the same can be observed cannot be told apart. -/
theorem indistinguishable_of_observable {s t : Statement} (h : s.observable = t.observable)
    (link : σ) : (statements server).Indistinguishable s t link := by
  refine (statements server).indistinguishable_of_view observable ?_ ?_ ?_ h link
  · intro call s t link hview
    calc viewed observable ((statements server).perform call s link)
        = viewed observable ((statements server).perform call s.observable link) :=
          (viewed_perform_observable server call s link).symm
      _ = viewed observable ((statements server).perform call t.observable link) := by rw [hview]
      _ = viewed observable ((statements server).perform call t link) :=
          viewed_perform_observable server call t link
  · intro s t hview
    have hstate := congrArg Statement.state hview
    simpa [statements] using hstate
  · intro s t hview
    have htext := congrArg Statement.lastSql? hview
    simpa [statements] using htext

end Postgres.Statement

end PortableSql
