import PortableSql.Proofs.Postgres.Observable
import PortableSql.Proofs.Postgres.Parameters
import PortableSql.Proofs.SqlServer.Parameters

/-!
# A text leaves no trace of the past

Preparing a text, or executing it, makes the same of every statement that can be observed: what it
answers and sends from then on does not depend on what it was used for before. That is so also if the
server refuses the text.
-/
namespace PortableSql

/-- The statements of a product start anew with a text: it answers the same and leaves the same link
on a used statement as on a new one, and then no history tells the two apart. -/
def StatementInterface.StartsAnew {σ S : Type} (api : StatementInterface σ S) : Prop :=
  ∀ (call : StatementCall) (used : S) (link : σ), call.keepsText = false →
    let left := api.perform call used link
    let right := api.perform call api.new link
    left.1 = right.1 ∧ left.2.2 = right.2.2 ∧ api.Indistinguishable left.2.1 right.2.1 left.2.2

theorem Postgres.startsAnew {σ : Type} (server : Postgres.Link σ) :
    (Postgres.statements server).StartsAnew := by
  intro call used link hcall
  obtain ⟨hanswer, hview, hlink⟩ :=
    viewed_eq_iff.1 (Postgres.Statement.viewed_perform_text server hcall used .new link)
  exact ⟨hanswer, hlink, Postgres.Statement.indistinguishable_of_observable server hview _⟩

/-- On SQL Server a text resets the whole statement. -/
theorem SqlServer.Statement.perform_text {σ : Type} (server : SqlServer.Link σ)
    {call : StatementCall} (hcall : call.keepsText = false) (s t : SqlServer.Statement) (link : σ) :
    (SqlServer.statements server).perform call s link =
      (SqlServer.statements server).perform call t link := by
  cases call with
  | prepare sql native => rfl
  | execute sql => rfl
  | _ => cases hcall

theorem SqlServer.startsAnew {σ : Type} (server : SqlServer.Link σ) :
    (SqlServer.statements server).StartsAnew := by
  intro call used link hcall
  rw [SqlServer.Statement.perform_text server hcall used (SqlServer.statements server).new link]
  exact ⟨rfl, rfl, fun calls => ⟨rfl, rfl, rfl, rfl, rfl⟩⟩

/-- **A text leaves no trace of the past.** Call a text, prepared or executed, on a statement that was
used before in any way, and on a new one, on servers that answer the same. The two answer it the same,
and every history of calls after it: the same events, the same requests recorded, and behind each the
same state and text of the statement. -/
theorem text_leaves_no_trace {σ τ : Type} (postgres : Postgres.Link σ)
    (sqlServer : SqlServer.Link τ) :
    (Postgres.statements postgres.recorded).StartsAnew ∧
      (SqlServer.statements sqlServer.recorded).StartsAnew := by
  constructor
  · exact Postgres.startsAnew postgres.recorded
  · exact SqlServer.startsAnew sqlServer.recorded

end PortableSql
