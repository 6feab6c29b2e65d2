import Mathlib
import PortableSql.Postgres.Script
import PortableSql.Proofs.Postgres.Rows
import PortableSql.Proofs.SqlServer.Rows
import PortableSql.SqlServer.Script

/-!
# Every row is delivered once

After a successful execution the rows of the server's answer are handed out in order, one for each
fetch, whatever else is called in between; then the end is reported once, and every further fetch is
refused. Reading is reading from the row fetched last, and is refused before the first row and behind
the last.
-/
namespace PortableSql

/-- **Every row is delivered once and in order.** When a run or a text succeeds, the server has
answered with some rows, and until the next text or run the statement delivers them: behind `k`
fetches the next one answers true while there is a row, false behind the last one, and that the end is
past from then on; and what is read there is read from row `k`, or refused if there is no such row. -/
theorem rows_delivered_once_in_order {σ τ : Type} (postgres : Postgres.Link σ)
    (sqlServer : SqlServer.Link τ) :
    (∀ (call : StatementCall) (s t : Postgres.Statement) (link link' : σ),
      let api := Postgres.statements postgres
      call.executes = true → api.perform call s link = (.done (.ok ()), t, link') →
      ∃ rows, s.answeredRows? postgres link call = some rows ∧
        api.Delivers rows (Postgres.readColumn t.columnNames t.columnTypes)
          (Postgres.readNull t.columnNames) t link') ∧
    (∀ (call : StatementCall) (s t : SqlServer.Statement) (link link' : τ),
      let api := SqlServer.statements sqlServer
      call.executes = true → api.perform call s link = (.done (.ok ()), t, link') →
      ∃ rows, s.answeredRows? sqlServer link call = some rows ∧
        api.Delivers rows (SqlServer.readColumn t.columnNames) (SqlServer.readNull t.columnNames) t
          link') ∧
    Error.message (.sequence .pastEnd) = "Fetch after data end" := by
  refine ⟨?_, ?_, rfl⟩
  · intro call s t link link' api hcall hperform
    exact Postgres.Statement.exists_delivers_of_executes hcall hperform
  · intro call s t link link' api hcall hperform
    exact SqlServer.Statement.exists_delivers_of_executes hcall hperform

/-- A server answers two rows: behind two fetches, with other calls in between, the second row is read
and no third is found. -/
theorem both_rows_delivered :
    let api := Postgres.statements Postgres.Script.link
    let reply : Postgres.Reply :=
      ⟨[[some [0, 0, 0, 7]], [some [0, 0, 0, 8]]], 0, false, false, false⟩
    let server := Postgres.Script.new [("t", ⟨[], [("id", 23)], false, [reply]⟩)] false false
    let prepared := api.perform (.prepare "t" false) .new server
    let started := api.perform .run prepared.2.1 prepared.2.2
    let calls : List StatementCall := [.isNull (.position 1), .fetch, .columnType (.name "ID"), .fetch]
    let reached := (api.history calls started.2.1 started.2.2).2.1
    started.1 = .done (.ok ()) ∧ (∀ call ∈ calls, call.keepsRows = true) ∧
      (api.fetch reached).1 = .ok false ∧
      (api.getValue (.name "id") .int32 reached).1 = .ok (some (.int32 8)) := by
  intro api reply server prepared started calls reached
  have hstarted : started.1 = .done (.ok ()) := by
    subst started prepared server reply api
    cbv
  have hcalls : ∀ call ∈ calls, call.keepsRows = true := by decide
  obtain ⟨rows, hrows, hdelivers⟩ :=
    (rows_delivered_once_in_order Postgres.Script.link SqlServer.Script.link).1 .run prepared.2.1
      started.2.1 prepared.2.2 started.2.2 rfl (Prod.ext hstarted rfl)
  have hanswer : prepared.2.1.answeredRows? Postgres.Script.link prepared.2.2 .run =
      some reply.rows := by
    subst prepared server reply api
    decide +kernel
  obtain rfl : reply.rows = rows := Option.some_inj.mp (hanswer.symm.trans hrows)
  have hcolumns : started.2.1.columnNames = ["id"] ∧ started.2.1.columnTypes = [.integer] := by
    subst started prepared server reply api
    decide +kernel
  obtain ⟨hfetch, hread, -⟩ := hdelivers calls hcalls
  refine ⟨hstarted, hcalls, hfetch, ?_⟩
  rw [hread, hcolumns.1, hcolumns.2]
  cbv

end PortableSql
