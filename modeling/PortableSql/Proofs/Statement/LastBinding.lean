import Mathlib
import PortableSql.Proofs.Postgres.Parameters
import PortableSql.Proofs.SqlServer.Parameters

/-!
# What is bound last is sent

Between the preparation of a portable text and a run of it there may be any calls: values are bound,
rows are fetched, columns are read and the text is run, with success or without. The run sends one
parameter for each that the product counts, and each is what was bound to its slot last.
-/
namespace PortableSql

/-- **What is bound last is sent.** After any calls on a prepared portable text, a binding that fails
leaves the statement as it is, and a run sends the text with, in every slot, the value bound last to
an identifier with that slot, or NULL. PostgreSQL gets as many parameters as it reported, in the
types it reported; SQL Server gets one for each slot of the text, in the type of the value. -/
theorem last_binding_is_sent {σ τ : Type} (postgres : Postgres.Link σ)
    (sqlServer : SqlServer.Link τ) (sql : String) {calls : List StatementCall}
    (hcalls : ∀ call ∈ calls, call.keepsText = true) :
    (∀ (old s : Postgres.Statement) (link link' : σ × List Postgres.Request),
      let api := Postgres.statements postgres.recorded
      let out := renderSql Postgres.dialect ⟨false, true⟩ sql
      api.prepare sql false old link = (.ok (), s, link') →
      let reached := api.history calls s link'
      (∀ param value? e, (api.setValue param value? reached.2.1).1 = .error e →
        (api.setValue param value? reached.2.1).2 = reached.2.1) ∧
      ∃ (prepared : Postgres.Prepared) (params : Postgres.Cells),
        (postgres.prepare out.sql link.1).1 = some prepared ∧
        (api.run reached.2.1 reached.2.2).2.2.2 =
          reached.2.2.2 ++ [.execute prepared.sql params] ∧
        params.length = prepared.params.length ∧
        ∀ slot oid, OneBased.get? prepared.params slot = some oid →
          ∃ cell, OneBased.get? params slot = some cell ∧
            Postgres.cellOf (Postgres.typeOfOid oid) (lastBinding out.slots slot reached.1) =
              .ok cell) ∧
    ∀ (old s : SqlServer.Statement) (link link' : τ × List SqlServer.Request),
      let api := SqlServer.statements sqlServer.recorded
      let out := renderSql SqlServer.dialect ⟨false, true⟩ sql
      api.prepare sql false old link = (.ok (), s, link') →
      let reached := api.history calls s link'
      (∀ param value? e, (api.setValue param value? reached.2.1).1 = .error e →
        (api.setValue param value? reached.2.1).2 = reached.2.1) ∧
      ∃ (params : SqlServer.Cells) (rest : List SqlServer.Request),
        (api.run reached.2.1 reached.2.2).2.2.2 =
          reached.2.2.2 ++ .running out.sql params :: rest ∧
        (rest = [] ∨ rest = [.batch SqlServer.Link.rowCountSql]) ∧
        params.length = out.slots.nativeCount ∧
        ∀ slot, 1 ≤ slot → slot ≤ out.slots.nativeCount →
          ∃ cell, OneBased.get? params slot = some cell ∧
            SqlServer.cellOf (lastBinding out.slots slot reached.1) = .ok cell := by
  constructor
  · intro old s link link' api out hprepare
    obtain ⟨prepared, hserver, hworking⟩ := Postgres.Statement.exists_working_of_prepare hprepare
    have hreached := hworking.history link' hcalls
    exact ⟨fun _ _ _ herror => hreached.setValue_of_error herror, prepared, _, hserver,
      Postgres.Statement.sent_run_of_working hreached _, hreached.length,
      fun _ _ hoid => Postgres.Statement.exists_cell_of_working hreached hoid⟩
  · intro old s link link' api out hprepare
    cases hprepare
    have hworking := SqlServer.Statement.working_prepare sqlServer.recorded sql
    have hreached := hworking.history link hcalls
    have hprepared :=
      SqlServer.Statement.requirePrepared_eq_ok hreached.begun (congrArg Prod.fst hreached.text)
    obtain ⟨rest, hsent, hrest⟩ := SqlServer.Statement.sent_run_of_prepared hprepared sqlServer _
    exact ⟨fun _ _ _ herror => hreached.setValue_of_error herror, _, rest, hsent, hrest,
      hreached.length, fun _ hpos hle => hreached.exists_cell hpos hle⟩

/-- A text that is no number is not bound to a number, and an identifier that nothing was bound to is
NULL. -/
theorem last_binding_is_sent_despite_failure :
    let api := Postgres.statements Postgres.Script.link.recorded
    let calls : List StatementCall := [.setValue (.position 7) (some (.int16 5)),
      .setValue (.position 7) (some (.utf8 "seven")), .run, .fetch]
    let server := Postgres.Script.new [("$1,$2,$1", ⟨[23, 25], [], false, []⟩)] false false
    let start := api.prepare "?7,?8,?7" false .new (server, [])
    let reached := api.history calls start.2.1 start.2.2
    start.1 = .ok () ∧ (∀ call ∈ calls, call.keepsText = true) ∧
      ∃ params : Postgres.Cells,
        (api.run reached.2.1 reached.2.2).2.2.2 = reached.2.2.2 ++ [.execute "$1,$2,$1" params] ∧
        params.length = 2 ∧ OneBased.get? params 1 = some (some [0, 0, 0, 5]) ∧
        OneBased.get? params 2 = some none := by
  intro api calls server start reached
  have hprepare : start.1 = .ok () := by
    subst start server api
    cbv
  have hcalls : ∀ call ∈ calls, call.keepsText = true := by decide
  have hfirst : lastBinding (renderSql Postgres.dialect ⟨false, true⟩ "?7,?8,?7").slots 1
      reached.1 = some (.int16 5) := by
    subst reached start server calls api
    cbv
  have hsecond : lastBinding (renderSql Postgres.dialect ⟨false, true⟩ "?7,?8,?7").slots 2
      reached.1 = none := by
    subst reached start server calls api
    cbv
  obtain ⟨-, prepared, params, hserver, hsent, hlength, hcell⟩ :=
    (last_binding_is_sent Postgres.Script.link SqlServer.Script.link "?7,?8,?7" hcalls).1
      .new start.2.1 (server, []) start.2.2 (Prod.ext hprepare rfl)
  have hprepared : prepared = ⟨"$1,$2,$1", [23, 25], []⟩ := by
    rw [← Option.some_inj, ← hserver]
    cbv
  refine ⟨hprepare, hcalls, params, ?_, ?_, ?_, ?_⟩
  · rw [hsent, hprepared]
  · rw [hlength, hprepared]
    rfl
  · obtain ⟨cell, hget, hbound⟩ := hcell 1 23 (by rw [hprepared]; rfl)
    rw [hfirst] at hbound
    rw [hget, Except.ok.inj hbound.symm]
    cbv
  · obtain ⟨cell, hget, hbound⟩ := hcell 2 25 (by rw [hprepared]; rfl)
    rw [hsecond] at hbound
    rw [hget, Except.ok.inj hbound.symm]

end PortableSql
