import PortableSql.Postgres.Script
import PortableSql.Proofs.Transaction.Servers
import PortableSql.SqlServer.Script
import PortableSql.Transaction.Connection

/-!
# What a dropped transaction leaves behind

A transaction that is dropped while it runs is ended by one request, a commit or a rollback as its
parameters say, and whatever the server makes of that the connection is free for the next transaction.
So the server is left with an open transaction exactly when it refused that request. If it accepts
rollbacks, only the commit of a drop is left to be refused.
-/
namespace PortableSql

section

variable {σ : Type} (control : TransactionControl σ)

/-- The request that ends a transaction when it is dropped. -/
def TransactionControl.ending (params : TransactionParams) : String :=
  if params.autoCommitOnDrop then control.commit else control.rollback

/-- What a drop sends, and whether that was accepted. -/
def Transaction.sentOnDrop (tx : Transaction) (link : σ) : List BatchEvent :=
  if tx.state.isStarted then
    let sql := control.ending tx.params
    [⟨sql, (control.batch sql link).1.isOk⟩]
  else []

/-- A transaction is opened, called and dropped. One that cannot be started has been dropped by the
opening. -/
def Connection.lifetime (params : TransactionParams) (calls : List TransactionCall)
    (conn : Connection σ) : Connection σ :=
  match conn.openTransaction control params with
  | (.error _, conn) => conn
  | (.ok tx, conn) =>
    let (_, tx, link) := TransactionCall.history control calls tx conn.link
    { conn with link := link }.closeTransaction control tx

/-- Of the beginnings and ends that were accepted, the last one is a beginning. -/
def LeftOpen (params : TransactionParams) (log : List BatchEvent) : Prop :=
  (boundaries control params log).getLast? = some .begins

/-- Every rollback that was sent was accepted. -/
def AcceptsRollbacks (log : List BatchEvent) : Prop :=
  ∀ event ∈ log, event.sql = control.rollback → event.accepted = true

/-- The transaction still runs when it is dropped, it is to be committed then, and the server refuses
the commit. -/
def CommitRefusedOnDrop (params : TransactionParams) (calls : List TransactionCall) (link : σ) :
    Prop :=
  ∃ tx opened, (Connection.ofLink link).openTransaction control params = (.ok tx, opened) ∧
    let ended := TransactionCall.history control calls tx opened.link
    ended.2.1.state = .started ∧ params.autoCommitOnDrop = true ∧
      (control.batch control.commit ended.2.2).1.isOk = false

/-- Where rollbacks are accepted, no transaction is left open on a connection that is free again. -/
def NeverLeftOpen : Prop :=
  ∀ params calls link,
    let conn := (Connection.ofLink (link, [])).lifetime control.recorded params calls
    AcceptsRollbacks control conn.link.2 →
      conn.inTransaction = false ∧ ¬LeftOpen control params conn.link.2

/-- Where rollbacks are accepted, a transaction is left open on a connection that is free again if
the commit of the drop was refused, and only then. -/
def LeftOpenByRefusedCommit : Prop :=
  ∀ params calls link,
    let conn := (Connection.ofLink (link, [])).lifetime control.recorded params calls
    AcceptsRollbacks control conn.link.2 →
      conn.inTransaction = false ∧
        (LeftOpen control params conn.link.2 ↔ CommitRefusedOnDrop control params calls link)

end

/-! ## The request of a drop -/

section

variable {σ : Type} {control : TransactionControl σ} {params : TransactionParams}
  {log : List BatchEvent}

/-- A drop sends nothing else, and does the same where the requests are recorded. -/
theorem drop_recorded (tx : Transaction) (link : σ) (log : List BatchEvent) :
    tx.drop control.recorded (link, log) =
      (tx.drop control link, log ++ tx.sentOnDrop control link) := by
  obtain ⟨params, state⟩ := tx
  by_cases hstate : state = .started
  · subst hstate
    cases hauto : params.autoCommitOnDrop with
    | true =>
      rcases hbatch : control.batch control.commit link with ⟨_ | _, after⟩ <;>
        simp [Transaction.drop, Transaction.sentOnDrop, Transaction.commit, Transaction.finish,
          TransactionControl.recorded, TransactionControl.ending, TransactionState.isStarted,
          checkStarted_started, hauto, hbatch]
    | false =>
      rcases hbatch : control.batch control.rollback link with ⟨_ | _, after⟩ <;>
        simp [Transaction.drop, Transaction.sentOnDrop, Transaction.rollback, Transaction.finish,
          TransactionControl.recorded, TransactionControl.ending, TransactionState.isStarted,
          checkStarted_started, hauto, hbatch]
  · simp [Transaction.drop, Transaction.sentOnDrop, isStarted_eq_false hstate]

theorem boundary?_ending (law : control.Lawful) (params : TransactionParams) :
    boundary? control params ⟨control.ending params, true⟩ = some .ends := by
  unfold TransactionControl.ending
  split
  · exact boundary?_commit law
  · exact boundary?_rollback law

/-- **A drop leaves a transaction open if its request is refused**, and only then. -/
theorem leftOpen_drop_iff (law : control.Lawful) {state : TransactionState}
    (h : Passes false (boundaries control params log) state.isStarted) (link : σ) :
    LeftOpen control params (log ++ (Transaction.mk params state).sentOnDrop control link) ↔
      state = .started ∧ (control.batch (control.ending params) link).1.isOk = false := by
  have hmirrors : Mirrors control params ⟨params, state⟩ log := Passes.mirrors h
  have hrunning := hmirrors.started_iff
  rw [LeftOpen, boundaries_append]
  by_cases hstate : state = .started
  · have hsent : (Transaction.mk params state).sentOnDrop control link =
        [⟨control.ending params, (control.batch (control.ending params) link).1.isOk⟩] := by
      simp [Transaction.sentOnDrop, TransactionState.isStarted, hstate]
    rw [hsent]
    cases hok : (control.batch (control.ending params) link).1.isOk with
    | true => simp [boundaries, boundary?_ending law]
    | false => simpa [boundaries, hstate] using hrunning.1 hstate
  · have hsent : (Transaction.mk params state).sentOnDrop control link = [] := by
      simp [Transaction.sentOnDrop, isStarted_eq_false hstate]
    rw [hsent]
    simpa [boundaries, hstate] using mt hrunning.2 hstate

/-! ## From the opening to the drop -/

/-- A free connection opens a transaction by starting it, which is dropped if that fails. -/
theorem openTransaction_autostart (control : TransactionControl σ) (h : params.autostart = true)
    (link : σ) :
    (Connection.ofLink link).openTransaction control params =
      match (Transaction.new params).start control link with
      | (.ok _, tx, link) => (.ok tx, ⟨link, true⟩)
      | (.error e, tx, link) => (.error e, .closeTransaction control tx ⟨link, true⟩) := by
  have hfree : ¬(Connection.ofLink link).inTransaction = true := Bool.false_ne_true
  rw [Connection.openTransaction, if_neg hfree, if_pos h]
  rfl

/-- A transaction is opened, or dropped by the opening because it cannot be started. -/
theorem openTransaction_cases (law : control.Lawful) (params : TransactionParams) (link : σ) :
    (∃ state sent next,
      (Connection.ofLink link).openTransaction control params =
        (.ok ⟨params, state⟩, ⟨next, true⟩) ∧
      (Connection.ofLink (link, [])).openTransaction control.recorded params =
        (.ok ⟨params, state⟩, ⟨(next, sent), true⟩) ∧
      Passes false (boundaries control params sent) state.isStarted) ∨
    ∃ e sent state next,
      (Connection.ofLink link).openTransaction control params =
        (.error e, ⟨(Transaction.mk params state).drop control next, false⟩) ∧
      (Connection.ofLink (link, [])).openTransaction control.recorded params =
        (.error e, ⟨((Transaction.mk params state).drop control next,
          sent ++ (Transaction.mk params state).sentOnDrop control next), false⟩) ∧
      Starting control params .undefined sent (.error e) state := by
  cases hauto : params.autostart with
  | false =>
    left
    refine ⟨.undefined, [], link, ?_, ?_, .nil false⟩
    · simp [Connection.openTransaction, Connection.ofLink, hauto, Transaction.new]
    · simp [Connection.openTransaction, Connection.ofLink, hauto, Transaction.new]
  | true =>
    obtain ⟨sent, answer, state, next, hdone, hrecorded, hstarting⟩ :=
      made_start law (.new params) link []
    rw [openTransaction_autostart control hauto, openTransaction_autostart control.recorded hauto,
      hdone, hrecorded]
    cases answer with
    | ok =>
      left
      exact ⟨state, sent, next, rfl, rfl, hstarting.passes law⟩
    | error e =>
      right
      refine ⟨e, sent, state, next, rfl, ?_, hstarting⟩
      simp only [Connection.closeTransaction, drop_recorded]
      rfl

/-- The request of a drop is a rollback unless it is the commit. -/
theorem isOk_ending_of_accepts {state : TransactionState} {link : σ}
    (hauto : params.autoCommitOnDrop = false) (hstate : state = .started)
    (h : AcceptsRollbacks control (log ++ (Transaction.mk params state).sentOnDrop control link)) :
    (control.batch (control.ending params) link).1.isOk = true := by
  have hsent : (⟨control.ending params, (control.batch (control.ending params) link).1.isOk⟩ :
      BatchEvent) ∈ log ++ (Transaction.mk params state).sentOnDrop control link := by
    simp [Transaction.sentOnDrop, TransactionState.isStarted, hstate]
  exact h _ hsent (by simp [TransactionControl.ending, hauto])

/-- **A transaction is left open by a refused commit of its drop**, and by nothing else, if rollbacks
are accepted. -/
theorem leftOpenByRefusedCommit_of_lawful (law : control.Lawful) :
    LeftOpenByRefusedCommit control := by
  intro params calls link conn haccepts
  obtain ⟨state, sent, next, hopen, hrecorded, hpasses⟩ |
    ⟨e, sent, state, next, hopen, hrecorded, hstarting⟩ := openTransaction_cases law params link
  · obtain ⟨answers, last, reached, more, hhistory, hhistoryRecorded, hmore⟩ :=
      exists_history law calls ⟨params, state⟩ next sent
    have hconn : conn = ⟨((Transaction.mk params last).drop control reached,
        (sent ++ more) ++ (Transaction.mk params last).sentOnDrop control reached), false⟩ := by
      simp only [conn, Connection.lifetime, hrecorded, hhistoryRecorded, Connection.closeTransaction,
        drop_recorded]
    have hwhole : Passes false (boundaries control params (sent ++ more)) last.isStarted := by
      rw [boundaries_append]
      exact hpasses.append hmore
    have hdropped : CommitRefusedOnDrop control params calls link ↔ last = .started ∧
        params.autoCommitOnDrop = true ∧ (control.batch control.commit reached).1.isOk = false := by
      constructor
      · rintro ⟨tx, opened, h, hended⟩
        rw [hopen, Prod.mk.injEq, Except.ok.injEq] at h
        obtain ⟨rfl, rfl⟩ := h
        rwa [hhistory] at hended
      · intro h
        refine ⟨_, _, hopen, ?_⟩
        rwa [hhistory]
    rw [hconn] at haccepts ⊢
    refine ⟨rfl, ?_⟩
    rw [leftOpen_drop_iff law hwhole, hdropped]
    cases hauto : params.autoCommitOnDrop with
    | true => simp [TransactionControl.ending, hauto]
    | false =>
      have hok := fun hstate => isOk_ending_of_accepts hauto hstate haccepts
      simpa using hok
  · have hconn : conn = ⟨((Transaction.mk params state).drop control next,
        sent ++ (Transaction.mk params state).sentOnDrop control next), false⟩ := by
      simp only [conn, Connection.lifetime, hrecorded]
    have hdropped : ¬CommitRefusedOnDrop control params calls link := by
      rintro ⟨tx, opened, h, -⟩
      rw [hopen] at h
      cases h
    rw [hconn] at haccepts ⊢
    refine ⟨rfl, ?_⟩
    -- a start that fails is rolled back, so there is nothing to drop
    have hstate : state ≠ .started := by
      refine hstarting.ne_started_of_forall (by decide) fun event hevent => ?_
      exact haccepts event (List.mem_append_left _ hevent)
    rw [leftOpen_drop_iff law (hstarting.passes law)]
    simp [hstate, hdropped]

end

/-! ## On the servers -/

/-- **A dropped transaction is left open by a refused commit only.** PostgreSQL and SQL Server, if they
accept the rollbacks that they are sent, have ended every transaction that was dropped, whatever was
called and refused before, unless the drop was to commit it and the commit was refused. The connection
is free for another transaction in any case. -/
theorem dropped_left_open_iff :
    (∀ {σ : Type} (server : Postgres.Link σ), LeftOpenByRefusedCommit server.control) ∧
      ∀ {σ : Type} (server : SqlServer.Link σ), LeftOpenByRefusedCommit server.control := by
  constructor
  · intro σ server
    exact leftOpenByRefusedCommit_of_lawful server.lawful_control
  · intro σ server
    exact leftOpenByRefusedCommit_of_lawful server.lawful_control

/-- Two servers refuse two commits. A transaction that runs on after its commit was refused is left
open by a drop that commits it, and not by one that rolls it back. -/
theorem left_open_by_second_refusal :
    let refused : Postgres.Reply := ⟨[], 0, false, true, false⟩
    let postgres := Postgres.Script.new [("COMMIT", ⟨[], [], false, [refused, refused]⟩)] false false
    let sqlServer := SqlServer.Script.new
      [("COMMIT TRANSACTION", [⟨[], true, false⟩, ⟨[], true, false⟩])] false false false
    let rollingBack : TransactionParams := { TransactionParams.default with autoCommitOnDrop := false }
    let left := (Connection.ofLink (postgres, [])).lifetime Postgres.Script.link.control.recorded
      .default [.commit]
    let right := (Connection.ofLink (sqlServer, [])).lifetime SqlServer.Script.link.control.recorded
      rollingBack [.commit]
    (AcceptsRollbacks Postgres.Script.link.control left.link.2 ∧ left.inTransaction = false ∧
      LeftOpen Postgres.Script.link.control .default left.link.2) ∧
    AcceptsRollbacks SqlServer.Script.link.control right.link.2 ∧ right.inTransaction = false ∧
      ¬LeftOpen SqlServer.Script.link.control rollingBack right.link.2 := by
  intro refused postgres sqlServer rollingBack left right
  have hleft : AcceptsRollbacks Postgres.Script.link.control left.link.2 := by
    subst left postgres refused
    unfold AcceptsRollbacks
    decide +kernel
  have hright : AcceptsRollbacks SqlServer.Script.link.control right.link.2 := by
    subst right rollingBack sqlServer
    unfold AcceptsRollbacks
    decide +kernel
  have hrefused : CommitRefusedOnDrop Postgres.Script.link.control .default [.commit] postgres := by
    let control := Postgres.Script.link.control
    let opened := (Connection.ofLink postgres).openTransaction control .default
    let ended := TransactionCall.history control [.commit] ⟨.default, .started⟩ opened.2.link
    have hsome : opened.1.toOption = some ⟨.default, .started⟩ := by decide +kernel
    have hopened : opened.1 = .ok ⟨.default, .started⟩ := by
      cases h : opened.1 with
      | ok tx => rw [h] at hsome; exact congrArg _ (Option.some.inj hsome)
      | error e => rw [h] at hsome; cases hsome
    have hrunning : ended.2.1.state = .started := by decide +kernel
    have hagain : (control.batch control.commit ended.2.2).1.isOk = false := by decide +kernel
    exact ⟨_, opened.2, Prod.ext hopened rfl, hrunning, rfl, hagain⟩
  have hcommitted : ¬CommitRefusedOnDrop SqlServer.Script.link.control rollingBack [.commit]
      sqlServer := by
    rintro ⟨-, -, -, -, hauto, -⟩
    cases hauto
  obtain ⟨hfree, hopen⟩ :=
    dropped_left_open_iff.1 Postgres.Script.link .default [.commit] postgres hleft
  obtain ⟨hfree', hopen'⟩ :=
    dropped_left_open_iff.2 SqlServer.Script.link rollingBack [.commit] sqlServer hright
  exact ⟨⟨hleft, hfree, hopen.2 hrefused⟩, hright, hfree', mt hopen'.1 hcommitted⟩

/-- A transaction that is dropped running is left open by servers that refuse its commit, though no
rollback is refused. -/
theorem left_open_by_refused_commit :
    ¬NeverLeftOpen Postgres.Script.link.control ∧ ¬NeverLeftOpen SqlServer.Script.link.control := by
  constructor
  · intro h
    let server := Postgres.Script.new
      [("COMMIT", ⟨[], [], false, [⟨[], 0, false, true, false⟩]⟩)] false false
    have haccepts : AcceptsRollbacks Postgres.Script.link.control
        ((Connection.ofLink (server, [])).lifetime Postgres.Script.link.control.recorded
          TransactionParams.default []).link.2 := by
      unfold AcceptsRollbacks
      decide +kernel
    have hopen := (h TransactionParams.default [] server haccepts).2
    unfold LeftOpen at hopen
    revert hopen
    decide +kernel
  · intro h
    let server := SqlServer.Script.new [("COMMIT TRANSACTION", [⟨[], true, false⟩])] false false false
    have haccepts : AcceptsRollbacks SqlServer.Script.link.control
        ((Connection.ofLink (server, [])).lifetime SqlServer.Script.link.control.recorded
          TransactionParams.default []).link.2 := by
      unfold AcceptsRollbacks
      decide +kernel
    have hopen := (h TransactionParams.default [] server haccepts).2
    unfold LeftOpen at hopen
    revert hopen
    decide +kernel

end PortableSql
