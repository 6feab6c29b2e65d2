import PortableSql.Postgres.Link
import PortableSql.Proofs.Transaction.Mirror
import PortableSql.SqlServer.Link

/-!
# Transactions on the servers

The requests by which PostgreSQL and SQL Server are told to begin, set up and end transactions begin
with different letters, whatever the parameters. So a transaction on either of them knows at any time
whether the server runs it.
-/
namespace PortableSql

/-- A text begins as its first part does. -/
theorem head?_append {text : String} {c : Char} (h : text.toList.head? = some c) (rest : String) :
    (text ++ rest).toList.head? = some c := by
  rw [String.toList_append, List.head?_append, h]
  rfl

/-- Texts that begin differently are different. -/
theorem ne_of_head?_ne {text other : String} {c d : Char} (h : text.toList.head? = some c)
    (hother : other.toList.head? = some d) (hne : c ≠ d) : text ≠ other := by
  rintro rfl
  exact hne (Option.some.inj (h.symm.trans hother))

namespace Postgres.Link

theorem head?_beginSql (p : TransactionParams) : (beginSql p).toList.head? = some 'B' := by
  have hword : "BEGIN TRANSACTION".toList.head? = some 'B' := by decide
  exact head?_append (head?_append hword _) _

theorem head?_lockTimeoutSql (p : TransactionParams) :
    (lockTimeoutSql p).toList.head? = some 'S' := by
  unfold lockTimeoutSql
  split
  · decide
  · have hword : "SET LOCAL lock_timeout = '".toList.head? = some 'S' := by decide
    exact head?_append (head?_append hword _) _

theorem head?_commit : "COMMIT".toList.head? = some 'C' := by decide

theorem head?_rollback : "ROLLBACK".toList.head? = some 'R' := by decide

theorem lawful_control {σ : Type} (server : Link σ) : server.control.Lawful where
  ne_sequence := by
    intro sql link e h fault
    rcases hbatch : server.batch sql link with ⟨_ | _, after⟩
    · simp only [control, hbatch, orRefused, Except.error.injEq] at h
      simp [← h]
    · simp [control, hbatch, orRefused] at h
  begin_ne_commit p := ne_of_head?_ne (head?_beginSql p) head?_commit (by decide)
  begin_ne_rollback p := ne_of_head?_ne (head?_beginSql p) head?_rollback (by decide)
  afterBegin_ne := by
    intro p sql h
    obtain rfl : lockTimeoutSql p = sql := Option.some.inj h
    have hhead := head?_lockTimeoutSql p
    exact ⟨ne_of_head?_ne hhead (head?_beginSql p) (by decide),
      ne_of_head?_ne hhead head?_commit (by decide),
      ne_of_head?_ne hhead head?_rollback (by decide)⟩

end Postgres.Link

namespace SqlServer.Link

theorem head?_beginSql (p : TransactionParams) : (beginSql p).toList.head? = some 'S' := by
  unfold beginSql
  cases p.level.keyword? with
  | none =>
    have hword : ("" ++ "SET LOCK_TIMEOUT ").toList.head? = some 'S' := by decide
    exact head?_append (head?_append hword _) _
  | some keyword =>
    have hword : "SET TRANSACTION ISOLATION LEVEL ".toList.head? = some 'S' := by decide
    exact head?_append (head?_append (head?_append (head?_append (head?_append hword _) _) _) _) _

theorem head?_commit : "COMMIT TRANSACTION".toList.head? = some 'C' := by decide

theorem head?_rollback : "ROLLBACK TRANSACTION".toList.head? = some 'R' := by decide

theorem lawful_control {σ : Type} (server : Link σ) : server.control.Lawful where
  ne_sequence := by
    intro sql link e h fault
    rcases hbatch : server.batch sql link with ⟨_ | _, after⟩
    · simp only [control, hbatch, orRefused, Except.map, Except.error.injEq] at h
      simp [← h]
    · simp [control, hbatch, orRefused, Except.map] at h
  begin_ne_commit p := ne_of_head?_ne (head?_beginSql p) head?_commit (by decide)
  begin_ne_rollback p := ne_of_head?_ne (head?_beginSql p) head?_rollback (by decide)
  afterBegin_ne := by
    intro p sql h
    cases h

end SqlServer.Link

/-- **The transaction tracker mirrors the server**, for PostgreSQL and for SQL Server, whatever is
called and whatever the server refuses. -/
theorem transactions_track_server :
    (∀ {σ : Type} (server : Postgres.Link σ), TracksServer server.control) ∧
      ∀ {σ : Type} (server : SqlServer.Link σ), TracksServer server.control := by
  constructor
  · intro σ server
    exact tracksServer_of_lawful server.lawful_control
  · intro σ server
    exact tracksServer_of_lawful server.lawful_control

end PortableSql
