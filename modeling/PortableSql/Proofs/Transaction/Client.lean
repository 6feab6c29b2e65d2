import PortableSql.Proofs.Transaction.Release

/-!
# One transaction at a time

A client opens transactions on a connection, calls them, works on the link and drops them, in any order,
while the server accepts and refuses what it likes. The mark of the connection says all along whether
the client holds a transaction, and it never holds two: a second one is refused without a request, and
one that cannot be started is as good as dropped.
-/
namespace PortableSql

/-- A connection, and the transactions on it that have been opened and not yet dropped. -/
structure Client (σ : Type) where
  connection : Connection σ
  held : List Transaction

/-- What a client can do. A transaction is named by its position among those it holds. -/
inductive ClientStep (σ : Type) where
  | openTransaction (params : TransactionParams)
  | call (position : Nat) (call : TransactionCall)
  /-- Statements and whatever else uses the link. -/
  | work (use : σ → σ)
  | drop (position : Nat)

/-- The answer to an opening while another transaction is open. -/
def RefusedAsSecond {α : Type} (answer : Result α) : Prop :=
  ∃ fault, answer = .error (.sequence fault) ∧
    fault.message = "Connection already has an active transaction"

namespace Client

variable {σ : Type} (control : TransactionControl σ)

/-- A client that holds no transaction. -/
def ofLink (link : σ) : Client σ := ⟨.ofLink link, []⟩

/-- Opens a transaction and holds it. -/
def openTransaction (params : TransactionParams) (c : Client σ) : Result Unit × Client σ :=
  match c.connection.openTransaction control params with
  | (.ok tx, conn) => (.ok (), ⟨conn, c.held ++ [tx]⟩)
  | (.error e, conn) => (.error e, ⟨conn, c.held⟩)

/-- Calls a transaction. -/
def call (position : Nat) (call : TransactionCall) (c : Client σ) : Client σ :=
  match c.held[position]? with
  | none => c
  | some tx =>
    let (_, tx, link) := call.perform control tx c.connection.link
    ⟨{ c.connection with link := link }, c.held.set position tx⟩

/-- Works on the link. -/
def work (use : σ → σ) (c : Client σ) : Client σ :=
  { c with connection := { c.connection with link := use c.connection.link } }

/-- Drops a transaction. -/
def drop (position : Nat) (c : Client σ) : Client σ :=
  match c.held[position]? with
  | none => c
  | some tx => ⟨c.connection.closeTransaction control tx, c.held.eraseIdx position⟩

def step (c : Client σ) : ClientStep σ → Client σ
  | .openTransaction params => (c.openTransaction control params).2
  | .call position call => c.call control position call
  | .work use => c.work use
  | .drop position => c.drop control position

/-- Takes steps one after another. -/
def after (steps : List (ClientStep σ)) (c : Client σ) : Client σ :=
  steps.foldl (step control) c

/-- The connection is marked if a transaction is held, and there is at most one. -/
structure Exclusive (c : Client σ) : Prop where
  marked : c.connection.inTransaction = true ↔ c.held ≠ []
  single : c.held.length ≤ 1

/-- A client never has two transactions. -/
structure OneAtATime (c : Client σ) : Prop where
  single : c.held.length ≤ 1
  /-- An opening is refused as the second one if a transaction is held, and only then. -/
  refused_iff : ∀ params, RefusedAsSecond (c.openTransaction control params).1 ↔ c.held ≠ []
  /-- Nothing is sent then, and nothing changes. -/
  unchanged : ∀ params, RefusedAsSecond (c.openTransaction control params).1 →
    (c.openTransaction control params).2 = c
  /-- A transaction that could not be started does not stand in the way of the next one, -/
  afterFailedStart : ∀ params e, (c.openTransaction control params).1 = .error e →
    ¬RefusedAsSecond (c.openTransaction control params).1 →
    ∀ next, ¬RefusedAsSecond ((c.openTransaction control params).2.openTransaction control next).1
  /-- nor does one that was dropped, whatever the server made of the drop. -/
  afterDrop : ∀ position, position < c.held.length →
    ∀ next, ¬RefusedAsSecond ((c.drop control position).openTransaction control next).1

/-- A client never has two transactions, whatever it does. -/
def NeverTwo : Prop :=
  ∀ link steps, OneAtATime control ((ofLink link).after control steps)

end Client

/-! ## The refusal -/

@[simp] theorem not_refusedAsSecond_ok {α : Type} (x : α) :
    ¬RefusedAsSecond (.ok x : Result α) := by
  rintro ⟨fault, h, -⟩
  cases h

/-- Only this fault is put into these words. -/
@[simp] theorem refusedAsSecond_error {α : Type} {e : Error} :
    RefusedAsSecond (.error e : Result α) ↔ e = .sequence .transactionOpen := by
  constructor
  · rintro ⟨fault, h, hmessage⟩
    cases h
    cases fault with
    | transactionOpen => rfl
    | notPrepared | notExecuted | noRow | pastEnd | transactionNotStarted | transactionStarted =>
      revert hmessage
      decide
  · rintro rfl
    exact ⟨.transactionOpen, rfl, rfl⟩

/-- A record of the requests does not change what the server answers. -/
theorem TransactionControl.Lawful.recorded {σ : Type} {control : TransactionControl σ}
    (law : control.Lawful) : control.recorded.Lawful where
  ne_sequence := by
    intro sql link e h
    exact law.ne_sequence sql link.1 e h
  begin_ne_commit := law.begin_ne_commit
  begin_ne_rollback := law.begin_ne_rollback
  afterBegin_ne := law.afterBegin_ne

namespace Client

variable {σ : Type} {control : TransactionControl σ} {c : Client σ}

/-! ## Every step keeps the mark -/

/-- A marked connection refuses without a request. -/
theorem openTransaction_of_marked (h : c.connection.inTransaction = true)
    (params : TransactionParams) :
    c.openTransaction control params = (.error (.sequence .transactionOpen), c) := by
  simp [openTransaction, Connection.openTransaction, h]

/-- A free connection opens a transaction that is held from then on, or fails to start it and is free
again. -/
theorem openTransaction_of_free (law : control.Lawful) (h : c.connection.inTransaction = false)
    (params : TransactionParams) :
    (∃ tx conn, c.openTransaction control params = (.ok (), ⟨conn, c.held ++ [tx]⟩) ∧
      conn.inTransaction = true) ∨
    ∃ e conn, c.openTransaction control params = (.error e, ⟨conn, c.held⟩) ∧
      conn.inTransaction = false ∧ e ≠ .sequence .transactionOpen := by
  have hfree : c.connection = .ofLink c.connection.link := by
    rw [Connection.ofLink, ← h]
  unfold openTransaction
  rw [hfree]
  rcases openTransaction_cases law params c.connection.link with
    ⟨state, -, next, hopen, -, -⟩ | ⟨e, sent, state, next, hopen, -, hstarting⟩
  · left
    rw [hopen]
    exact ⟨_, _, rfl, rfl⟩
  · right
    rw [hopen]
    refine ⟨e, _, rfl, rfl, ?_⟩
    rintro rfl
    have hrunning := hstarting.of_sequence.1
    cases hrunning

namespace Exclusive

theorem ofLink (link : σ) : Exclusive (ofLink link) where
  marked := by simp [Client.ofLink, Connection.ofLink]
  single := by simp [Client.ofLink]

/-- A connection without the mark has no transaction. -/
theorem held_eq_nil (h : Exclusive c) (hfree : c.connection.inTransaction = false) : c.held = [] := by
  by_cases hheld : c.held = []
  · exact hheld
  · rw [h.marked.2 hheld] at hfree
    cases hfree

theorem openTransaction (law : control.Lawful) (h : Exclusive c) (params : TransactionParams) :
    Exclusive (c.openTransaction control params).2 := by
  cases hmark : c.connection.inTransaction with
  | true =>
    rw [openTransaction_of_marked hmark]
    exact h
  | false =>
    have hheld := h.held_eq_nil hmark
    rcases openTransaction_of_free law hmark params with
      ⟨tx, conn, hopen, hconn⟩ | ⟨e, conn, hopen, hconn, -⟩
    · rw [hopen]
      exact ⟨by simp [hconn], by simp [hheld]⟩
    · rw [hopen]
      exact ⟨by simp [hconn, hheld], by simp [hheld]⟩

theorem call (h : Exclusive c) (position : Nat) (call : TransactionCall) :
    Exclusive (c.call control position call) := by
  unfold Client.call
  split
  · exact h
  · exact ⟨by simp [h.marked], by simp [h.single]⟩

/-- Behind a drop nothing is held. -/
theorem held_drop (control : TransactionControl σ) (h : Exclusive c) {position : Nat}
    (hposition : position < c.held.length) :
    (c.drop control position).connection.inTransaction = false ∧
      (c.drop control position).held = [] := by
  have hsingle := h.single
  have hlast : (c.held.eraseIdx position).length = 0 := by
    rw [List.length_eraseIdx_of_lt hposition]
    omega
  simp only [Client.drop, List.getElem?_eq_getElem hposition]
  exact ⟨rfl, List.length_eq_zero_iff.1 hlast⟩

theorem drop (h : Exclusive c) (position : Nat) : Exclusive (c.drop control position) := by
  by_cases hposition : position < c.held.length
  · obtain ⟨hconn, hheld⟩ := h.held_drop control hposition
    exact ⟨by simp [hconn, hheld], by simp [hheld]⟩
  · have hnone : c.held[position]? = none := List.getElem?_eq_none (by omega)
    simp only [Client.drop, hnone]
    exact h

theorem step (law : control.Lawful) (h : Exclusive c) (step : ClientStep σ) :
    Exclusive (c.step control step) := by
  cases step with
  | openTransaction params => exact h.openTransaction law params
  | call position call => exact h.call position call
  | work use => exact ⟨h.marked, h.single⟩
  | drop position => exact h.drop position

/-- The mark is right all along. -/
theorem after (law : control.Lawful) (steps : List (ClientStep σ)) (h : Exclusive c) :
    Exclusive (c.after control steps) := by
  induction steps generalizing c with
  | nil => exact h
  | cons step steps ih => exact ih (h.step law step)

theorem refused_iff (law : control.Lawful) (h : Exclusive c) (params : TransactionParams) :
    RefusedAsSecond (c.openTransaction control params).1 ↔ c.held ≠ [] := by
  rw [← h.marked]
  cases hmark : c.connection.inTransaction with
  | true => simp [openTransaction_of_marked hmark]
  | false =>
    rcases openTransaction_of_free law hmark params with ⟨tx, conn, hopen, -⟩ | ⟨e, conn, hopen, -, he⟩
    · simp [hopen]
    · simp [hopen, he]

theorem not_refused (law : control.Lawful) (h : Exclusive c) (hheld : c.held = [])
    (params : TransactionParams) : ¬RefusedAsSecond (c.openTransaction control params).1 := by
  intro hrefused
  exact (h.refused_iff law params).1 hrefused hheld

/-- What the mark says is enough to keep the transactions apart. -/
theorem oneAtATime (law : control.Lawful) (h : Exclusive c) : OneAtATime control c where
  single := h.single
  refused_iff := h.refused_iff law
  unchanged := by
    intro params hrefused
    rw [h.refused_iff law, ← h.marked] at hrefused
    rw [openTransaction_of_marked hrefused]
  afterFailedStart := by
    intro params e herror hother next
    have hopened := h.openTransaction law params
    rw [h.refused_iff law, ← h.marked, Bool.not_eq_true] at hother
    apply hopened.not_refused law
    rcases openTransaction_of_free law hother params with ⟨tx, conn, hopen, -⟩ | ⟨e, conn, hopen, -, -⟩
    · rw [hopen] at herror
      cases herror
    · rw [hopen]
      exact h.held_eq_nil hother
  afterDrop := by
    intro position hposition next
    apply (h.drop position).not_refused law
    exact (h.held_drop control hposition).2

end Exclusive

theorem neverTwo_of_lawful (law : control.Lawful) : NeverTwo control := by
  intro link steps
  exact ((Exclusive.ofLink link).after law steps).oneAtATime law

/-- **One transaction per connection**, on PostgreSQL and on SQL Server. A client that does what it
likes with a connection holds one transaction at most, and another is refused as the second exactly
while it holds one. With the requests recorded beside the link, an unchanged link also says that nothing
was sent. -/
theorem one_transaction_per_connection :
    (∀ {σ : Type} (server : Postgres.Link σ),
      NeverTwo server.control ∧ NeverTwo server.control.recorded) ∧
    ∀ {σ : Type} (server : SqlServer.Link σ),
      NeverTwo server.control ∧ NeverTwo server.control.recorded := by
  constructor
  · intro σ server
    have law := server.lawful_control
    exact ⟨neverTwo_of_lawful law, neverTwo_of_lawful law.recorded⟩
  · intro σ server
    have law := server.lawful_control
    exact ⟨neverTwo_of_lawful law, neverTwo_of_lawful law.recorded⟩

end Client

end PortableSql
