import PortableSql.Transaction.Basic

/-!
# What a transaction sends, and what it makes of the answers

The requests that a transaction sends are recorded beside the state of its link, each with whether it
was accepted. An exchange is all that a call can do: what it sends from a state of the transaction, what
the server makes of that, what the call answers, and the state behind it.
-/
namespace PortableSql

/-- A request that was sent, and whether the server accepted it. -/
structure BatchEvent where
  sql : String
  accepted : Bool
  deriving DecidableEq, Repr

/-- A call of an operation of a transaction. -/
inductive TransactionCall where
  | start
  | commit
  | rollback
  | commitAndStart
  | rollbackAndStart
  deriving DecidableEq, Repr

namespace TransactionControl

variable {σ : Type}

/-- The same control, with a record of the requests beside the state of the link. -/
def recorded (control : TransactionControl σ) : TransactionControl (σ × List BatchEvent) where
  batch sql s :=
    let (answer, link) := control.batch sql s.1
    (answer, link, s.2 ++ [⟨sql, answer.isOk⟩])
  begin := control.begin
  afterBegin? := control.afterBegin?
  commit := control.commit
  rollback := control.rollback

/-- The requests can be told apart, and a server does not claim that a call came at the wrong time. -/
structure Lawful (control : TransactionControl σ) : Prop where
  ne_sequence : ∀ sql link e, (control.batch sql link).1 = .error e → ∀ fault, e ≠ .sequence fault
  begin_ne_commit : ∀ params, control.begin params ≠ control.commit
  begin_ne_rollback : ∀ params, control.begin params ≠ control.rollback
  afterBegin_ne : ∀ params sql, control.afterBegin? params = some sql →
    sql ≠ control.begin params ∧ sql ≠ control.commit ∧ sql ≠ control.rollback

end TransactionControl

namespace TransactionCall

variable {σ : Type} (control : TransactionControl σ)

/-- Makes a call. -/
def perform (call : TransactionCall) (tx : Transaction) (link : σ) :
    Result Unit × Transaction × σ :=
  match call with
  | .start => tx.start control link
  | .commit => tx.commit control link
  | .rollback => tx.rollback control link
  | .commitAndStart => tx.commitAndStart control link
  | .rollbackAndStart => tx.rollbackAndStart control link

/-- Makes calls one after another: what they answer, and what they lead to. -/
def history : List TransactionCall → Transaction → σ → List (Result Unit) × Transaction × σ
  | [], tx, link => ([], tx, link)
  | call :: rest, tx, link =>
    let (answer, tx, link) := call.perform control tx link
    let (answers, tx, link) := history rest tx link
    (answer :: answers, tx, link)

end TransactionCall

/-! ## Exchanges -/

section

variable {σ : Type} (control : TransactionControl σ) (params : TransactionParams)

/-- An end: the state before it, what is sent, the answer, and the state behind it. -/
inductive Ending (sql : String) (target : TransactionState) :
    TransactionState → List BatchEvent → Result Unit → TransactionState → Prop
  | rejected {state : TransactionState} (h : state ≠ .started) :
    Ending sql target state [] (.error (.sequence .transactionNotStarted)) state
  | refused {e : Error} (he : ∀ fault, e ≠ .sequence fault) :
    Ending sql target .started [⟨sql, false⟩] (.error e) .started
  | accepted : Ending sql target .started [⟨sql, true⟩] (.ok ()) target

/-- A start. The setting that follows the beginning may be refused; then a rollback is sent, which
may be refused as well. -/
inductive Starting : TransactionState → List BatchEvent → Result Unit → TransactionState → Prop
  | rejected : Starting .started [] (.error (.sequence .transactionStarted)) .started
  | refused {state : TransactionState} {e : Error} (h : state ≠ .started)
    (he : ∀ fault, e ≠ .sequence fault) :
    Starting state [⟨control.begin params, false⟩] (.error e) state
  | begun {state : TransactionState} (h : state ≠ .started)
    (hset : control.afterBegin? params = none) :
    Starting state [⟨control.begin params, true⟩] (.ok ()) .started
  | configured {state : TransactionState} {sql : String} (h : state ≠ .started)
    (hset : control.afterBegin? params = some sql) :
    Starting state [⟨control.begin params, true⟩, ⟨sql, true⟩] (.ok ()) .started
  | undone {state : TransactionState} {sql : String} {e : Error} (h : state ≠ .started)
    (hset : control.afterBegin? params = some sql) (he : ∀ fault, e ≠ .sequence fault) :
    Starting state [⟨control.begin params, true⟩, ⟨sql, false⟩, ⟨control.rollback, true⟩]
      (.error e) .rolledBack
  | stuck {state : TransactionState} {sql : String} {e : Error} (h : state ≠ .started)
    (hset : control.afterBegin? params = some sql) (he : ∀ fault, e ≠ .sequence fault) :
    Starting state [⟨control.begin params, true⟩, ⟨sql, false⟩, ⟨control.rollback, false⟩]
      (.error e) .started

/-- An end and, if that was accepted, a start. -/
inductive Restarting (sql : String) (target : TransactionState) :
    TransactionState → List BatchEvent → Result Unit → TransactionState → Prop
  | running {state after : TransactionState} {sent : List BatchEvent} {e : Error}
    (h : Ending sql target state sent (.error e) after) :
    Restarting sql target state sent (.error e) after
  | ended {after : TransactionState} {sent : List BatchEvent} {answer : Result Unit}
    (h : Starting control params target sent answer after) :
    Restarting sql target .started (⟨sql, true⟩ :: sent) answer after

/-- An exchange of a call. -/
def Exchange : TransactionCall →
    TransactionState → List BatchEvent → Result Unit → TransactionState → Prop
  | .start => Starting control params
  | .commit => Ending control.commit .committed
  | .rollback => Ending control.rollback .rolledBack
  | .commitAndStart => Restarting control params control.commit .committed
  | .rollbackAndStart => Restarting control params control.rollback .rolledBack

end

/-! ## Every call is an exchange -/

section

variable {σ : Type} {control : TransactionControl σ}

/-- What has been done is an exchange. Where the requests are recorded they stand behind the earlier
ones, and nothing else is different. -/
def Made (exchange : TransactionState → List BatchEvent → Result Unit → TransactionState → Prop)
    (tx : Transaction) (log : List BatchEvent) (done : Result Unit × Transaction × σ)
    (recorded : Result Unit × Transaction × σ × List BatchEvent) : Prop :=
  ∃ sent answer state link, done = (answer, ⟨tx.params, state⟩, link) ∧
    recorded = (answer, ⟨tx.params, state⟩, link, log ++ sent) ∧
    exchange tx.state sent answer state

variable (law : control.Lawful) (tx : Transaction) (link : σ) (log : List BatchEvent)

include law in
/-- A request is refused or accepted, and recorded. -/
theorem batch_cases (sql : String) :
    (∃ e after, control.batch sql link = (.error e, after) ∧
      control.recorded.batch sql (link, log) = (.error e, after, log ++ [⟨sql, false⟩]) ∧
      ∀ fault, e ≠ .sequence fault) ∨
    ∃ after, control.batch sql link = (.ok (), after) ∧
      control.recorded.batch sql (link, log) = (.ok (), after, log ++ [⟨sql, true⟩]) := by
  rcases hbatch : control.batch sql link with ⟨answer, after⟩
  have hrecord : control.recorded.batch sql (link, log) =
      (answer, after, log ++ [⟨sql, answer.isOk⟩]) := by
    simp only [TransactionControl.recorded, hbatch]
  cases answer with
  | error e =>
    have he := law.ne_sequence sql link e (by rw [hbatch])
    exact .inl ⟨e, after, rfl, hrecord, he⟩
  | ok u => exact .inr ⟨after, rfl, hrecord⟩

theorem checkStarted_of_ne {state : TransactionState} (h : state ≠ .started) :
    state.checkStarted = .error (.sequence .transactionNotStarted) ∧
      state.checkNotStarted = .ok () := by
  cases state with
  | started => exact absurd rfl h
  | undefined | committed | rolledBack => exact ⟨rfl, rfl⟩

theorem checkStarted_started : TransactionState.started.checkStarted = .ok () := rfl

include law in
theorem made_finish (sql : String) (target : TransactionState) :
    Made (Ending sql target) tx log (tx.finish control sql target link)
      (tx.finish control.recorded sql target (link, log)) := by
  obtain ⟨params, state⟩ := tx
  simp only [Transaction.finish]
  by_cases hstate : state = .started
  · subst hstate
    rw [checkStarted_started]
    rcases batch_cases law link log sql with ⟨e, after, hbatch, hrecord, he⟩ | ⟨after, hbatch, hrecord⟩
    · simp only [hbatch, hrecord]
      exact ⟨_, _, _, _, rfl, rfl, .refused he⟩
    · simp only [hbatch, hrecord]
      exact ⟨_, _, _, _, rfl, rfl, .accepted⟩
  · rw [(checkStarted_of_ne hstate).1]
    exact ⟨[], _, _, _, rfl, by rw [List.append_nil], .rejected hstate⟩

include law in
theorem made_commit :
    Made (Ending control.commit .committed) tx log (tx.commit control link)
      (tx.commit control.recorded (link, log)) :=
  made_finish law ..

include law in
theorem made_rollback :
    Made (Ending control.rollback .rolledBack) tx log (tx.rollback control link)
      (tx.rollback control.recorded (link, log)) :=
  made_finish law ..

include law in
/-- Behind an accepted beginning comes the setting, and a rollback if that is refused. -/
theorem exists_configure (params : TransactionParams) {before : TransactionState}
    (hbefore : before ≠ .started) :
    ∃ sent answer state after,
      (Transaction.mk params .started).configure control link = (answer, ⟨params, state⟩, after) ∧
      (Transaction.mk params .started).configure control.recorded (link, log) =
        (answer, ⟨params, state⟩, after, log ++ sent) ∧
      Starting control params before (⟨control.begin params, true⟩ :: sent) answer state := by
  simp only [Transaction.configure]
  have hsame : control.recorded.afterBegin? params = control.afterBegin? params := rfl
  rw [hsame]
  cases hset : control.afterBegin? params with
  | none => exact ⟨[], _, _, _, rfl, by simp only [List.append_nil], .begun hbefore hset⟩
  | some sql =>
    rcases batch_cases law link log sql with ⟨e, after, hbatch, hrecord, he⟩ | ⟨after, hbatch, hrecord⟩
    · obtain ⟨sent, answer, state, last, hdone, hrecorded, hend⟩ :=
        made_rollback law ⟨params, .started⟩ after (log ++ [⟨sql, false⟩])
      simp only [hbatch, hrecord, hdone, hrecorded, List.append_assoc, List.singleton_append]
      cases hend with
      | rejected h => exact absurd rfl h
      | refused he' => exact ⟨_, _, _, _, rfl, rfl, .stuck hbefore hset he'⟩
      | accepted => exact ⟨_, _, _, _, rfl, rfl, .undone hbefore hset he⟩
    · simp only [hbatch, hrecord]
      exact ⟨_, _, _, _, rfl, rfl, .configured hbefore hset⟩

include law in
theorem made_start :
    Made (Starting control tx.params) tx log (tx.start control link)
      (tx.start control.recorded (link, log)) := by
  obtain ⟨params, state⟩ := tx
  simp only [Transaction.start]
  have hsame : control.recorded.begin params = control.begin params := rfl
  rw [hsame]
  by_cases hstate : state = .started
  · subst hstate
    exact ⟨[], .error (.sequence .transactionStarted), _, link, rfl, by rw [List.append_nil]; rfl,
      .rejected⟩
  · rw [(checkStarted_of_ne hstate).2]
    rcases batch_cases law link log (control.begin params) with
      ⟨e, after, hbatch, hrecord, he⟩ | ⟨after, hbatch, hrecord⟩
    · simp only [hbatch, hrecord]
      exact ⟨_, _, _, _, rfl, rfl, .refused hstate he⟩
    · obtain ⟨sent, answer, last, link', hdone, hrecorded, hstarting⟩ :=
        exists_configure law after (log ++ [⟨control.begin params, true⟩]) params hstate
      simp only [hbatch, hrecord, hdone, hrecorded, List.append_assoc, List.singleton_append]
      exact ⟨_, _, _, _, rfl, rfl, hstarting⟩

include law in
/-- A start behind an end is an exchange. -/
theorem made_thenStart {sql : String} {target : TransactionState}
    {ended : Result Unit × Transaction × σ}
    {recorded : Result Unit × Transaction × σ × List BatchEvent}
    (h : Made (Ending sql target) tx log ended recorded) :
    Made (Restarting control tx.params sql target) tx log (Transaction.thenStart control ended)
      (Transaction.thenStart control.recorded recorded) := by
  obtain ⟨sent, answer, state, link, rfl, rfl, hend⟩ := h
  obtain ⟨params, before⟩ := tx
  cases hend with
  | rejected h => exact ⟨_, _, _, _, rfl, rfl, .running (.rejected h)⟩
  | refused he => exact ⟨_, _, _, _, rfl, rfl, .running (.refused he)⟩
  | accepted =>
    obtain ⟨more, answer, after, link', hdone, hrecorded, hstarting⟩ :=
      made_start law ⟨params, target⟩ link (log ++ [⟨sql, true⟩])
    simp only [Transaction.thenStart, hdone, hrecorded, List.append_assoc, List.singleton_append]
    exact ⟨_, _, _, _, rfl, rfl, .ended hstarting⟩

include law in
/-- **Every call is one of its exchanges.** -/
theorem made_perform (call : TransactionCall) :
    Made (Exchange control tx.params call) tx log (call.perform control tx link)
      (call.perform control.recorded tx (link, log)) := by
  cases call with
  | start => exact made_start law tx link log
  | commit => exact made_commit law tx link log
  | rollback => exact made_rollback law tx link log
  | commitAndStart => exact made_thenStart law tx log (made_commit law tx link log)
  | rollbackAndStart => exact made_thenStart law tx log (made_rollback law tx link log)

end

end PortableSql
