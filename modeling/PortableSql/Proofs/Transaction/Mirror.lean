import PortableSql.Proofs.Transaction.Exchange

/-!
# A transaction knows whether the server runs it

Of the requests that a server accepted, those that begin or end a transaction decide whether one runs.
The state of a transaction says the same, whatever is called in whatever order and whatever the server
refuses. So beginnings and ends take turns, and nothing is sent out of turn.
-/
namespace PortableSql

/-! ## Beginnings and ends -/

/-- What an accepted request does to the server's transaction. -/
inductive Boundary where
  | begins
  | ends
  deriving DecidableEq, Repr

section

variable {σ : Type} (control : TransactionControl σ) (params : TransactionParams)

/-- What a request did to the server's transaction, if it was accepted. -/
def boundary? (event : BatchEvent) : Option Boundary :=
  if event.accepted then
    if event.sql = control.begin params then some .begins
    else if event.sql = control.commit ∨ event.sql = control.rollback then some .ends
    else none
  else none

/-- The accepted beginnings and ends among requests, in order. -/
def boundaries (log : List BatchEvent) : List Boundary :=
  log.filterMap (boundary? control params)

@[simp] theorem boundary?_refused (sql : String) : boundary? control params ⟨sql, false⟩ = none := rfl

@[simp] theorem boundary?_begin :
    boundary? control params ⟨control.begin params, true⟩ = some .begins := by
  simp [boundary?]

theorem boundaries_append (log more : List BatchEvent) :
    boundaries control params (log ++ more) =
      boundaries control params log ++ boundaries control params more :=
  List.filterMap_append ..

variable {control params} (law : control.Lawful)

include law

theorem boundary?_commit : boundary? control params ⟨control.commit, true⟩ = some .ends := by
  simp [boundary?, (law.begin_ne_commit params).symm]

theorem boundary?_rollback : boundary? control params ⟨control.rollback, true⟩ = some .ends := by
  simp [boundary?, (law.begin_ne_rollback params).symm]

theorem boundary?_afterBegin {sql : String} (h : control.afterBegin? params = some sql) :
    boundary? control params ⟨sql, true⟩ = none := by
  obtain ⟨hbegin, hcommit, hrollback⟩ := law.afterBegin_ne params sql h
  simp [boundary?, hbegin, hcommit, hrollback]

end

/-- Beginnings and ends in turns, with whether a transaction runs before and after them. -/
inductive Passes : Bool → List Boundary → Bool → Prop
  | nil (running : Bool) : Passes running [] running
  | begins {rest : List Boundary} {after : Bool} (h : Passes true rest after) :
    Passes false (.begins :: rest) after
  | ends {rest : List Boundary} {after : Bool} (h : Passes false rest after) :
    Passes true (.ends :: rest) after

namespace Passes

variable {running after : Bool} {log : List Boundary}

theorem append {last : Bool} {more : List Boundary} (h : Passes running log after)
    (hmore : Passes after more last) : Passes running (log ++ more) last := by
  induction h with
  | nil => exact hmore
  | begins _ ih => exact .begins (ih hmore)
  | ends _ ih => exact .ends (ih hmore)

/-- Whether a transaction runs in the end is up to the last of them. -/
theorem running_iff (h : Passes running log after) :
    after = true ↔ log.getLast?.getD (if running then .begins else .ends) = .begins := by
  induction h with
  | nil running => cases running <;> simp
  | begins _ ih => simpa [List.getLast?_cons] using ih
  | ends _ ih => simpa [List.getLast?_cons] using ih

/-- They alternate. -/
theorem eq_begins_iff (h : Passes running log after) {i : Nat} {boundary : Boundary}
    (hi : log[i]? = some boundary) :
    boundary = .begins ↔ i % 2 = if running then 1 else 0 := by
  induction h generalizing i with
  | nil => simp at hi
  | begins _ ih =>
    cases i with
    | zero => simpa using hi.symm
    | succ i =>
      have hrest := ih (by simpa using hi)
      simp only [if_true] at hrest
      simp only [Bool.false_eq_true, if_false, hrest]
      omega
  | ends _ ih =>
    cases i with
    | zero =>
      obtain rfl : Boundary.ends = boundary := by simpa using hi
      simp
    | succ i =>
      have hrest := ih (by simpa using hi)
      simp only [Bool.false_eq_true, if_false] at hrest
      simp only [if_true, hrest]
      omega

end Passes

/-! ## Exchanges take turns -/

section

variable {σ : Type} {control : TransactionControl σ} {params : TransactionParams}
  {state after : TransactionState} {sent : List BatchEvent} {answer : Result Unit}

theorem isStarted_eq_false (h : state ≠ .started) : state.isStarted = false := by
  cases state with
  | started => exact absurd rfl h
  | undefined | committed | rolledBack => rfl

theorem Ending.passes {sql : String} {target : TransactionState}
    (hsql : boundary? control params ⟨sql, true⟩ = some .ends) (htarget : target ≠ .started)
    (h : Ending sql target state sent answer after) :
    Passes state.isStarted (boundaries control params sent) after.isStarted := by
  cases h with
  | rejected => exact .nil _
  | refused => exact .nil _
  | accepted =>
    simp only [boundaries, List.filterMap_cons, hsql, List.filterMap_nil, isStarted_eq_false htarget]
    exact .ends (.nil false)

theorem Starting.passes (law : control.Lawful) (h : Starting control params state sent answer after) :
    Passes state.isStarted (boundaries control params sent) after.isStarted := by
  cases h with
  | rejected => exact .nil _
  | refused h => exact .nil _
  | begun h hset =>
    simp only [boundaries, List.filterMap_cons, boundary?_begin, List.filterMap_nil,
      isStarted_eq_false h]
    exact .begins (.nil true)
  | configured h hset =>
    simp only [boundaries, List.filterMap_cons, boundary?_begin, boundary?_afterBegin law hset,
      List.filterMap_nil, isStarted_eq_false h]
    exact .begins (.nil true)
  | undone h hset =>
    simp only [boundaries, List.filterMap_cons, boundary?_begin, boundary?_refused,
      boundary?_rollback law, List.filterMap_nil, isStarted_eq_false h]
    exact .begins (.ends (.nil false))
  | stuck h hset =>
    simp only [boundaries, List.filterMap_cons, boundary?_begin, boundary?_refused,
      List.filterMap_nil, isStarted_eq_false h]
    exact .begins (.nil true)

theorem Restarting.passes (law : control.Lawful) {sql : String} {target : TransactionState}
    (hsql : boundary? control params ⟨sql, true⟩ = some .ends) (htarget : target ≠ .started)
    (h : Restarting control params sql target state sent answer after) :
    Passes state.isStarted (boundaries control params sent) after.isStarted := by
  cases h with
  | running h => exact h.passes hsql htarget
  | ended h =>
    have hstart := h.passes law
    rw [isStarted_eq_false htarget] at hstart
    simp only [boundaries, List.filterMap_cons, hsql]
    exact .ends hstart

/-- **An exchange goes on from where the transaction is**, and leaves it where the server is. -/
theorem Exchange.passes (law : control.Lawful) {call : TransactionCall}
    (h : Exchange control params call state sent answer after) :
    Passes state.isStarted (boundaries control params sent) after.isStarted := by
  have hcommit : boundary? control params ⟨control.commit, true⟩ = some .ends := boundary?_commit law
  have hrollback : boundary? control params ⟨control.rollback, true⟩ = some .ends :=
    boundary?_rollback law
  cases call with
  | start => exact Starting.passes law h
  | commit => exact Ending.passes hcommit (by decide) h
  | rollback => exact Ending.passes hrollback (by decide) h
  | commitAndStart => exact Restarting.passes law hcommit (by decide) h
  | rollbackAndStart => exact Restarting.passes law hrollback (by decide) h

/-! ## What a call sends -/

theorem Ending.of_sequence {sql : String} {target : TransactionState} {fault : SequenceFault}
    (h : Ending sql target state sent (.error (.sequence fault)) after) :
    sent = [] ∧ after = state := by
  cases h with
  | rejected => exact ⟨rfl, rfl⟩
  | refused he => exact absurd rfl (he fault)

theorem Starting.of_sequence {fault : SequenceFault}
    (h : Starting control params state sent (.error (.sequence fault)) after) :
    state = .started ∧ sent = [] ∧ after = state := by
  cases h with
  | rejected => exact ⟨rfl, rfl, rfl⟩
  | refused _ he | undone _ _ he | stuck _ _ he => exact absurd rfl (he fault)

theorem Restarting.of_sequence {sql : String} {target : TransactionState} {fault : SequenceFault}
    (htarget : target ≠ .started)
    (h : Restarting control params sql target state sent (.error (.sequence fault)) after) :
    sent = [] ∧ after = state := by
  cases h with
  | running h => exact h.of_sequence
  | ended h => exact absurd h.of_sequence.1 htarget

/-- A call that comes at the wrong time sends nothing. -/
theorem Exchange.of_sequence {call : TransactionCall} {fault : SequenceFault}
    (h : Exchange control params call state sent (.error (.sequence fault)) after) :
    sent = [] ∧ after = state := by
  cases call with
  | start => exact (Starting.of_sequence h).2
  | commit | rollback => exact Ending.of_sequence h
  | commitAndStart | rollbackAndStart => exact Restarting.of_sequence (by decide) h

/-- No beginning is sent before the text has been accepted. -/
def BeginsOnlyAfter (control : TransactionControl σ) (params : TransactionParams) (sql : String)
    (sent : List BatchEvent) : Prop :=
  ∀ earlier event later, sent = earlier ++ event :: later → event.sql = control.begin params →
    ⟨sql, true⟩ ∈ earlier

theorem Restarting.beginsOnlyAfter {sql : String} {target : TransactionState}
    (hsql : control.begin params ≠ sql)
    (h : Restarting control params sql target state sent answer after) :
    BeginsOnlyAfter control params sql sent := by
  intro earlier event later hsent hevent
  cases h with
  | running h =>
    cases h with
    | rejected => simp at hsent
    | refused =>
      have hmem : event ∈ [BatchEvent.mk sql false] := by
        rw [hsent]
        simp
      obtain rfl := List.mem_singleton.1 hmem
      exact absurd hevent.symm hsql
  | ended h =>
    cases earlier with
    | nil =>
      obtain ⟨rfl, -⟩ := List.cons.inj hsent
      exact absurd hevent.symm hsql
    | cons first earlier =>
      obtain ⟨rfl, -⟩ := List.cons.inj hsent
      exact List.mem_cons_self

/-- A start that fails leaves no transaction running if it was rolled back. -/
theorem Starting.ne_started_of_rollback {e : Error} (law : control.Lawful)
    (h : Starting control params state sent (.error e) after)
    (hrollback : ⟨control.rollback, true⟩ ∈ sent) : after ≠ .started := by
  cases h with
  | rejected => simp at hrollback
  | refused => simp at hrollback
  | undone => decide
  | stuck _ hset =>
    have hne := law.begin_ne_rollback params
    simp [hne.symm] at hrollback

/-- Nor does it if every rollback it sent was accepted, and none was running before. -/
theorem Starting.ne_started_of_forall {e : Error} (hstate : state ≠ .started)
    (h : Starting control params state sent (.error e) after)
    (hall : ∀ event ∈ sent, event.sql = control.rollback → event.accepted = true) :
    after ≠ .started := by
  cases h with
  | rejected => exact absurd rfl hstate
  | refused => exact hstate
  | undone => decide
  | stuck =>
    have hrefused := hall ⟨control.rollback, false⟩ (by simp) rfl
    cases hrefused

end

/-! ## Histories -/

section

variable {σ : Type} (control : TransactionControl σ)

/-- The state of the transaction is what the requests that were accepted have made of it. -/
structure Mirrors (params : TransactionParams) (tx : Transaction) (log : List BatchEvent) :
    Prop where
  /-- It runs if the last accepted beginning or end is a beginning. -/
  started_iff : tx.state = .started ↔ (boundaries control params log).getLast? = some .begins
  /-- Beginnings stand at the even places, from zero on, and ends between them. -/
  begins_iff : ∀ (i : Nat) (boundary : Boundary),
    (boundaries control params log)[i]? = some boundary → (boundary = .begins ↔ i % 2 = 0)

/-- What a call sends is what the state of the transaction and the answers so far call for. -/
structure Orderly (params : TransactionParams) (call : TransactionCall)
    (state : TransactionState) (sent : List BatchEvent) (answer : Result Unit)
    (after : TransactionState) : Prop where
  /-- A call that comes at the wrong time sends nothing. -/
  rejected : ∀ fault, answer = .error (.sequence fault) → sent = [] ∧ after = state
  /-- A transaction begins again only once the commit was accepted, -/
  afterCommit : call = .commitAndStart → BeginsOnlyAfter control params control.commit sent
  /-- or the rollback. -/
  afterRollback : call = .rollbackAndStart → BeginsOnlyAfter control params control.rollback sent
  /-- A start that fails leaves no transaction running if it was rolled back, -/
  undone : ∀ e, call = .start → answer = .error e → ⟨control.rollback, true⟩ ∈ sent →
    after ≠ .started
  /-- nor if none was running before and the server accepts every rollback. -/
  notBegun : ∀ e, call = .start → answer = .error e → state ≠ .started →
    (∀ event ∈ sent, event.sql = control.rollback → event.accepted = true) → after ≠ .started

/-- Whatever is called, the transaction mirrors the server, and one more call is orderly. The requests
are recorded on the way; that changes nothing else. -/
def TracksServer : Prop :=
  ∀ params calls link, ∃ answers tx reached log,
    TransactionCall.history control calls (.new params) link = (answers, tx, reached) ∧
    TransactionCall.history control.recorded calls (.new params) (link, []) =
      (answers, tx, reached, log) ∧
    Mirrors control params tx log ∧
    ∀ call, ∃ sent answer after last,
      call.perform control tx reached = (answer, ⟨params, after⟩, last) ∧
      call.perform control.recorded tx (reached, log) =
        (answer, ⟨params, after⟩, last, log ++ sent) ∧
      Orderly control params call tx.state sent answer after

variable {control}

theorem Exchange.orderly (law : control.Lawful) {params : TransactionParams}
    {call : TransactionCall} {state after : TransactionState} {sent : List BatchEvent}
    {answer : Result Unit} (h : Exchange control params call state sent answer after) :
    Orderly control params call state sent answer after where
  rejected := by
    rintro fault rfl
    exact h.of_sequence
  afterCommit := by
    rintro rfl
    exact Restarting.beginsOnlyAfter (law.begin_ne_commit params) h
  afterRollback := by
    rintro rfl
    exact Restarting.beginsOnlyAfter (law.begin_ne_rollback params) h
  undone := by
    rintro e rfl rfl
    exact Starting.ne_started_of_rollback law h
  notBegun := by
    rintro e rfl rfl hstate
    exact Starting.ne_started_of_forall hstate h

theorem Passes.mirrors {params : TransactionParams} {tx : Transaction} {log : List BatchEvent}
    (h : Passes false (boundaries control params log) tx.state.isStarted) :
    Mirrors control params tx log where
  started_iff := by
    have hrunning := h.running_iff
    rw [TransactionState.isStarted, beq_iff_eq] at hrunning
    rw [hrunning]
    cases (boundaries control params log).getLast? <;> simp
  begins_iff := by
    intro i boundary hi
    simpa using h.eq_begins_iff hi

/-- A history goes on from where the transaction is. -/
theorem exists_history (law : control.Lawful) (calls : List TransactionCall) (tx : Transaction)
    (link : σ) (log : List BatchEvent) :
    ∃ answers state reached sent,
      TransactionCall.history control calls tx link = (answers, ⟨tx.params, state⟩, reached) ∧
      TransactionCall.history control.recorded calls tx (link, log) =
        (answers, ⟨tx.params, state⟩, reached, log ++ sent) ∧
      Passes tx.state.isStarted (boundaries control tx.params sent) state.isStarted := by
  induction calls generalizing tx link log with
  | nil => exact ⟨[], tx.state, link, [], rfl, by rw [List.append_nil]; rfl, .nil _⟩
  | cons call calls ih =>
    obtain ⟨sent, answer, state, next, hdone, hrecorded, hexchange⟩ :=
      made_perform law tx link log call
    obtain ⟨answers, last, reached, more, hrest, hrestRecorded, hpasses⟩ :=
      ih ⟨tx.params, state⟩ next (log ++ sent)
    refine ⟨answer :: answers, last, reached, sent ++ more, ?_, ?_, ?_⟩
    · simp only [TransactionCall.history, hdone, hrest]
    · simp only [TransactionCall.history, hrecorded, hrestRecorded, List.append_assoc]
    · rw [boundaries_append]
      exact (hexchange.passes law).append hpasses

/-- **A transaction whose requests can be told apart tracks the server.** -/
theorem tracksServer_of_lawful (law : control.Lawful) : TracksServer control := by
  intro params calls link
  obtain ⟨answers, state, reached, log, hhistory, hrecorded, hpasses⟩ :=
    exists_history law calls (.new params) link []
  have hmirrors : Mirrors control params ⟨params, state⟩ log := Passes.mirrors hpasses
  refine ⟨answers, ⟨params, state⟩, reached, log, hhistory, hrecorded, hmirrors, ?_⟩
  intro call
  obtain ⟨sent, answer, after, last, hdone, hdoneRecorded, hexchange⟩ :=
    made_perform law ⟨params, state⟩ reached log call
  exact ⟨sent, answer, after, last, hdone, hdoneRecorded, hexchange.orderly law⟩

end

end PortableSql
