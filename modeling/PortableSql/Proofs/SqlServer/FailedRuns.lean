import Mathlib
import PortableSql.Proofs.SqlServer.Rows
import PortableSql.SqlServer.Script

/-!
# Runs that fail on SQL Server

A run makes up to two requests: it sends the text, and if the answer has no columns it asks how many
rows were changed. The answer is taken over behind the last of them. So a run that fails at either
one leaves the statement as it was, and the rows of the execution before go on where they had stopped.

## Main definitions

* `Statement.RunFails` — the ways for a run to fail.
* `Statement.Continues` — what is fetched and read behind calls that may include failed runs.
-/
namespace PortableSql

namespace StatementEvent

/-- A run that failed. -/
def failedRun : StatementEvent → Bool
  | ⟨.run, .done (.error _)⟩ => true
  | _ => false

/-- The rows of the last execution are still there: nothing was asked for that replaces them, or a
run failed. -/
def leavesRows (event : StatementEvent) : Bool :=
  event.call.keepsRows || event.failedRun

theorem call_eq_run_of_failedRun {event : StatementEvent} (h : event.failedRun = true) :
    ∃ e, event = ⟨.run, .done (.error e)⟩ := by
  rcases event with ⟨call, answer⟩
  cases call with
  | run =>
    cases answer with
    | done outcome =>
      cases outcome with
      | error e => exact ⟨e, rfl⟩
      | ok _ => cases h
    | _ => cases h
  | _ => cases h

end StatementEvent

namespace SqlServer.Statement

variable {σ : Type} {server : Link σ} {s t : Statement} {link link' : σ} {e : Error}

/-! ## One run -/

/-- The ways for a run to fail, with the error and the link behind it. -/
inductive RunFails (server : Link σ) (s : Statement) (link : σ) : Error → σ → Prop
  /-- Nothing has been prepared, and nothing is sent. -/
  | unprepared {e : Error} (hprepared : s.requirePrepared = .error e) : RunFails server s link e link
  /-- The server refuses the text, or breaks off its answer. -/
  | refused {text : String} {e : Error} {link' : σ} (hprepared : s.requirePrepared = .ok text)
      (hanswer : server.send text s.params link = (.error e, link')) :
      RunFails server s link e link'
  /-- The text has been run, but the number of rows it changed is not to be had. -/
  | uncounted {text : String} {sets : List ResultSet} {e : Error} {between link' : σ}
      (hprepared : s.requirePrepared = .ok text)
      (hanswer : server.send text s.params link = (.ok sets, between))
      (hcolumns : hasColumns sets = false)
      (hcount : server.rowCount between = (.error e, link')) : RunFails server s link e link'

theorem RunFails.run_eq (h : RunFails server s link e link') :
    s.run server link = (.error e, s, link') := by
  cases h with
  | unprepared hprepared => rw [run, hprepared]
  | refused hprepared hanswer => simp [run, hprepared, perform, hanswer]
  | uncounted hprepared hanswer hcolumns hcount =>
    simp [run, hprepared, perform, hanswer, hcolumns, hcount]

/-- A text that is sent without success was refused, or its count was. -/
theorem runFails_of_perform {text : String} (hprepared : s.requirePrepared = .ok text)
    (h : s.perform server text link = (.error e, t, link')) : RunFails server s link e link' := by
  rw [perform] at h
  rcases hanswer : server.send text s.params link with ⟨e' | sets, between⟩
  · rw [hanswer] at h
    cases h
    exact .refused hprepared hanswer
  · simp only [hanswer] at h
    cases hcolumns : hasColumns sets with
    | true =>
      rw [hcolumns] at h
      cases h
    | false =>
      rcases hcount : server.rowCount between with ⟨e' | affected, link₂⟩ <;>
        simp only [hcolumns, hcount] at h <;> cases h
      exact .uncounted hprepared hanswer hcolumns hcount

/-- **A run that fails has failed in one of these ways and changes nothing.** -/
theorem run_eq_error_iff :
    s.run server link = (.error e, t, link') ↔ t = s ∧ RunFails server s link e link' := by
  constructor
  · intro h
    cases hprepared : s.requirePrepared with
    | error e' =>
      rw [run, hprepared] at h
      cases h
      exact ⟨rfl, .unprepared hprepared⟩
    | ok text =>
      rw [run, hprepared] at h
      exact ⟨perform_eq_error h, runFails_of_perform hprepared h⟩
  · rintro ⟨rfl, h⟩
    exact h.run_eq

/-! ## Runs that fail among other calls -/

variable {rows : List Cells} {frame : Statement} {k : Nat}

/-- A call that leaves the rows moves on by its fetch, and a run that fails stays where it was. -/
theorem place_of_leavesRows (h : (browsing server).Place rows frame k s) {call : StatementCall}
    (hcall : StatementEvent.leavesRows
      ⟨call, ((statements server).perform call s link).1⟩ = true) :
    (browsing server).Place rows frame (k + if call.isFetch then 1 else 0)
      ((statements server).perform call s link).2.1 := by
  rcases Bool.or_eq_true_iff.1 hcall with hkeeps | hfailed
  · exact h.perform hkeeps link
  · -- a run is no fetch, and a run that fails leaves the statement as it is
    obtain ⟨e, hevent⟩ := StatementEvent.call_eq_run_of_failedRun hfailed
    obtain ⟨rfl, hanswer⟩ := StatementEvent.mk.inj hevent
    have hrun : s.run server link =
        (.error e, ((statements server).perform .run s link).2.1,
          ((statements server).perform .run s link).2.2) :=
      (statements server).perform_run_iff.1 (Prod.ext hanswer rfl)
    rw [(run_eq_error_iff.1 hrun).1]
    exact h

/-- After an execution with these rows, whatever is called that leaves them, failed runs included:
the fetches hand out one row after another, and what is read behind one of them is read from its
row. -/
def Continues (server : Link σ) (rows : List Cells) (s : Statement) (link : σ) : Prop :=
  ∀ calls : List StatementCall,
    let reached := (statements server).history calls s link
    (∀ event ∈ reached.1, event.leavesRows = true) →
      let fetches := fetchCount reached.1
      reached.2.1.fetch.1 = Cursor.fetched rows fetches ∧
        (∀ column kind, (reached.2.1.getValue column kind).1 =
          Cursor.reading rows fetches fun row => readColumn s.columnNames row column kind) ∧
        ∀ column, (reached.2.1.isNull column).1 =
          Cursor.reading rows fetches fun row => readNull s.columnNames row column

/-- **A failed run leaves the statement as it was.** A run fails if nothing is prepared, if the
server does not answer the text to the end, or if it does not say how many rows a text without columns
has changed, and in no other way; then the statement is the one that there was before, in all its
parts.
Hence the rows of an execution that succeeded go on behind a failed run where they had stopped. -/
theorem failed_run_changes_nothing (server : Link σ) :
    (∀ (s t : Statement) (link link' : σ) (e : Error),
      s.run server link = (.error e, t, link') ↔ t = s ∧ RunFails server s link e link') ∧
    ∀ (call : StatementCall) (s t : Statement) (link link' : σ), call.executes = true →
      (statements server).perform call s link = (.done (.ok ()), t, link') →
      ∃ rows, s.answeredRows? server link call = some rows ∧ Continues server rows t link' := by
  refine ⟨fun _ _ _ _ _ => run_eq_error_iff, ?_⟩
  intro call s t link link' hcall hexecuted
  obtain ⟨rows, hrows, hstart⟩ := exists_place_of_executes hcall hexecuted
  refine ⟨rows, hrows, ?_⟩
  intro calls reached hevents fetches
  have hreached : (browsing server).Place rows t.parts.frame fetches reached.2.1 :=
    hstart.history _ (fun _ _ _ _ hleaves hplace => place_of_leavesRows hplace hleaves) calls link'
      hevents
  exact ⟨hreached.fetch, hreached.getValue, hreached.isNull⟩

/-- The server runs a text twice, with two rows and then without columns, and refuses to count:
behind the first row the second run fails, and the second row is fetched and read all the same. -/
theorem second_row_behind_failed_count :
    let api := statements Script.link
    let rows : List Cells := [[.value (.int 7)], [.value (.int 8)]]
    let replies : List Reply := [⟨[⟨[("id", .int4)], rows⟩], false, false⟩, .empty]
    let server :=
      Script.new [("t", replies), (Link.rowCountSql, [⟨[], true, false⟩])] false false false
    let prepared := new.prepare "t" false
    let started := api.perform .run prepared server
    let first := api.perform .fetch started.2.1 started.2.2
    let failed := first.2.1.run Script.link first.2.2
    let second := api.history [.fetch, .run, .fetch] started.2.1 started.2.2
    started.1 = .done (.ok ()) ∧ failed = (.error (.refused .mssql), first.2.1, failed.2.2) ∧
      (∀ event ∈ second.1, event.leavesRows = true) ∧
      (second.2.1.getValue (.name "ID") .int32).1 = .ok (some (.int32 8)) := by
  intro api rows replies server prepared started first failed second
  have hstarted : started.1 = .done (.ok ()) := by
    subst started prepared server replies rows api
    cbv
  have huncounted : RunFails Script.link first.2.1 first.2.2 (.refused .mssql) failed.2.2 := by
    subst failed first started prepared server replies rows api
    exact .uncounted (by cbv) (by cbv) rfl (by cbv)
  have hanswered : prepared.answeredRows? Script.link server .run = some rows := by
    subst prepared server replies rows
    decide +kernel
  have hnames : started.2.1.columnNames = ["id"] := by
    subst started prepared server replies rows api
    decide +kernel
  have hevents : ∀ event ∈ second.1, event.leavesRows = true := by
    subst second started prepared server replies rows api
    decide +kernel
  have hfetches : fetchCount second.1 = 2 := by
    subst second started prepared server replies rows api
    decide +kernel
  obtain ⟨hfails, hcontinues⟩ := failed_run_changes_nothing Script.link
  obtain ⟨found, hfound, hrows⟩ :=
    hcontinues .run prepared started.2.1 server started.2.2 rfl (Prod.ext hstarted rfl)
  obtain rfl : rows = found := Option.some_inj.mp (hanswered.symm.trans hfound)
  refine ⟨hstarted, (hfails _ _ _ _ _).2 ⟨rfl, huncounted⟩, hevents, ?_⟩
  rw [(hrows _ hevents).2.1, hfetches, hnames]
  cbv

end SqlServer.Statement

end PortableSql
