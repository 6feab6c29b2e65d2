import PortableSql.Postgres.Script
import PortableSql.Proofs.Postgres.Rows

/-!
# When a PostgreSQL statement is on a row

A statement that says that it is on a row has one, with one exception: a run gives up the rows of the
last execution before it asks the server, and if the server refuses, the state stays as it was.

## Main definitions

* `Standing` — the situations that any history of calls can lead to.
* `Statement.standing_perform` — what one call makes of each of them.
* `Statement.standing_history` — the induction over the calls.
-/
namespace PortableSql

namespace StatementEvent

/-- A run that the server refused. -/
def refusedRun : StatementEvent → Bool
  | ⟨.run, .done (.error (.refused _))⟩ => true
  | _ => false

/-- The rows that there were before are gone. -/
def replacesRows : StatementEvent → Bool
  | ⟨.prepare .., _⟩ | ⟨.execute _, _⟩ | ⟨.run, .done (.ok _)⟩ => true
  | event => event.refusedRun

theorem replacesRows_of_keepsRows {event : StatementEvent} (h : event.call.keepsRows = true) :
    event.replacesRows = false := by
  rcases event with ⟨call, answer⟩
  cases call <;> first | rfl | cases h

end StatementEvent

/-- Rows were given up for a run that the server refused, and nothing has taken their place since. -/
def rowsLost (events : List StatementEvent) : Bool :=
  events.foldl (fun lost event => if event.replacesRows then event.refusedRun else lost) false

theorem rowsLost_concat (past : List StatementEvent) (event : StatementEvent) :
    rowsLost (past ++ [event]) =
      if event.replacesRows then event.refusedRun else rowsLost past := by
  rw [rowsLost, List.foldl_append, List.foldl_cons, List.foldl_nil, ← rowsLost]

namespace Postgres

/-- The last execution that succeeded was answered with these rows, and `later` is what has been
called since. `Answered before call rows` says that the server answers a call behind `before` with
rows. -/
structure ExecutedBefore (Answered : List StatementEvent → StatementCall → List Cells → Prop)
    (past later : List StatementEvent) (rows : List Cells) : Prop where
  execution : ∃ before call, past = before ++ ⟨call, .done (.ok ())⟩ :: later ∧
    call.executes = true ∧ Answered before call rows
  kept : ∀ event ∈ later, event.replacesRows = false

/-- The situations that the calls so far can have led to. -/
inductive Standing (Answered : List StatementEvent → StatementCall → List Cells → Prop)
    (past : List StatementEvent) : Cursor Cells → Prop
  /-- Nothing has been executed since the last text, or that failed. -/
  | idle {state : StatementState} (hlost : rowsLost past = false)
      (hstate : state = .undefined ∨ state = .prepared) : Standing Answered past (.empty state)
  /-- Behind the fetches since the last execution. -/
  | placed {later : List StatementEvent} {rows : List Cells} (hlost : rowsLost past = false)
      (hexecuted : ExecutedBefore Answered past later rows) :
      Standing Answered past (.behind rows (fetchCount later))
  /-- The last run was refused; the state is any, since it has not been set. -/
  | lost {state : StatementState} (hlost : rowsLost past = true) :
      Standing Answered past (.empty state)

variable {Answered : List StatementEvent → StatementCall → List Cells → Prop}
  {past : List StatementEvent} {c : Cursor Cells}

theorem ExecutedBefore.concat {later : List StatementEvent} {rows : List Cells}
    (h : ExecutedBefore Answered past later rows) {event : StatementEvent}
    (hevent : event.replacesRows = false) :
    ExecutedBefore Answered (past ++ [event]) (later ++ [event]) rows := by
  obtain ⟨⟨before, call, hpast, hcall, hrows⟩, hkept⟩ := h
  constructor
  · refine ⟨before, call, ?_, hcall, hrows⟩
    rw [hpast, List.append_assoc, List.cons_append]
  · intro other hother
    rcases List.mem_append.1 hother with hlater | hlast
    · exact hkept other hlater
    · rw [List.mem_singleton.1 hlast]
      exact hevent

namespace Standing

/-- A call that neither fetches nor gives up rows leaves the situation as it is. -/
theorem keep (h : Standing Answered past c) {event : StatementEvent}
    (hrows : event.replacesRows = false) (hfetch : event.call.isFetch = false) :
    Standing Answered (past ++ [event]) c := by
  have hsame : rowsLost (past ++ [event]) = rowsLost past := by simp [rowsLost_concat, hrows]
  cases h with
  | idle hlost hstate => exact .idle (hsame.trans hlost) hstate
  | lost hlost => exact .lost (hsame.trans hlost)
  | @placed later rows hlost hexecuted =>
    have hcount : fetchCount (later ++ [event]) = fetchCount later := by
      simp [fetchCount_concat, hfetch]
    rw [← hcount]
    exact .placed (hsame.trans hlost) (hexecuted.concat hrows)

/-- A fetch goes to the next row of the last execution, if there was one. -/
theorem fetch (h : Standing Answered past c) (answer : StatementAnswer) :
    Standing Answered (past ++ [⟨.fetch, answer⟩]) c.fetch.2 := by
  have hsame : rowsLost (past ++ [⟨.fetch, answer⟩]) = rowsLost past := by
    simp [rowsLost_concat, StatementEvent.replacesRows, StatementEvent.refusedRun]
  cases h with
  | idle hlost hstate =>
    rcases hstate with rfl | rfl
    · exact .idle (hsame.trans hlost) (.inl rfl)
    · exact .idle (hsame.trans hlost) (.inr rfl)
  | @lost state hlost => cases state <;> exact .lost (hsame.trans hlost)
  | @placed later rows hlost hexecuted =>
    have hcount : fetchCount (later ++ [⟨.fetch, answer⟩]) = fetchCount later + 1 := by
      simp [fetchCount_concat, StatementCall.isFetch]
    rw [Cursor.fetch_behind, ← hcount]
    exact .placed (hsame.trans hlost) (hexecuted.concat rfl)

/-- A call between two executions goes on by its fetch, if it is one. -/
theorem keepsRows (h : Standing Answered past c) {call : StatementCall}
    (hcall : call.keepsRows = true) (answer : StatementAnswer) :
    Standing Answered (past ++ [⟨call, answer⟩]) (if call.isFetch then c.fetch.2 else c) := by
  by_cases hfetch : call.isFetch = true
  · obtain rfl : call = .fetch := by cases call <;> first | rfl | cases hfetch
    exact h.fetch answer
  · rw [if_neg hfetch]
    exact h.keep (StatementEvent.replacesRows_of_keepsRows hcall) (Bool.not_eq_true _ ▸ hfetch)

/-- On a row exactly when the state says so, unless a run was refused. -/
theorem onRow (h : Standing Answered past c) (hlost : rowsLost past = false) : c.OnRow := by
  cases h with
  | idle _ hstate =>
    refine Cursor.onRow_empty ?_
    rcases hstate with rfl | rfl <;> decide
  | lost hrefused => simp [hlost] at hrefused
  | placed => exact Cursor.onRow_behind _ _

/-- Behind a refused run there is no row. -/
theorem current_of_lost (h : Standing Answered past c) (hlost : rowsLost past = true) :
    c.current? = none := by
  cases h with
  | idle hkept => simp [hlost] at hkept
  | lost => rfl
  | placed hkept => simp [hlost] at hkept

/-- A fetch that is allowed goes to the next row of an execution that succeeded; behind a refused run
it finds none. -/
theorem fetched (h : Standing Answered past c) {hasRow : Bool} (hfetch : c.fetch.1 = .ok hasRow) :
    (rowsLost past = true ∧ hasRow = false) ∨
      ∃ later rows, ExecutedBefore Answered past later rows ∧
        c.fetch.2.current? = rows[fetchCount later]? ∧
        hasRow = c.fetch.2.current?.isSome := by
  cases h with
  | idle _ hstate => rcases hstate with rfl | rfl <;> cases hfetch
  | @lost state hlost =>
    refine .inl ⟨hlost, ?_⟩
    cases state <;> cases hfetch <;> rfl
  | @placed later rows _ hexecuted =>
    rw [Cursor.fetch_behind] at hfetch ⊢
    refine .inr ⟨later, rows, hexecuted, rfl, ?_⟩
    rw [Cursor.fetched] at hfetch
    simp only [Cursor.behind, OneBased.get?_succ]
    split at hfetch
    · rename_i hlt
      cases hfetch
      simp [hlt]
    · split at hfetch
      · rename_i hlt heq
        cases hfetch
        simp [heq]
      · cases hfetch

end Standing

namespace Statement

variable {σ : Type} {server : Link σ} {s t : Statement} {link link' : σ}

/-! ## What preparing and executing make of the rows -/

theorem cursor_of_perform_error {prepared : Prepared} {e : Error}
    (h : s.perform server prepared link = (.error e, t, link')) :
    e = .refused .postgres ∧ t.cursor = s.cursor := by
  rw [Statement.perform] at h
  rcases hserver : server.run prepared s.params link with ⟨_ | completed, link₁⟩ <;>
    rw [hserver] at h <;> cases h
  exact ⟨rfl, rfl⟩

theorem cursor_compile (server : Link σ) (sql : String) (native : Bool) (s : Statement) (link : σ) :
    (s.compile server sql native link).2.1.cursor = .empty .undefined := by
  rw [compile]
  rcases hforget : s.forget sql native with ⟨fresh, text⟩
  cases hforget
  dsimp only
  split <;> rfl

theorem cursor_prepare (server : Link σ) (sql : String) (native : Bool) (s : Statement) (link : σ) :
    ∃ state : StatementState, (state = .undefined ∨ state = .prepared) ∧
      (s.prepare server sql native link).2.1.cursor = .empty state := by
  have hcompile := cursor_compile server sql native s link
  rw [prepare]
  rcases hresult : s.compile server sql native link with ⟨e | prepared, t, link'⟩
  · rw [hresult] at hcompile
    exact ⟨.undefined, .inl rfl, hcompile⟩
  · rw [hresult] at hcompile
    refine ⟨.prepared, .inr rfl, ?_⟩
    rw [Cursor.ext_iff] at hcompile
    exact Cursor.ext hcompile.1 hcompile.2.1 rfl

theorem cursor_of_execute_error {sql : String} {e : Error}
    (h : s.execute server sql link = (.error e, t, link')) : t.cursor = .empty .undefined := by
  have hcompile := cursor_compile server sql true s link
  rw [execute] at h
  rcases hresult : s.compile server sql true link with ⟨e' | prepared, fresh, link₁⟩
  · rw [hresult] at h hcompile
    cases h
    exact hcompile
  · rw [hresult] at h hcompile
    exact (cursor_of_perform_error h).2.trans hcompile

/-- A run that fails has either found nothing prepared and changed nothing, or it was refused, and
then the rows are gone but the state is still that of before. -/
theorem cursor_of_run_error {e : Error} (h : s.run server link = (.error e, t, link')) :
    (e = .sequence .notPrepared ∧ t.cursor = s.cursor) ∨
      e = .refused .postgres ∧ t.cursor = .empty s.state := by
  rw [run] at h
  cases hprepared : s.requirePrepared with
  | error e' =>
    rw [hprepared] at h
    cases h
    refine .inl ⟨?_, rfl⟩
    revert hprepared
    rw [requirePrepared]
    cases s.state <;> cases s.prepared? <;> intro herror <;> cases herror <;> rfl
  | ok prepared =>
    rw [hprepared] at h
    obtain ⟨hrefused, hcursor⟩ := cursor_of_perform_error h
    exact .inr ⟨hrefused, hcursor⟩

/-! ## The situation behind a history -/

/-- Behind some calls on a new statement, which gave these events, the server answers an execution
with these rows. -/
def AnsweredBehind (server : Link σ) (link : σ) (past : List StatementEvent) (call : StatementCall)
    (rows : List Cells) : Prop :=
  ∃ calls, let reached := (statements server).history calls .new link
    reached.1 = past ∧ reached.2.1.answeredRows? server reached.2.2 call = some rows

/-- What succeeds is before the first row of its answer. -/
theorem standing_of_executes {call : StatementCall} (hcall : call.executes = true)
    (hanswered : ∀ rows, s.answeredRows? server link call = some rows → Answered past call rows)
    (h : (statements server).perform call s link = (.done (.ok ()), t, link')) :
    Standing Answered (past ++ [⟨call, .done (.ok ())⟩]) t.cursor := by
  obtain ⟨rows, hrows, hplace⟩ := exists_place_of_executes hcall h
  have hcursor : t.cursor = .behind rows 0 := hplace.cursor
  have hlost : rowsLost (past ++ [⟨call, .done (.ok ())⟩]) = false := by
    rw [rowsLost_concat]
    cases call <;> first | rfl | cases hcall
  rw [hcursor]
  have hexecuted : ExecutedBefore Answered (past ++ [⟨call, .done (.ok ())⟩]) [] rows :=
    ⟨⟨past, call, rfl, hcall, hanswered rows hrows⟩, List.forall_mem_nil _⟩
  exact .placed hlost hexecuted

theorem standing_prepare (sql : String) (native : Bool) (s : Statement) (link : σ) :
    Standing Answered (past ++ [⟨.prepare sql native, .done (s.prepare server sql native link).1⟩])
      (s.prepare server sql native link).2.1.cursor := by
  obtain ⟨state, hstate, hcursor⟩ := cursor_prepare server sql native s link
  rw [hcursor]
  refine .idle ?_ hstate
  rw [rowsLost_concat]
  rfl

theorem standing_execute {sql : String} (s : Statement) (link : σ)
    (hanswered : ∀ rows, s.answeredRows? server link (.execute sql) = some rows →
      Answered past (.execute sql) rows) :
    Standing Answered (past ++ [⟨.execute sql, .done (s.execute server sql link).1⟩])
      (s.execute server sql link).2.1.cursor := by
  rcases hexecute : s.execute server sql link with ⟨e | _, t, link'⟩
  · rw [cursor_of_execute_error hexecute]
    refine .idle ?_ (.inl rfl)
    rw [rowsLost_concat]
    rfl
  · exact standing_of_executes rfl hanswered ((statements server).perform_execute_iff.2 hexecute)

theorem standing_run (h : Standing Answered past s.cursor) (link : σ)
    (hanswered : ∀ rows, s.answeredRows? server link .run = some rows → Answered past .run rows) :
    Standing Answered (past ++ [⟨.run, .done (s.run server link).1⟩]) (s.run server link).2.1.cursor := by
  rcases hrun : s.run server link with ⟨e | _, t, link'⟩
  · rcases cursor_of_run_error hrun with ⟨rfl, hsame⟩ | ⟨rfl, hgone⟩
    · rw [hsame]
      exact h.keep rfl rfl
    · rw [hgone]
      refine .lost ?_
      rw [rowsLost_concat]
      rfl
  · exact standing_of_executes rfl hanswered ((statements server).perform_run_iff.2 hrun)

/-- **What one call makes of the situation.** -/
theorem standing_perform (h : Standing Answered past s.cursor) (call : StatementCall) (link : σ)
    (hanswered : ∀ rows, s.answeredRows? server link call = some rows → Answered past call rows) :
    Standing Answered (past ++ [⟨call, ((statements server).perform call s link).1⟩])
      ((statements server).perform call s link).2.1.cursor := by
  by_cases hkeeps : call.keepsRows = true
  · have hcursor : ((statements server).perform call s link).2.1.cursor =
        if call.isFetch then s.cursor.fetch.2 else s.cursor :=
      ((browsing server).browsed_perform hkeeps s link).cursor
    rw [hcursor]
    exact h.keepsRows hkeeps _
  · cases call with
    | prepare sql native => exact standing_prepare sql native s link
    | run => exact standing_run h link hanswered
    | execute sql => exact standing_execute s link hanswered
    | _ => exact absurd rfl hkeeps

/-- **The situation behind any history of a new statement.** -/
theorem standing_history (server : Link σ) (calls : List StatementCall) (link : σ) :
    let reached := (statements server).history calls .new link
    Standing (AnsweredBehind server link) reached.1 reached.2.1.cursor := by
  have hstart : (∃ earlier, (statements server).history earlier .new link = ([], .new, link)) ∧
      Standing (AnsweredBehind server link) [] Statement.new.cursor :=
    ⟨⟨[], rfl⟩, .idle rfl (.inl rfl)⟩
  have hreached := (statements server).history_invariant
    (P := fun past s now => (∃ earlier,
        (statements server).history earlier .new link = (past, s, now)) ∧
      Standing (AnsweredBehind server link) past s.cursor)
    ?_ calls (fun _ _ => trivial) [] .new link hstart
  · exact hreached.2
  · rintro past s now call - ⟨⟨earlier, hearlier⟩, hstanding⟩
    refine ⟨⟨earlier ++ [call], ?_⟩, standing_perform hstanding call now ?_⟩
    · rw [StatementInterface.history_concat, hearlier]
    · intro rows hrows
      refine ⟨earlier, ?_⟩
      rw [hearlier]
      exact ⟨rfl, hrows⟩

/-- **On a row unless a run was refused.** Behind any history of a new statement, whatever the server
answers: the state says that there is a row exactly when there is one, unless the last run was refused
and nothing has been prepared or executed since; then there is no row. And a fetch that is allowed
goes to the next row of an execution that succeeded, or finds none because the last run was refused. -/
theorem on_row_unless_run_refused (server : Link σ) (calls : List StatementCall) (link : σ) :
    let api := statements server
    let reached := api.history calls .new link
    let s := reached.2.1
    (rowsLost reached.1 = false → (s.state = .fetching ↔ s.current?.isSome = true)) ∧
      (rowsLost reached.1 = true → s.current? = none) ∧
      ∀ hasRow, s.fetch.1 = .ok hasRow →
        (rowsLost reached.1 = true ∧ hasRow = false) ∨
          ∃ earlier later call rows,
            let before := api.history earlier .new link
            reached.1 = before.1 ++ ⟨call, .done (.ok ())⟩ :: later ∧ call.executes = true ∧
            before.2.1.answeredRows? server before.2.2 call = some rows ∧
            (∀ event ∈ later, event.replacesRows = false) ∧
            s.fetch.2.current? = rows[fetchCount later]? ∧
            hasRow = s.fetch.2.current?.isSome := by
  intro api reached s
  have hstanding : Standing (AnsweredBehind server link) reached.1 s.cursor :=
    standing_history server calls link
  refine ⟨hstanding.onRow, hstanding.current_of_lost, ?_⟩
  have hfetched : s.fetch.2.cursor = s.cursor.fetch.2 :=
    congrArg StatementParts.cursor ((browsing server).parts_fetch s)
  have hcurrent : s.fetch.2.current? = s.cursor.fetch.2.current? := congrArg Cursor.current? hfetched
  intro hasRow hfetch
  rw [hcurrent]
  rcases hstanding.fetched (((browsing server).fetch_fst s).symm.trans hfetch) with
    hlost | ⟨later, rows, hexecuted, hrow⟩
  · exact .inl hlost
  · obtain ⟨⟨before, call, hpast, hcall, earlier, hbefore, hrows⟩, hkept⟩ := hexecuted
    refine .inr ⟨earlier, later, call, rows, ?_, hcall, hrows, hkept, hrow⟩
    rw [hpast, ← hbefore]

/-- The server answers the first run with two rows and refuses the second: the statement still says
that it is on a row, has none, and allows a fetch. -/
theorem fetching_without_row :
    let api := statements Script.link
    let rows : List Cells := [[some [0, 0, 0, 7]], [some [0, 0, 0, 8]]]
    let replies : List Reply := [⟨rows, 0, false, false, false⟩, ⟨[], 0, false, true, false⟩]
    let server := Script.new [("select id from t", ⟨[], [("id", 23)], false, replies⟩)] false false
    let s := (api.history [.prepare "select id from t" false, .run, .fetch, .run] .new server).2.1
    s.state = .fetching ∧ s.state.checkHasData = .ok () ∧ s.current? = none ∧
      s.fetch.1 = .ok false := by
  intro api rows replies server s
  have hcursor : s.cursor = .empty .fetching := by
    subst s server replies rows api
    decide +kernel
  have hstate : s.state = .fetching := congrArg Cursor.state hcursor
  refine ⟨hstate, by rw [hstate]; rfl, congrArg Cursor.current? hcursor, ?_⟩
  have hfetch : s.fetch.1 = s.cursor.fetch.1 := (browsing Script.link).fetch_fst s
  rw [hfetch, hcursor]
  rfl

end Statement

end Postgres

end PortableSql
