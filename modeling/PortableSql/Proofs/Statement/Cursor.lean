import PortableSql.OneBased
import PortableSql.Proofs.Statement.History

/-!
# Rows handed out one after another

A statement takes the rows of an execution over whole and hands them out one by one. `Cursor` is what
it keeps for that, and `Cursor.behind` is where a cursor stands after a number of fetches. Statements
that keep their cursor there deliver every row once and in order, whatever else is called in between.

## Main definitions

* `Cursor.behind` — the cursor behind a number of fetches.
* `StatementInterface.Delivers` — what fetching and reading answer after an execution.
-/
namespace PortableSql

namespace StatementCall

/-- The call runs something. -/
def executes : StatementCall → Bool
  | run | execute _ => true
  | _ => false

/-- The call leaves the statement with the rows of its last execution. -/
def keepsRows : StatementCall → Bool
  | prepare .. | run | execute _ => false
  | _ => true

/-- The call goes to the next row. -/
def isFetch : StatementCall → Bool
  | fetch => true
  | _ => false

end StatementCall

/-- Number of fetches among calls that were made. -/
def fetchCount (events : List StatementEvent) : Nat :=
  events.countP fun event => event.call.isFetch

theorem fetchCount_concat (past : List StatementEvent) (event : StatementEvent) :
    fetchCount (past ++ [event]) = fetchCount past + if event.call.isFetch then 1 else 0 := by
  rw [fetchCount, List.countP_append, List.countP_singleton, fetchCount]

/-- What a statement keeps of the rows of an execution. -/
@[ext] structure Cursor (R : Type) where
  /-- Rows that have not been handed out. -/
  rows : List R
  current? : Option R
  state : StatementState
  deriving DecidableEq

namespace Cursor

variable {R : Type}

/-- Without rows, in some state. -/
def empty (state : StatementState) : Cursor R := ⟨[], none, state⟩

/-- Goes to the next row. -/
def fetch (c : Cursor R) : Result Bool × Cursor R :=
  match c.state.checkCanFetch with
  | .error e => (.error e, c)
  | .ok _ =>
    let hasRow := !c.rows.isEmpty
    (.ok hasRow, ⟨c.rows.tail, c.rows.head?, .afterFetch hasRow⟩)

/-- What the fetch behind `k` others answers. -/
def fetched (rows : List R) (k : Nat) : Result Bool :=
  if k < rows.length then .ok true
  else if k = rows.length then .ok false
  else .error (.sequence .pastEnd)

/-- The state behind `k` fetches. -/
def stateBehind (rows : List R) (k : Nat) : StatementState :=
  if k = 0 then .executed else if k ≤ rows.length then .fetching else .exhausted

/-- The cursor behind `k` fetches since the execution that brought the rows. -/
def behind (rows : List R) (k : Nat) : Cursor R :=
  ⟨rows.drop k, OneBased.get? rows k, stateBehind rows k⟩

/-- On a row as long as there was one to fetch. -/
theorem checkHasData_stateBehind (rows : List R) (k : Nat) :
    (stateBehind rows k).checkHasData =
      match OneBased.get? rows k with
      | some _ => .ok ()
      | none => .error (.sequence .noRow) := by
  cases k with
  | zero => rfl
  | succ k =>
    by_cases hk : k < rows.length
    · have hle : k + 1 ≤ rows.length := hk
      simp [stateBehind, hle, hk, StatementState.checkHasData]
    · have hnot : ¬k + 1 ≤ rows.length := hk
      simp [stateBehind, hnot, StatementState.checkHasData, List.getElem?_eq_none (Nat.le_of_not_lt hk)]

/-- A further fetch is allowed up to the one that finds no row. -/
theorem checkCanFetch_stateBehind (rows : List R) (k : Nat) :
    (stateBehind rows k).checkCanFetch =
      if k ≤ rows.length then .ok () else .error (.sequence .pastEnd) := by
  by_cases hzero : k = 0
  · subst hzero
    rfl
  · by_cases hle : k ≤ rows.length <;> simp [stateBehind, hzero, hle, StatementState.checkCanFetch]

/-- **One more fetch hands out the next row**, then the end is found once, and then nothing changes. -/
theorem fetch_behind (rows : List R) (k : Nat) :
    (behind rows k).fetch = (fetched rows k, behind rows (k + 1)) := by
  have hcheck : (behind rows k).state.checkCanFetch =
      if k ≤ rows.length then .ok () else .error (.sequence .pastEnd) :=
    checkCanFetch_stateBehind rows k
  rw [fetch, hcheck]
  rcases Nat.lt_trichotomy k rows.length with hlt | heq | hgt
  · have hrest : rows.drop k ≠ [] := by simp [hlt]
    have hle : k + 1 ≤ rows.length := hlt
    simp [behind, fetched, stateBehind, hlt, Nat.le_of_lt hlt, hle, StatementState.afterFetch]
  · subst heq
    simp [behind, fetched, stateBehind, StatementState.afterFetch]
  · have hnot : ¬k ≤ rows.length := Nat.not_le_of_lt hgt
    have hstate : stateBehind rows (k + 1) = stateBehind rows k := by
      have hpos : k ≠ 0 := by omega
      have hpast : ¬k + 1 ≤ rows.length := by omega
      simp [stateBehind, hpos, hnot, hpast]
    have hnone : OneBased.get? rows (k + 1) = OneBased.get? rows k := by
      obtain ⟨j, rfl⟩ : ∃ j, k = j + 1 := ⟨k - 1, by omega⟩
      simp only [OneBased.get?_succ]
      rw [List.getElem?_eq_none (by omega), List.getElem?_eq_none (by omega)]
    have hrest : rows.drop (k + 1) = rows.drop k := by
      rw [List.drop_of_length_le (by omega), List.drop_of_length_le (by omega)]
    have hne : k ≠ rows.length := by omega
    rw [if_neg hnot, fetched, if_neg (Nat.lt_asymm hgt), if_neg hne]
    simp only [behind, hstate, hnone, hrest]

/-- Four fetches of two rows. -/
example : (List.range 4).map (fetched ["first", "second"]) =
    [.ok true, .ok true, .ok false, .error (.sequence .pastEnd)] := rfl

/-- A fetch begins nothing, and what has begun stays so. -/
theorem state_fetch_ne_undefined {c : Cursor R} (h : c.state ≠ .undefined) :
    c.fetch.2.state ≠ .undefined := by
  rw [fetch]
  split
  · exact h
  · exact StatementState.afterFetch_ne_undefined _

/-- The state says that there is a row exactly when there is one. -/
def OnRow (c : Cursor R) : Prop := c.state = .fetching ↔ c.current?.isSome = true

theorem onRow_empty {state : StatementState} (h : state ≠ .fetching) :
    (empty state : Cursor R).OnRow := by
  simp [OnRow, empty, h]

theorem onRow_behind (rows : List R) (k : Nat) : (behind rows k).OnRow := by
  have hchecked := checkHasData_stateBehind rows k
  rw [OnRow, behind]
  cases hrow : OneBased.get? rows k <;> rw [hrow] at hchecked <;> revert hchecked <;>
    cases stateBehind rows k <;> simp [StatementState.checkHasData]

/-- A fetch is on a row exactly when it has found one. -/
theorem OnRow.fetch {c : Cursor R} (h : c.OnRow) : c.fetch.2.OnRow := by
  rw [Cursor.fetch]
  split
  · exact h
  · rcases c.rows with _ | ⟨row, rest⟩ <;> simp [OnRow, StatementState.afterFetch]

/-- What is read at a place of the rows, if there is a row. -/
def reading {α : Type} (rows : List R) (k : Nat) (read : R → Result α) : Result α :=
  match OneBased.get? rows k with
  | some row => read row
  | none => .error (.sequence .noRow)

end Cursor

namespace StatementInterface

variable {σ S R : Type} (api : StatementInterface σ S)

theorem perform_run_iff {s t : S} {link link' : σ} {outcome : Result Unit} :
    api.perform .run s link = (.done outcome, t, link') ↔ api.run s link = (outcome, t, link') := by
  rcases hanswer : api.run s link with ⟨outcome', t', link₁⟩
  simp [perform, hanswer]

theorem perform_execute_iff {sql : String} {s t : S} {link link' : σ} {outcome : Result Unit} :
    api.perform (.execute sql) s link = (.done outcome, t, link') ↔
      api.execute sql s link = (outcome, t, link') := by
  rcases hanswer : api.execute sql s link with ⟨outcome', t', link₁⟩
  simp [perform, hanswer]

/-- The events of a history are its calls. -/
theorem map_call_history (calls : List StatementCall) (s : S) (link : σ) :
    (api.history calls s link).1.map StatementEvent.call = calls := by
  induction calls generalizing s link with
  | nil => rfl
  | cons call rest ih =>
    rw [history_cons, List.map_cons, ih]

/-- After an execution, whatever is called that leaves its rows alone: the fetches hand out one row
after another, and what is read behind one of them is read from its row. -/
def Delivers (rows : List R) (read : R → Identifier → ValueKind → Result (Option Value))
    (readNull : R → Identifier → Result Bool) (s : S) (link : σ) : Prop :=
  ∀ calls : List StatementCall, (∀ call ∈ calls, call.keepsRows = true) →
    let reached := (api.history calls s link).2.1
    let fetches := calls.countP StatementCall.isFetch
    (api.fetch reached).1 = Cursor.fetched rows fetches ∧
      (∀ column kind, (api.getValue column kind reached).1 =
        Cursor.reading rows fetches fun row => read row column kind) ∧
      ∀ column, (api.isNull column reached).1 =
        Cursor.reading rows fetches fun row => readNull row column

end StatementInterface

end PortableSql
