import PortableSql.Statement.Interface

/-!
# Histories of a statement

A history is a list of calls of a statement's operations, made one after another on one link. What
holds before a history and is kept by every call holds behind it; it may speak of the calls made so
far and of their answers.
-/
namespace PortableSql

/-- A call of an operation of a statement. -/
inductive StatementCall where
  | prepare (sql : String) (native : Bool)
  | run
  | execute (sql : String)
  | fetch
  | rowsAffected
  | lastRowId
  | paramsCount
  | paramType (param : Identifier)
  | columnsCount
  | columnName (position : Nat)
  | columnType (column : Identifier)
  | setValue (param : Identifier) (value? : Option Value)
  | getValue (column : Identifier) (kind : ValueKind)
  | isNull (column : Identifier)

namespace StatementCall

/-- The call leaves the text that the statement works on as it is. -/
def keepsText : StatementCall → Bool
  | prepare .. | execute _ => false
  | _ => true

end StatementCall

/-- What a call answers. -/
inductive StatementAnswer where
  | done (outcome : Result Unit)
  | row (outcome : Result Bool)
  | count (outcome : Result Nat)
  | key (outcome : Result Int64)
  | type (outcome : Result ValueType)
  | name (outcome : Result String)
  | value (outcome : Result (Option Value))

/-- A call that was made, with its answer. -/
structure StatementEvent where
  call : StatementCall
  answer : StatementAnswer

namespace StatementInterface

variable {σ S : Type} (api : StatementInterface σ S)

/-- Makes a call. -/
def perform (call : StatementCall) (s : S) (link : σ) : StatementAnswer × S × σ :=
  match call with
  | .prepare sql native =>
    let (outcome, s, link) := api.prepare sql native s link
    (.done outcome, s, link)
  | .run =>
    let (outcome, s, link) := api.run s link
    (.done outcome, s, link)
  | .execute sql =>
    let (outcome, s, link) := api.execute sql s link
    (.done outcome, s, link)
  | .fetch =>
    let (outcome, s) := api.fetch s
    (.row outcome, s, link)
  | .rowsAffected => (.count (api.rowsAffected s), s, link)
  | .lastRowId =>
    let (outcome, link) := api.lastRowId s link
    (.key outcome, s, link)
  | .paramsCount => (.count (api.paramsCount s), s, link)
  | .paramType param => (.type (api.paramType param s), s, link)
  | .columnsCount => (.count (api.columnsCount s), s, link)
  | .columnName position => (.name (api.columnName position s), s, link)
  | .columnType column =>
    let (outcome, s) := api.columnType column s
    (.type outcome, s, link)
  | .setValue param value? =>
    let (outcome, s) := api.setValue param value? s
    (.done outcome, s, link)
  | .getValue column kind =>
    let (outcome, s) := api.getValue column kind s
    (.value outcome, s, link)
  | .isNull column =>
    let (outcome, s) := api.isNull column s
    (.row outcome, s, link)

theorem perform_setValue {param : Identifier} {value? : Option Value} {s t : S}
    {outcome : Result Unit} (h : api.setValue param value? s = (outcome, t)) (link : σ) :
    api.perform (.setValue param value?) s link = (.done outcome, t, link) := by
  rw [perform, h]

/-- Makes calls one after another: what was called and answered, and what that leads to. -/
def history : List StatementCall → S → σ → List StatementEvent × S × σ
  | [], s, link => ([], s, link)
  | call :: rest, s, link =>
    let (answer, s, link) := api.perform call s link
    let (events, s, link) := history rest s link
    (⟨call, answer⟩ :: events, s, link)

theorem history_cons (call : StatementCall) (rest : List StatementCall) (s : S) (link : σ) :
    api.history (call :: rest) s link =
      let performed := api.perform call s link
      let later := api.history rest performed.2.1 performed.2.2
      (⟨call, performed.1⟩ :: later.1, later.2.1, later.2.2) := rfl

/-- A history with one more call at its end. -/
theorem history_concat (calls : List StatementCall) (call : StatementCall) (s : S) (link : σ) :
    api.history (calls ++ [call]) s link =
      let reached := api.history calls s link
      let performed := api.perform call reached.2.1 reached.2.2
      (reached.1 ++ [⟨call, performed.1⟩], performed.2.1, performed.2.2) := by
  induction calls generalizing s link with
  | nil => rfl
  | cons first rest ih =>
    simp only [List.cons_append, history_cons, ih]

/-- **What every call keeps, a history keeps.** `past` are the events before the history. -/
theorem history_invariant {allowed : StatementCall → Prop}
    {P : List StatementEvent → S → σ → Prop}
    (step : ∀ past s link call, allowed call → P past s link →
      P (past ++ [⟨call, (api.perform call s link).1⟩]) (api.perform call s link).2.1
        (api.perform call s link).2.2)
    (calls : List StatementCall) (hcalls : ∀ call ∈ calls, allowed call)
    (past : List StatementEvent) (s : S) (link : σ) (h : P past s link) :
    P (past ++ (api.history calls s link).1) (api.history calls s link).2.1
      (api.history calls s link).2.2 := by
  induction calls generalizing past s link with
  | nil =>
    rw [history, List.append_nil]
    exact h
  | cons call rest ih =>
    have hfirst := step past s link call (hcalls call (by simp)) h
    have hrest := ih (fun call hcall => hcalls call (by simp [hcall])) _ _ _ hfirst
    rw [history_cons, List.append_cons]
    exact hrest

end StatementInterface

end PortableSql
