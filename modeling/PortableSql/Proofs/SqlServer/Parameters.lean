import PortableSql.Proofs.SqlServer.Rows
import PortableSql.Proofs.Statement.Parameters
import PortableSql.SqlServer.Script

/-!
# Parameters of a SQL Server statement

From the preparation on, a statement keeps the text and its slots, and its parameters are the cells
of the values bound last, each in the value's own type. Binding changes a parameter only if it
succeeds.
-/
namespace PortableSql.SqlServer

/-- The cell in which a value is sent. -/
def cellOf (value? : Option Value) : Result Cell :=
  match value? with
  | none => .ok .unbound
  | some value => encode value

/-- The server with a record of what it is asked. -/
def Link.recorded {σ : Type} (server : Link σ) : Link (σ × List Request) where
  batch sql link :=
    let (answer, s) := server.batch sql link.1
    (answer, s, link.2 ++ [.batch sql])
  query sql params link :=
    let (answer, s) := server.query sql params link.1
    (answer, s, link.2 ++ [.query sql params])

/-- The request that runs a text with parameters. -/
def Request.running (sql : String) (params : Cells) : Request :=
  if params.isEmpty then .batch sql else .query sql params

namespace Statement

variable {σ : Type} {server : Link σ} {s t : Statement} {link : σ}

/-! ## The text and its parameters -/

/-- What a statement works on: the text as it is sent, and the slots. -/
def text (s : Statement) : Option String × Placeholders :=
  (s.sql?, s.placeholders)

theorem sameText_perform (server : Link σ) (sql : String) (s : Statement) (link : σ) :
    (browsing server).SameText text s (s.perform server sql link).2.1 := by
  rcases hperform : s.perform server sql link with ⟨e | _, t, link'⟩
  · rw [perform_eq_error hperform]
    exact .refl s
  · obtain ⟨sets, affected, -, rfl⟩ := perform_eq_ok hperform
    exact ⟨rfl, rfl, fun _ => StatementState.ne_undefined_of_checkPrepared rfl⟩

theorem keepsText (server : Link σ) : (browsing server).KeepsText text where
  frame _ := rfl
  run s link := by
    change (browsing server).SameText text s (s.run server link).2.1
    rw [run]
    cases s.requirePrepared with
    | error e => exact .refl s
    | ok sql => exact sameText_perform server sql s link

theorem put_eq_ok_iff {cells cells' : Cells} {slot : Nat} {cell : Cell} :
    cells.put slot cell = .ok cells' ↔ OneBased.set? cells slot cell = some cells' := by
  rw [Cells.put]
  cases OneBased.set? cells slot cell <;> simp

theorem bind_putsCell (value? : Option Value) :
    PutsCell (fun _ => cellOf) value? fun slot params => Cells.bind params slot value? := by
  intro slot params params'
  cases value? with
  | none => simp [Cells.bind, cellOf, put_eq_ok_iff]
  | some value =>
    cases hencode : encode value with
    | error e => simp [bind, Except.bind, Cells.bind, cellOf, hencode]
    | ok cell => simp [bind, Except.bind, Cells.bind, cellOf, hencode, put_eq_ok_iff]

theorem requirePrepared_eq_ok {sql : String} (hbegun : s.state ≠ .undefined)
    (hsql : s.sql? = some sql) : s.requirePrepared = .ok sql := by
  rw [requirePrepared, StatementState.checkPrepared_of_ne hbegun, hsql]
  rfl

/-- A portable text. -/
def slotText (server : Link σ) (sql : String) :
    (browsing server).SlotText (Option String × Placeholders) where
  text := text
  own :=
    (some (renderSql dialect ⟨false, true⟩ sql).sql, (Placeholders.prepare dialect false true sql).1)
  holder := (Placeholders.prepare dialect false true sql).1
  count := (renderSql dialect ⟨false, true⟩ sql).slots.nativeCount
  cell _ := cellOf
  keeps := keepsText server
  oneSlotEach := Placeholders.oneSlotEach_prepare dialect sql
  setValue_eq s param value? htext hbegun := by
    obtain ⟨hsql, hholder⟩ : s.sql? = some (renderSql dialect ⟨false, true⟩ sql).sql ∧
        s.placeholders = (Placeholders.prepare dialect false true sql).1 := by
      simpa [text] using htext
    refine ⟨_, bind_putsCell value?, ?_⟩
    change s.setValue param value? = _
    rw [setValue_eq, requirePrepared_eq_ok hbegun hsql, hholder]
    rfl

/-- **Preparing binds NULL to every parameter.** -/
theorem working_prepare (server : Link σ) (sql : String) :
    (slotText server sql).Working [] (new.prepare sql false) where
  text := rfl
  begun := StatementState.ne_undefined_of_checkPrepared rfl
  length := List.length_replicate
  holds := holdsBindings_replicate fun _ _ _ => rfl

/-- Running a text with parameters is one request. -/
theorem link_send (server : Link σ) (text : String) (params : Cells) (link : σ × List Request) :
    (server.recorded.send text params link).2.2 = link.2 ++ [.running text params] := by
  rw [Link.send, Request.running]
  split
  · rcases hserver : server.batch text link.1 with ⟨_ | sets, link'⟩ <;>
      simp [Link.recorded, hserver, orRefused]
  · rcases hserver : server.query text params link.1 with ⟨_ | sets, link'⟩ <;>
      simp [Link.recorded, hserver, orRefused]

/-- Asking for the number of rows is one request. -/
theorem link_rowCount (server : Link σ) (link : σ × List Request) :
    (server.recorded.rowCount link).2.2 = link.2 ++ [.batch Link.rowCountSql] := by
  rcases hserver : server.batch Link.rowCountSql link.1 with ⟨_ | sets, link'⟩ <;>
    simp [Link.rowCount, Link.scalar, Link.recorded, hserver, orRefused]

/-- A run sends the parameters, whatever comes of it, and asks for the number of rows at most. -/
theorem sent_run_of_prepared {sql : String} (h : s.requirePrepared = .ok sql) (server : Link σ)
    (link : σ × List Request) :
    ∃ rest, (s.run server.recorded link).2.2.2 = link.2 ++ .running sql s.params :: rest ∧
      (rest = [] ∨ rest = [.batch Link.rowCountSql]) := by
  have hsend := link_send server sql s.params link
  rw [run, h]
  dsimp only
  rw [Statement.perform]
  revert hsend
  rcases server.recorded.send sql s.params link with ⟨e | sets, link'⟩ <;> intro hsend
  · exact ⟨[], hsend, .inl rfl⟩
  · dsimp only at hsend ⊢
    split
    · exact ⟨[], hsend, .inl rfl⟩
    · have hcount := link_rowCount server link'
      refine ⟨[.batch Link.rowCountSql], ?_, .inr rfl⟩
      rw [hsend, List.append_assoc, List.singleton_append] at hcount
      rw [← hcount]
      rcases server.recorded.rowCount link' with ⟨e | affected, link''⟩ <;> rfl

end Statement

end PortableSql.SqlServer
