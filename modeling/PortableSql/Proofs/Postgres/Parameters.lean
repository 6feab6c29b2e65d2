import PortableSql.Postgres.Script
import PortableSql.Proofs.Postgres.Rows
import PortableSql.Proofs.Statement.Parameters

/-!
# Parameters of a PostgreSQL statement

From a successful preparation on, a statement keeps the text, its slots and the types that the server
reported, and its parameters are the cells of the values bound last. Binding changes a parameter
only if it succeeds.
-/
namespace PortableSql.Postgres

/-- The cell in which a value is sent as a parameter of a declared type. -/
def cellOf (target : ValueType) (value? : Option Value) : Result (Option Bytes) :=
  match value? with
  | none => .ok none
  | some value => (encode target value).map some

/-- The cell in which a value is sent in a slot, if there is that slot. -/
def cellIn (types : List ValueType) (slot : Nat) (value? : Option Value) : Result (Option Bytes) :=
  match OneBased.get? types slot with
  | some target => cellOf target value?
  | none => .error (.parameterNotFound (Text.Decimal.ofNat slot))

/-- The server with a record of what it is asked. -/
def Link.recorded {σ : Type} (server : Link σ) : Link (σ × List Request) where
  batch sql link :=
    let (answer, s) := server.batch sql link.1
    (answer, s, link.2 ++ [.batch sql])
  prepare sql link :=
    let (answer, s) := server.prepare sql link.1
    (answer, s, link.2 ++ [.prepare sql])
  run prepared params link :=
    let (answer, s) := server.run prepared params link.1
    (answer, s, link.2 ++ [.execute prepared.sql params])
  startCopy prepared link :=
    let (answer, s) := server.startCopy prepared link.1
    (answer, s, link.2 ++ [.execute prepared.sql []])
  finishCopy prepared payload link :=
    let (answer, s) := server.finishCopy prepared payload link.1
    (answer, s, link.2 ++ [.copy prepared.sql payload])

namespace Statement

variable {σ : Type} {server : Link σ} {s t : Statement} {link : σ}

/-! ## The text and its parameters -/

/-- What a statement works on: what the server prepared, the slots, and the types of the parameters. -/
def text (s : Statement) : Option Prepared × Placeholders × List ValueType :=
  (s.prepared?, s.placeholders, s.paramTypes)

theorem sameText_perform (server : Link σ) (prepared : Prepared) (s : Statement) (link : σ) :
    (browsing server).SameText text s (s.perform server prepared link).2.1 := by
  rw [Statement.perform]
  rcases server.run prepared s.params link with ⟨_ | completed, link'⟩
  · exact .refl s
  · simp only [accept]
    split <;> exact ⟨rfl, rfl, fun _ => StatementState.ne_undefined_of_checkPrepared rfl⟩

theorem keepsText (server : Link σ) : (browsing server).KeepsText text where
  frame _ := rfl
  run s link := by
    change (browsing server).SameText text s (s.run server link).2.1
    rw [run]
    cases s.requirePrepared with
    | error e => exact .refl s
    | ok prepared =>
      have hdiscard : (browsing server).SameText text s { s.discardRows with columns := .empty } :=
        ⟨rfl, rfl, id⟩
      exact hdiscard.trans (sameText_perform server prepared _ link)

theorem put_eq_ok_iff {cells cells' : Cells} {slot : Nat} {cell : Option Bytes} :
    cells.put slot cell = .ok cells' ↔ OneBased.set? cells slot cell = some cells' := by
  rw [Cells.put]
  cases OneBased.set? cells slot cell <;> simp

theorem bindSlot_putsCell (types : List ValueType) (param : Identifier) (value? : Option Value) :
    PutsCell (cellIn types) value? (bindSlot types param value?) := by
  intro slot params params'
  rw [bindSlot, cellIn]
  cases OneBased.get? types slot with
  | none => simp [bind, Except.bind]
  | some target =>
    cases value? with
    | none => simp [bind, Except.bind, Cells.bind, cellOf, put_eq_ok_iff]
    | some value =>
      cases hencode : encode target value with
      | error e => simp [bind, Except.bind, Cells.bind, cellOf, hencode, Except.map]
      | ok bytes => simp [bind, Except.bind, Cells.bind, cellOf, hencode, Except.map, put_eq_ok_iff]

theorem requirePrepared_eq_ok {prepared : Prepared} (hbegun : s.state ≠ .undefined)
    (hprepared : s.prepared? = some prepared) : s.requirePrepared = .ok prepared := by
  rw [requirePrepared, StatementState.checkPrepared_of_ne hbegun, hprepared]
  rfl

/-- A portable text that the server has prepared. -/
def slotText (server : Link σ) (sql : String) (prepared : Prepared) :
    (browsing server).SlotText (Option Prepared × Placeholders × List ValueType) where
  text := text
  own := (some prepared, (Placeholders.prepare dialect false true sql).1,
    prepared.params.map typeOfOid)
  holder := (Placeholders.prepare dialect false true sql).1
  count := prepared.params.length
  cell := cellIn (prepared.params.map typeOfOid)
  keeps := keepsText server
  oneSlotEach := Placeholders.oneSlotEach_prepare dialect sql
  setValue_eq s param value? htext hbegun := by
    obtain ⟨hprepared, hholder, htypes⟩ : s.prepared? = some prepared ∧
        s.placeholders = (Placeholders.prepare dialect false true sql).1 ∧
          s.paramTypes = prepared.params.map typeOfOid := by simpa [text] using htext
    refine ⟨_, bindSlot_putsCell (prepared.params.map typeOfOid) param value?, ?_⟩
    change s.setValue param value? = _
    rw [setValue_eq, requirePrepared_eq_ok hbegun hprepared, hholder, htypes]
    rfl

/-- **A successful preparation binds NULL to every parameter.** -/
theorem exists_working_of_prepare {sql : String} {old : Statement} {link' : σ}
    (h : old.prepare server sql false link = (.ok (), s, link')) :
    ∃ prepared, (server.prepare (renderSql dialect ⟨false, true⟩ sql).sql link).1 = some prepared ∧
      (slotText server sql prepared).Working [] s := by
  obtain ⟨fresh, text, hforget⟩ : ∃ fresh text, old.forget sql false = (fresh, text) := ⟨_, _, rfl⟩
  have htext : (renderSql dialect ⟨false, true⟩ sql).sql = text := congrArg Prod.snd hforget
  rw [prepare, compile, hforget] at h
  dsimp only at h
  rw [htext]
  rcases hserver : server.prepare text link with ⟨_ | prepared, link₁⟩
  · rw [hserver] at h
    cases h
  · rw [hserver] at h
    cases h
    cases hforget
    refine ⟨prepared, rfl, rfl, StatementState.ne_undefined_of_checkPrepared rfl,
      List.length_replicate, holdsBindings_replicate ?_⟩
    intro slot hpos hle
    obtain ⟨n, rfl⟩ := Nat.exists_eq_add_of_le' hpos
    have htype : OneBased.get? (prepared.params.map typeOfOid) (n + 1) =
        some (typeOfOid prepared.params[n]) := by simp [Nat.lt_of_succ_le hle]
    change cellIn _ (n + 1) none = .ok none
    rw [cellIn, htype]
    rfl

/-- An execution asks the server once. -/
theorem link_perform (prepared : Prepared) (s : Statement) (link : σ) :
    (s.perform server prepared link).2.2 = (server.run prepared s.params link).2 := by
  rw [Statement.perform]
  rcases server.run prepared s.params link with ⟨_ | completed, link'⟩ <;> rfl

variable {sql : String} {prepared : Prepared} {past : List StatementEvent}

/-- A run sends the parameters, whatever comes of it. -/
theorem sent_run_of_working (h : (slotText server.recorded sql prepared).Working past s)
    (link : σ × List Request) :
    (s.run server.recorded link).2.2.2 = link.2 ++ [.execute prepared.sql s.params] := by
  rw [run, requirePrepared_eq_ok h.begun (congrArg Prod.fst h.text)]
  dsimp only
  rw [link_perform]
  rfl

/-- Every parameter is the cell of what was bound to its slot last, in the type reported for it. -/
theorem exists_cell_of_working (h : (slotText server sql prepared).Working past s) {slot oid : Nat}
    (hoid : OneBased.get? prepared.params slot = some oid) :
    ∃ cell, OneBased.get? s.params slot = some cell ∧
      cellOf (typeOfOid oid)
        (lastBinding (renderSql dialect ⟨false, true⟩ sql).slots slot past) = .ok cell := by
  have hslot : 1 ≤ slot ∧ slot ≤ prepared.params.length := by
    cases slot with
    | zero => cases hoid
    | succ n => exact ⟨Nat.le_add_left 1 n, (List.getElem?_eq_some_iff.1 hoid).1⟩
  obtain ⟨cell, hcell, hbound⟩ := h.exists_cell hslot.1 hslot.2
  have htype : OneBased.get? (prepared.params.map typeOfOid) slot = some (typeOfOid oid) := by
    rw [OneBased.get?_map, hoid]
    rfl
  change cellIn _ slot _ = .ok cell at hbound
  rw [cellIn, htype] at hbound
  exact ⟨cell, hcell, hbound⟩

end Statement

end PortableSql.Postgres
