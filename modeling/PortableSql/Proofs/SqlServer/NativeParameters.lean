import PortableSql.Proofs.SqlServer.Parameters

/-!
# Native parameters on SQL Server

A text with native parameters is copied with its placeholders, and gives out no slots. A statement makes
room for as many parameters as there are slots. So it has none for the placeholders of such a text: no
value can be bound to any of them, and the text is sent without parameters.
-/
namespace PortableSql.SqlServer

/-- The text has the placeholders of the slots from one to `count`, outside of literals and comments. -/
def HasPlaceholders (sql : String) (count : Nat) : Prop :=
  ∀ slot, 1 ≤ slot → slot ≤ count →
    .name (String.ofList (placeholder slot)) ∈ parameters (pieces sql.toList)

/-- Values with a form on the server are bound to native placeholders by their positions, and sent. -/
def AddressableByPosition {σ : Type} (server : Link σ) : Prop :=
  ∀ (sql : String) (count : Nat), HasPlaceholders sql count →
    ∀ (position : Nat) (value : Value) (cell : Cell), 1 ≤ position → position ≤ count →
      encode value = .ok cell →
        ∀ (s : Statement) (link : σ × List Request),
          let bound := (s.prepare sql true).setValue (.position position) (some value)
          bound.1 = .ok () ∧
            ∃ params rest, (bound.2.run server.recorded link).2.2.2 =
                link.2 ++ .query (renderSql dialect ⟨true, true⟩ sql).sql params :: rest ∧
              OneBased.get? params position = some cell

/-- Without room for parameters no slot is found. -/
theorem put_nil (slot : Nat) (cell : Cell) :
    Cells.put [] slot cell = .error (.parameterNotFound (Text.Decimal.ofNat slot)) := by
  have hnone : OneBased.set? ([] : Cells) slot cell = none := by
    cases slot with
    | zero => rfl
    | succ n => simp [OneBased.set?]
  rw [Cells.put, hnone]

theorem bind_nil (slot : Nat) (value? : Option Value) :
    ∃ e, Cells.bind [] slot value? = .error e ∧
      ∀ cell, cellOf value? = .ok cell → e = .parameterNotFound (Text.Decimal.ofNat slot) := by
  cases value? with
  | none => exact ⟨_, put_nil slot .unbound, fun _ _ => rfl⟩
  | some value =>
    simp only [Cells.bind, cellOf]
    cases encode value with
    | error e =>
      refine ⟨e, rfl, fun cell hcell => ?_⟩
      cases hcell
    | ok cell => exact ⟨_, put_nil slot cell, fun _ _ => rfl⟩

namespace Statement

variable {σ : Type} {sql : String} {s t : Statement}

/-- The statement works on a prepared text with native parameters, and has none. -/
structure Unbindable (sql : String) (s : Statement) : Prop where
  sql? : s.sql? = some sql
  passThrough : s.placeholders.passThrough = true
  begun : s.state ≠ .undefined
  params : s.params = []

namespace Unbindable

theorem requirePrepared (h : Unbindable sql s) : s.requirePrepared = .ok sql :=
  requirePrepared_eq_ok h.begun h.sql?

theorem of_sameText {server : Link σ} (h : Unbindable sql s)
    (hst : (browsing server).SameText text s t) : Unbindable sql t where
  sql? := (congrArg Prod.fst hst.text).trans h.sql?
  passThrough := by
    have hsame : t.placeholders = s.placeholders := congrArg Prod.snd hst.text
    rw [hsame, h.passThrough]
  begun := hst.begun h.begun
  params := hst.params.trans h.params

/-- **Nothing can be bound.** A value that the server has a form for is refused because the parameter is
not found. -/
theorem setValue (h : Unbindable sql s) (param : Identifier) (value? : Option Value) :
    ∃ e, s.setValue param value? = (.error e, s) ∧
      ∀ cell, cellOf value? = .ok cell → e = .parameterNotFound param.text := by
  rw [Statement.setValue, h.requirePrepared]
  cases param with
  | name name =>
    have hslots : s.placeholders.slotsOf (.name name) = .error (.parameterNotFound name) := by
      simp [Placeholders.slotsOf, h.passThrough, Identifier.text]
    refine ⟨.parameterNotFound name, ?_, fun _ _ => rfl⟩
    simp [bind, Except.bind, hslots]
  | position n =>
    have hslots : s.placeholders.slotsOf (.position n) = .ok [n] := by
      simp [Placeholders.slotsOf, h.passThrough]
    obtain ⟨e, hbind, he⟩ := bind_nil n value?
    refine ⟨e, ?_, he⟩
    simp [bind, Except.bind, hslots, bindSlots, h.params, hbind]

/-- **Every call but a new text leaves it so.** -/
theorem perform (server : Link σ) (link : σ) (call : StatementCall) (hcall : call.keepsText = true)
    (h : Unbindable sql s) : Unbindable sql ((statements server).perform call s link).2.1 := by
  cases call with
  | setValue param value? =>
    obtain ⟨e, hset, -⟩ := h.setValue param value?
    rw [(statements server).perform_setValue hset link]
    exact h
  | _ => exact h.of_sameText ((keepsText server).perform hcall nofun s link)

theorem history (server : Link σ) (link : σ) {calls : List StatementCall}
    (hcalls : ∀ call ∈ calls, call.keepsText = true) (h : Unbindable sql s) :
    Unbindable sql ((statements server).history calls s link).2.1 :=
  StatementInterface.history_invariant (statements server) (P := fun _ s _ => Unbindable sql s)
    (fun _ _ link call hcall h => h.perform server link call hcall) calls hcalls [] s link h

end Unbindable

/-- Preparing a text with native parameters makes room for none of them. -/
theorem unbindable_prepare (sql : String) (s : Statement) :
    Unbindable (renderSql dialect ⟨true, true⟩ sql).sql (s.prepare sql true) where
  sql? := rfl
  passThrough := rfl
  begun := StatementState.ne_undefined_of_checkPrepared rfl
  params := by
    have hslots : (s.prepare sql true).params =
        .ofLength (renderSql dialect ⟨true, true⟩ sql).slots.nativeCount := rfl
    rw [hslots, slots_renderSql_native]
    rfl

/-- **Native parameters of SQL Server cannot be bound.** Whatever is called after a text was prepared with
native parameters, a value is refused under every position and every name, and the next run sends the
text by itself. -/
theorem native_parameters_unbindable (server : Link σ) (sql : String) (s : Statement)
    (link : σ × List Request) {calls : List StatementCall}
    (hcalls : ∀ call ∈ calls, call.keepsText = true) :
    let reached := (statements server.recorded).history calls (s.prepare sql true) link
    (∀ param value?, ∃ e, reached.2.1.setValue param value? = (.error e, reached.2.1) ∧
      ∀ cell, cellOf value? = .ok cell → e = .parameterNotFound param.text) ∧
    ∃ rest, (reached.2.1.run server.recorded reached.2.2).2.2.2 =
        reached.2.2.2 ++ .batch (renderSql dialect ⟨true, true⟩ sql).sql :: rest ∧
      (rest = [] ∨ rest = [.batch Link.rowCountSql]) := by
  intro reached
  have h : Unbindable (renderSql dialect ⟨true, true⟩ sql).sql reached.2.1 :=
    (unbindable_prepare sql s).history server.recorded link hcalls
  refine ⟨h.setValue, ?_⟩
  have hsent := sent_run_of_prepared h.requirePrepared server reached.2.2
  rw [h.params] at hsent
  exact hsent

theorem native_parameters_unbindable_by_position :
    let api := statements Script.link.recorded
    let server := Script.new [] false false false
    let calls : List StatementCall := [.setValue (.position 1) (some (.int32 7)), .run]
    let reached := api.history calls (new.prepare "select @P1" true) (server, [])
    (∀ call ∈ calls, call.keepsText = true) ∧
      reached.2.1.setValue (.position 1) (some (.int32 7)) =
        (.error (.parameterNotFound "1"), reached.2.1) ∧
      ∃ rest, (reached.2.1.run Script.link.recorded reached.2.2).2.2.2 =
        reached.2.2.2 ++ .batch "select @P1" :: rest := by
  intro api server calls reached
  have hcalls : ∀ call ∈ calls, call.keepsText = true := by decide
  have hcell : cellOf (some (.int32 7)) = .ok (.value (.int 7)) := rfl
  have hshown : (Identifier.position 1).text = "1" := by decide +kernel
  have hsql : (renderSql dialect ⟨true, true⟩ "select @P1").sql = "select @P1" := by decide +kernel
  obtain ⟨hset, rest, hsent, -⟩ :=
    native_parameters_unbindable Script.link "select @P1" new (server, []) hcalls
  obtain ⟨e, hrefused, he⟩ := hset (.position 1) (some (.int32 7))
  rw [he _ hcell, hshown] at hrefused
  rw [hsql] at hsent
  exact ⟨hcalls, hrefused, rest, hsent⟩

/-- The placeholder of this text cannot be bound by its position. -/
theorem not_addressable_by_position : ¬AddressableByPosition Script.link := by
  intro h
  have hplaceholders : HasPlaceholders "select @P1" 1 := by
    intro slot hpos hle
    obtain rfl : slot = 1 := by omega
    have hparameters : parameters (pieces "select @P1".toList) = [.name "@P1"] := by decide +kernel
    have hname : String.ofList (placeholder 1) = "@P1" := by decide +kernel
    rw [hparameters, hname, List.mem_singleton]
  have hbound := h "select @P1" 1 hplaceholders 1 (.int32 7) _ (by decide) (by decide) rfl new
    (Script.new [] false false false, [])
  obtain ⟨e, hset, -⟩ := (unbindable_prepare "select @P1" new).setValue (.position 1) (some (.int32 7))
  have hok := hbound.1
  rw [hset] at hok
  cases hok

end Statement

end PortableSql.SqlServer
