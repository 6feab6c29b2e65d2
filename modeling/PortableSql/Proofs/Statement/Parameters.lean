import PortableSql.Proofs.Statement.Binding
import PortableSql.Proofs.Statement.Browsing

/-!
# The parameters of a text

Only a new text and a binding touch the parameters of a statement. Where a text gives every identifier
one slot, the parameters are at any time the cells of the values that were bound last, whatever has
succeeded and failed in between.

## Main definitions

* `Browsing.KeepsText` — calls on a text leave it, and its parameters unless they bind.
* `Browsing.SlotText` — a text of which every identifier has one slot.
* `Browsing.SlotText.Working` — the parameters are what was bound last.

## Main statement

* `Browsing.SlotText.Working.history` — this holds behind every history on the text.
-/
namespace PortableSql

theorem StatementState.ne_undefined_of_checkPrepared {state : StatementState}
    (h : state.checkPrepared = .ok ()) : state ≠ .undefined := by
  rintro rfl
  cases h

namespace Browsing

/-! ## What does not touch the parameters -/

section

variable {σ S R C P T : Type} {api : StatementInterface σ S} {b : Browsing api R C P}
  {text : S → T} {s t : S} {call : StatementCall}

/-- The statement works on the same text with the same parameters. -/
structure SameText (b : Browsing api R C P) (text : S → T) (s t : S) : Prop where
  text : text t = text s
  params : (b.parts t).params = (b.parts s).params
  begun : api.state s ≠ .undefined → api.state t ≠ .undefined

theorem SameText.refl (s : S) : b.SameText text s s := ⟨rfl, rfl, id⟩

theorem SameText.trans {u : S} (hst : b.SameText text s t) (htu : b.SameText text t u) :
    b.SameText text s u :=
  ⟨htu.text.trans hst.text, htu.params.trans hst.params, fun h => htu.begun (hst.begun h)⟩

/-- What the text is can be seen from the frame of a statement, and a run leaves it. -/
structure KeepsText (b : Browsing api R C P) (text : S → T) : Prop where
  frame : ∀ s, text (b.parts s).frame = text s
  run : ∀ s link, b.SameText text s (api.run s link).2.1

theorem Browsed.sameText (h : b.Browsed call s t) (htext : b.KeepsText text)
    (hcall : ∀ param value?, call ≠ .setValue param value?) : b.SameText text s t where
  text := by rw [← htext.frame t, h.frame, htext.frame]
  params := h.params hcall
  begun := by
    rw [b.state_eq, b.state_eq, h.cursor]
    split
    · exact Cursor.state_fetch_ne_undefined
    · exact id

/-- **A call on a text leaves it and its parameters**, unless it binds. -/
theorem KeepsText.perform (h : b.KeepsText text) (hcall : call.keepsText = true)
    (hset : ∀ param value?, call ≠ .setValue param value?) (s : S) (link : σ) :
    b.SameText text s (api.perform call s link).2.1 := by
  by_cases hrows : call.keepsRows = true
  · exact (b.browsed_perform hrows s link).sameText h hset
  · cases call with
    | prepare sql native => cases hcall
    | execute sql => cases hcall
    | run => exact h.run s link
    | _ => exact absurd rfl hrows

theorem KeepsText.text_withParams (h : b.KeepsText text) (s : S) (params : P) :
    text (b.withParams s params) = text s := by
  rw [← h.frame, b.parts_withParams, h.frame]

theorem state_withParams (s : S) (params : P) : api.state (b.withParams s params) = api.state s := by
  rw [b.state_eq, b.parts_withParams, b.state_eq]

end

/-! ## Texts with slots -/

variable {σ S R Q C T : Type} {api : StatementInterface σ S}

/-- A text with a slot for each identifier, and what stands in the slots of a statement that works on
it. -/
structure SlotText (b : Browsing api R Q (List C)) (T : Type) where
  text : S → T
  own : T
  holder : Placeholders
  /-- Number of parameters. -/
  count : Nat
  /-- The cell of a value or of NULL in a slot. -/
  cell : Nat → Option Value → Result C
  keeps : b.KeepsText text
  oneSlotEach : holder.OneSlotEach
  setValue_eq : ∀ s param value?, text s = own → api.state s ≠ .undefined →
    ∃ bind, PutsCell cell value? bind ∧ api.setValue param value? s =
      (holder.bindOwned bind param (b.parts s).params).map id (b.withParams s)

namespace SlotText

variable {b : Browsing api R Q (List C)} (w : b.SlotText T)

/-- The statement works on the text, and its parameters are what was bound last. -/
structure Working (past : List StatementEvent) (s : S) : Prop where
  text : w.text s = w.own
  begun : api.state s ≠ .undefined
  length : (b.parts s).params.length = w.count
  holds : HoldsBindings w.cell w.holder.slots (b.parts s).params past

namespace Working

variable {w} {past : List StatementEvent} {s t : S} {call : StatementCall}

/-- A call that leaves the parameters as they are and binds nothing. -/
theorem concat_of_sameText (h : w.Working past s) (hst : b.SameText w.text s t)
    {event : StatementEvent} (hevent : ∀ slot, event.binding? w.holder.slots slot = none) :
    w.Working (past ++ [event]) t where
  text := hst.text.trans h.text
  begun := hst.begun h.begun
  length := by rw [hst.params, h.length]
  holds := by
    rw [hst.params]
    exact h.holds.concat_of_none hevent

/-- **A value is bound whole or not at all.** -/
theorem setValue_cases (h : w.Working past s) (param : Identifier) (value? : Option Value) :
    (∃ e, api.setValue param value? s = (.error e, s)) ∨
      ∃ params, api.setValue param value? s = (.ok (), b.withParams s params) ∧
        w.Working (past ++ [⟨.setValue param value?, .done (.ok ())⟩]) (b.withParams s params) := by
  obtain ⟨bind, hputs, hset⟩ := w.setValue_eq s param value? h.text h.begun
  rw [hset]
  obtain ⟨e, hbound⟩ | ⟨owned, own, c, params, howned, hne, hall, hcell, hput, hbound⟩ :=
    w.oneSlotEach.bindOwned_cases hputs param (b.parts s).params
  · rw [hbound]
    exact .inl ⟨e, by rw [Prod.map_apply, b.withParams_params]; rfl⟩
  · rw [hbound]
    refine .inr ⟨params, rfl, ?_, ?_, ?_, ?_⟩
    · rw [w.keeps.text_withParams, h.text]
    · rw [state_withParams]
      exact h.begun
    · rw [b.parts_withParams]
      exact (OneBased.length_of_set? hput).trans h.length
    · rw [b.parts_withParams]
      exact h.holds.concat_of_set? howned hne hall hcell hput

/-- A binding that fails changes nothing. -/
theorem setValue_of_error (h : w.Working past s) {param : Identifier} {value? : Option Value}
    {e : Error} (herror : (api.setValue param value? s).1 = .error e) :
    (api.setValue param value? s).2 = s := by
  obtain ⟨e', hset⟩ | ⟨params, hset, -⟩ := h.setValue_cases param value?
  · rw [hset]
  · rw [hset] at herror
    cases herror

/-- **Every call but a new text keeps the statement working**, with what it binds bound last. -/
theorem perform (h : w.Working past s) (hcall : call.keepsText = true) (link : σ) :
    w.Working (past ++ [⟨call, (api.perform call s link).1⟩]) (api.perform call s link).2.1 := by
  cases call with
  | setValue param value? =>
    obtain ⟨e, hset⟩ | ⟨params, hset, hworking⟩ := h.setValue_cases param value?
    · rw [api.perform_setValue hset link]
      exact h.concat_of_sameText (.refl s) fun _ => rfl
    · rw [api.perform_setValue hset link]
      exact hworking
  | _ => exact h.concat_of_sameText (w.keeps.perform hcall nofun s link) fun _ => rfl

/-- **What calls bind, they bind last**, whatever succeeds and fails among them. -/
theorem history (h : w.Working [] s) (link : σ) {calls : List StatementCall}
    (hcalls : ∀ call ∈ calls, call.keepsText = true) :
    w.Working (api.history calls s link).1 (api.history calls s link).2.1 :=
  api.history_invariant (P := fun past s _ => w.Working past s)
    (fun _ _ link _ hcall h => h.perform hcall link) calls hcalls [] s link h

/-- Every parameter is the cell of what was bound to its slot last. -/
theorem exists_cell (h : w.Working past s) {slot : Nat} (hpos : 1 ≤ slot) (hle : slot ≤ w.count) :
    ∃ c, OneBased.get? (b.parts s).params slot = some c ∧
      w.cell slot (lastBinding w.holder.slots slot past) = .ok c := by
  obtain ⟨n, rfl⟩ := Nat.exists_eq_add_of_le' hpos
  have hlt : n < (b.parts s).params.length := by
    rw [h.length]
    exact hle
  have hcell : OneBased.get? (b.parts s).params (n + 1) = some (b.parts s).params[n] :=
    List.getElem?_eq_getElem hlt
  exact ⟨_, hcell, h.holds (n + 1) _ hcell⟩

end Working

end SlotText

end Browsing

end PortableSql
