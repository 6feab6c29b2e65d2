import PortableSql.OneBased
import PortableSql.Proofs.Sql.SlotNumbers
import PortableSql.Proofs.Statement.History
import PortableSql.Sql.Placeholders

/-!
# The values bound to slots

The parameters of a statement are cells in slots, and a value is bound to an identifier by putting
its cell into every slot of the identifier. If the slots of an identifier are one and the same, this
happens whole or not at all, and every parameter is the cell of what was bound to its slot last.
-/
namespace PortableSql

/-- What an event binds to a slot: a value or NULL, if a call succeeded that binds it to an
identifier with that slot. -/
def StatementEvent.binding? (slots : SlotMap) (slot : Nat) (event : StatementEvent) :
    Option (Option Value) :=
  match event.call, event.answer with
  | .setValue param value?, .done (.ok _) =>
    if slot ∈ (slots.get? param).getD [] then some value? else none
  | _, _ => none

theorem StatementEvent.binding?_setValue {slots : SlotMap} {param : Identifier} {owned : List Nat}
    (h : slots.get? param = some owned) (slot : Nat) (value? : Option Value) :
    StatementEvent.binding? slots slot ⟨.setValue param value?, .done (.ok ())⟩ =
      if slot ∈ owned then some value? else none := by
  simp only [StatementEvent.binding?, h, Option.getD_some]

/-- The value bound to a slot last; NULL if it is NULL or there is none. -/
def lastBinding (slots : SlotMap) (slot : Nat) (events : List StatementEvent) : Option Value :=
  (events.reverse.findSome? (·.binding? slots slot)).join

theorem lastBinding_nil (slots : SlotMap) (slot : Nat) : lastBinding slots slot [] = none := rfl

theorem lastBinding_concat (slots : SlotMap) (slot : Nat) (past : List StatementEvent)
    (event : StatementEvent) :
    lastBinding slots slot (past ++ [event]) =
      (event.binding? slots slot).getD (lastBinding slots slot past) := by
  rw [lastBinding, List.reverse_append, List.reverse_singleton, List.singleton_append,
    List.findSome?_cons]
  cases event.binding? slots slot <;> rfl

/-- Every identifier has one slot of its own, which it may occupy several times. -/
structure Placeholders.OneSlotEach (p : Placeholders) : Prop where
  portable : p.passThrough = false
  own : ∀ id owned, p.slots.get? id = some owned →
    owned ≠ [] ∧ ∃ own, ∀ slot ∈ owned, slot = own

/-- **Coalescing leaves every identifier one slot.** -/
theorem Placeholders.oneSlotEach_prepare (dialect : Dialect) (sql : String) :
    (Placeholders.prepare dialect false true sql).1.OneSlotEach where
  portable := rfl
  own id owned h := by
    change (renderSql dialect ⟨false, true⟩ sql).slots.get? id = some owned at h
    rw [slots_renderSql] at h
    obtain ⟨own, -, -, hne, hall⟩ := SlotMap.exists_slot_of_get?_coalescing _ h
    exact ⟨hne, own, hall⟩

theorem Placeholders.OneSlotEach.slotsOf_of_get? {p : Placeholders} (h : p.OneSlotEach)
    {id : Identifier} {owned : List Nat} (howned : p.slots.get? id = some owned) :
    p.slotsOf id = .ok owned := by
  unfold slotsOf
  rw [h.portable, howned]
  rfl

theorem Placeholders.OneSlotEach.slotsOf_of_get?_eq_none {p : Placeholders} (h : p.OneSlotEach)
    {id : Identifier} (hnone : p.slots.get? id = none) :
    p.slotsOf id = .error (.parameterNotFound id.text) := by
  unfold slotsOf
  rw [h.portable, hnone]
  rfl

/-- Binds to slots one after another; what was done before a failure stays. -/
def bindAll {C : Type} (bind : Nat → List C → Result (List C)) :
    List Nat → List C → Result Unit × List C
  | [], params => (.ok (), params)
  | slot :: rest, params =>
    match bind slot params with
    | .error e => (.error e, params)
    | .ok params => bindAll bind rest params

/-- A recursion over slots that stops at the first failure is `bindAll`, whatever the parameters are
kept in. -/
theorem eq_bindAll {S C : Type} {bind : Nat → List C → Result (List C)} (store : List C → S)
    (bindSlots : List C → List Nat → Result Unit × S)
    (nil : ∀ params, bindSlots params [] = (.ok (), store params))
    (cons : ∀ params slot rest, bindSlots params (slot :: rest) =
      match bind slot params with
      | .error e => (.error e, store params)
      | .ok params => bindSlots params rest)
    (slots : List Nat) (params : List C) :
    bindSlots params slots = (bindAll bind slots params).map id store := by
  induction slots generalizing params with
  | nil => exact nil params
  | cons slot rest ih =>
    rw [cons, bindAll]
    cases bind slot params with
    | error e => rfl
    | ok params => exact ih params

/-- Binds to every slot of an identifier. -/
def Placeholders.bindOwned {C : Type} (p : Placeholders) (bind : Nat → List C → Result (List C))
    (param : Identifier) (params : List C) : Result Unit × List C :=
  match p.slotsOf param with
  | .error e => (.error e, params)
  | .ok slots => bindAll bind slots params

theorem Placeholders.eq_bindOwned {S C : Type} (p : Placeholders)
    {bind : Nat → List C → Result (List C)} (store : List C → S) {params : List C}
    {bindSlots : List Nat → Result Unit × S}
    (h : ∀ slots, bindSlots slots = (bindAll bind slots params).map id store) (param : Identifier) :
    (match p.slotsOf param with
      | .error e => (.error e, store params)
      | .ok slots => bindSlots slots) = (p.bindOwned bind param params).map id store := by
  rw [bindOwned]
  cases p.slotsOf param with
  | error e => rfl
  | ok slots => exact h slots

section Cells

variable {C : Type} (cell : Nat → Option Value → Result C)

/-- Every parameter is the cell of what was bound to its slot last. -/
def HoldsBindings (slots : SlotMap) (params : List C) (events : List StatementEvent) : Prop :=
  ∀ slot c, OneBased.get? params slot = some c → cell slot (lastBinding slots slot events) = .ok c

/-- Binding puts the cell of the value, if it has one, into the slot, if there is that slot. -/
def PutsCell (value? : Option Value) (bind : Nat → List C → Result (List C)) : Prop :=
  ∀ slot params params', bind slot params = .ok params' ↔
    ∃ c, cell slot value? = .ok c ∧ OneBased.set? params slot c = some params'

variable {cell} {slots : SlotMap} {params : List C} {past : List StatementEvent}
variable {value? : Option Value} {bind : Nat → List C → Result (List C)} {owned : List Nat}
variable {own : Nat}

/-- **Binding to one slot several times is binding to it once**: whole or not at all. -/
theorem bindAll_of_forall_eq (hputs : PutsCell cell value? bind) (hne : owned ≠ [])
    (hall : ∀ slot ∈ owned, slot = own) (params : List C) :
    bindAll bind owned params =
      match bind own params with
      | .error e => (.error e, params)
      | .ok params' => (.ok (), params') := by
  induction owned generalizing params with
  | nil => exact absurd rfl hne
  | cons slot rest ih =>
    obtain rfl : slot = own := hall slot (by simp)
    rw [bindAll]
    cases hbind : bind slot params with
    | error e => rfl
    | ok params' =>
      -- the same cell again finds itself in its place
      have hagain : bind slot params' = .ok params' := by
        obtain ⟨c, hcell, hset⟩ := (hputs slot params params').1 hbind
        exact (hputs slot params' params').2 ⟨c, hcell, OneBased.set?_again hset⟩
      dsimp only
      by_cases hrest : rest = []
      · rw [hrest, bindAll]
      · rw [ih hrest (fun other hother => hall other (by simp [hother])), hagain]

/-- **A value is bound whole or not at all**, if every identifier has one slot. -/
theorem Placeholders.OneSlotEach.bindOwned_cases {p : Placeholders} (h : p.OneSlotEach)
    (hputs : PutsCell cell value? bind) (param : Identifier) (params : List C) :
    (∃ e, p.bindOwned bind param params = (.error e, params)) ∨
      ∃ owned own c params', p.slots.get? param = some owned ∧ owned ≠ [] ∧
        (∀ slot ∈ owned, slot = own) ∧ cell own value? = .ok c ∧
        OneBased.set? params own c = some params' ∧
        p.bindOwned bind param params = (.ok (), params') := by
  rw [bindOwned]
  cases howned : p.slots.get? param with
  | none =>
    rw [h.slotsOf_of_get?_eq_none howned]
    exact .inl ⟨_, rfl⟩
  | some owned =>
    obtain ⟨hne, own, hall⟩ := h.own param owned howned
    rw [h.slotsOf_of_get? howned]
    dsimp only
    rw [bindAll_of_forall_eq hputs hne hall]
    cases hbind : bind own params with
    | error e => exact .inl ⟨e, rfl⟩
    | ok params' =>
      obtain ⟨c, hcell, hset⟩ := (hputs own params params').1 hbind
      exact .inr ⟨owned, own, c, params', rfl, hne, hall, hcell, hset, rfl⟩

/-- Before anything is bound all parameters are NULL. -/
theorem holdsBindings_replicate {null : C} {count : Nat}
    (hnull : ∀ slot, 1 ≤ slot → slot ≤ count → cell slot none = .ok null) :
    HoldsBindings cell slots (List.replicate count null) [] := by
  intro slot c hc
  cases slot with
  | zero => cases hc
  | succ n =>
    rw [OneBased.get?_succ, List.getElem?_replicate, Option.ite_none_right_eq_some,
      Option.some_inj] at hc
    rw [lastBinding_nil, hnull (n + 1) (Nat.le_add_left 1 n) hc.1, hc.2]

/-- An event that binds nothing changes no binding. -/
theorem HoldsBindings.concat_of_none (h : HoldsBindings cell slots params past)
    {event : StatementEvent} (hevent : ∀ slot, event.binding? slots slot = none) :
    HoldsBindings cell slots params (past ++ [event]) := by
  intro slot c hc
  rw [lastBinding_concat, hevent slot]
  exact h slot c hc

/-- A value that has been put into the slot of an identifier is the last one bound to it. -/
theorem HoldsBindings.concat_of_set? {param : Identifier} {params' : List C} {c : C}
    (h : HoldsBindings cell slots params past) (howned : slots.get? param = some owned)
    (hne : owned ≠ []) (hall : ∀ slot ∈ owned, slot = own) (hcell : cell own value? = .ok c)
    (hset : OneBased.set? params own c = some params') :
    HoldsBindings cell slots params'
      (past ++ [⟨.setValue param value?, .done (.ok ())⟩]) := by
  intro slot d hd
  rw [OneBased.get?_of_set? hset] at hd
  rw [lastBinding_concat, StatementEvent.binding?_setValue howned]
  by_cases hslot : slot = own
  · subst hslot
    obtain ⟨first, rest, rfl⟩ := List.exists_cons_of_ne_nil hne
    obtain rfl : first = slot := hall first (by simp)
    rw [if_pos rfl, Option.some.injEq] at hd
    rw [if_pos (by simp), Option.getD_some, hcell, hd]
  · have hnot : slot ∉ owned := fun hmem => hslot (hall slot hmem)
    rw [if_neg hslot] at hd
    rw [if_neg hnot, Option.getD_none]
    exact h slot d hd

end Cells

end PortableSql
