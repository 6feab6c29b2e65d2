import PortableSql.Proofs.Sql.Rendering

/-!
# Slots behind an identifier

After a portable text has been prepared, the slots found for an identifier are those against which
its placeholders were rendered, in their order. Visiting them calls the visitor slot by slot and ends
with its first error. The visitor may keep a state of its own.
-/
namespace PortableSql

namespace Placeholders

variable {σ : Type}

/-- The visitor, with a record of the slots it was called on and of its answers. -/
def recording (visit : Nat → ExceptT Error (StateM σ) Unit) (slot : Nat) :
    ExceptT Error (StateM (List (Nat × Result Unit) × σ)) Unit :=
  ExceptT.mk fun (record, s) =>
    let (answer, s') := (visit slot).run.run s
    (answer, record ++ [(slot, answer)], s')

/-- The record and the outcome of a visit that ends with the first error. -/
def Visited (slots : List Nat) (record : List (Nat × Result Unit)) : Result Unit → Prop
  | .ok _ => record = slots.map fun slot => (slot, .ok ())
  | .error e => ∃ before slot after, slots = before ++ slot :: after ∧
      record = before.map (fun slot => (slot, .ok ())) ++ [(slot, .error e)]

theorem run_recording (visit : Nat → ExceptT Error (StateM σ) Unit) (slot : Nat)
    (record : List (Nat × Result Unit)) (s : σ) :
    (recording visit slot).run.run (record, s) =
      (((visit slot).run.run s).1, record ++ [(slot, ((visit slot).run.run s).1)],
        ((visit slot).run.run s).2) := rfl

/-- The first visit decides whether there is another. -/
theorem run_forM_recording_cons (visit : Nat → ExceptT Error (StateM σ) Unit) (slot : Nat)
    (rest : List Nat) (record : List (Nat × Result Unit)) (s : σ) :
    ((slot :: rest).forM (recording visit)).run.run (record, s) =
      match ((visit slot).run.run s).1 with
      | .ok () => (rest.forM (recording visit)).run.run
          (record ++ [(slot, .ok ())], ((visit slot).run.run s).2)
      | .error e => (.error e, record ++ [(slot, .error e)], ((visit slot).run.run s).2) := by
  change (recording visit slot >>= fun _ => rest.forM (recording visit)).run.run (record, s) = _
  rw [ExceptT.run_bind, StateT.run_bind, run_recording]
  cases ((visit slot).run.run s).1 <;> rfl

/-- **Visiting slots ends with the first error, which is the outcome.** -/
theorem visited_forM (visit : Nat → ExceptT Error (StateM σ) Unit) (slots : List Nat)
    (record : List (Nat × Result Unit)) (s : σ) :
    ∃ added s', ((slots.forM (recording visit)).run.run (record, s)).2 = (record ++ added, s') ∧
      Visited slots added ((slots.forM (recording visit)).run.run (record, s)).1 := by
  induction slots generalizing record s with
  | nil => exact ⟨[], s, by simp; rfl, rfl⟩
  | cons slot rest ih =>
    rw [run_forM_recording_cons]
    cases ((visit slot).run.run s).1 with
    | error e => exact ⟨_, _, rfl, [], slot, rest, rfl, rfl⟩
    | ok =>
      obtain ⟨added, s', hrecord, hvisited⟩ := ih (record ++ [(slot, .ok ())])
        ((visit slot).run.run s).2
      refine ⟨(slot, .ok ()) :: added, s', ?_, ?_⟩
      · simpa using hrecord
      · dsimp only
        revert hvisited
        cases ((rest.forM (recording visit)).run.run
          (record ++ [(slot, .ok ())], ((visit slot).run.run s).2)).1 with
        | ok =>
          rintro rfl
          rfl
        | error e =>
          rintro ⟨before, last, after, rfl, rfl⟩
          exact ⟨slot :: before, last, after, rfl, rfl⟩

/-- Visiting the slots behind an identifier that has them. -/
theorem forSlots_of_get? {m : Type → Type} [Monad m] {p : Placeholders} {id : Identifier}
    {slots : List Nat} (hnative : p.passThrough = false) (h : p.slots.get? id = some slots)
    (visit : Nat → ExceptT Error m Unit) : p.forSlots id visit = slots.forM visit := by
  simp [forSlots, slotsOf, hnative, h]

theorem forSlots_of_get?_eq_none {m : Type → Type} [Monad m] {p : Placeholders} {id : Identifier}
    (hnative : p.passThrough = false) (h : p.slots.get? id = none)
    (visit : Nat → ExceptT Error m Unit) :
    p.forSlots id visit = throw (.parameterNotFound id.text) := by
  simp [forSlots, slotsOf, hnative, h]

end Placeholders

/-- The slot map of a rendered text has the ledger of the placements made. -/
theorem entries_renderSql (dialect : Dialect) (coalescing : Bool) (sql : String) :
    (renderSql dialect ⟨false, coalescing⟩ sql).slots.entries =
      ledger (render dialect ⟨false, coalescing⟩ sql.toList).placed := by
  rw [slots_renderSql, placed_render, SlotMap.entries_assignAll]

/-- **The slot map records the placeholders as they were rendered.** An identifier is found exactly
when one of its placeholders was rendered, with the slots of all of them in order; the entries are
the identifiers in the order of their first placeholders; and a visitor is called on these slots in
this order up to its first error, which is returned, or not at all for an unknown identifier. -/
theorem slots_agree_with_placements (dialect : Dialect) (coalescing : Bool) (sql : String) :
    let placed := (render dialect ⟨false, coalescing⟩ sql.toList).placed
    let holder := (Placeholders.prepare dialect false coalescing sql).1
    (∀ q, holder.slots.get? q =
      if slotsPlaced q placed = [] then none else some (slotsPlaced q placed)) ∧
    holder.slots.entries.map (·.1) = firsts (placed.map (·.1)) ∧
    (∀ entry ∈ holder.slots.entries, entry.2 = slotsPlaced entry.1 placed) ∧
    ∀ (q : Identifier) (σ : Type) (visit : Nat → ExceptT Error (StateM σ) Unit) (s : σ),
      let out := (holder.forSlots q (Placeholders.recording visit)).run.run ([], s)
      if slotsPlaced q placed = [] then out = (.error (.parameterNotFound q.text), [], s)
      else Placeholders.Visited (slotsPlaced q placed) out.2.1 out.1 := by
  intro placed holder
  have hentries : holder.slots.entries = ledger placed := entries_renderSql dialect coalescing sql
  have hget := SlotMap.get?_eq_of_entries hentries
  refine ⟨hget, ?_, ?_, ?_⟩
  · rw [hentries, map_fst_ledger]
  · intro entry hentry
    exact snd_eq_of_mem_ledger (hentries ▸ hentry)
  · intro q σ visit s out
    have hq := hget q
    split
    · next hnil =>
      rw [if_pos hnil] at hq
      have hout := Placeholders.forSlots_of_get?_eq_none (p := holder) rfl hq
        (Placeholders.recording visit)
      simp only [out, hout]
      rfl
    · next hne =>
      rw [if_neg hne] at hq
      obtain ⟨added, s', hrecord, hvisited⟩ :=
        Placeholders.visited_forM visit (slotsPlaced q placed) [] s
      have hout : out = ((slotsPlaced q placed).forM (Placeholders.recording visit)).run.run
          ([], s) := by
        simp only [out, Placeholders.forSlots_of_get? (p := holder) rfl hq]
      rw [hout, hrecord]
      exact hvisited

end PortableSql
