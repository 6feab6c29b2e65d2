import Mathlib.Data.List.Basic
import PortableSql.Proofs.Sql.Identifier

/-!
# What a sequence of placements says of each identifier

A placement is an identifier with the slot of one of its occurrences. Seen from the sequence of all
placements, an identifier occupies the slots of the placements that are about it, in their order, and
the identifiers come in the order in which they were placed first. `ledger` is both together; the
slot map is proved to hold nothing else.
-/
namespace PortableSql

/-- The slots that placements give to an identifier, in order. -/
def slotsPlaced (id : Identifier) (placed : List (Identifier × Nat)) : List Nat :=
  (placed.filter fun placement => placement.1.same id).map (·.2)

/-- Identifiers without those that are the same as an earlier one. -/
def firsts : List Identifier → List Identifier
  | [] => []
  | id :: rest => id :: (firsts rest).filter fun later => !id.same later

/-- The identifiers in order of their first placement, each with its slots. -/
def ledger (placed : List (Identifier × Nat)) : List (Identifier × List Nat) :=
  (firsts (placed.map (·.1))).map fun id => (id, slotsPlaced id placed)

variable {id q : Identifier} {ids : List Identifier} {placed : List (Identifier × Nat)}

/-! ## First occurrences -/

theorem mem_of_mem_firsts (h : id ∈ firsts ids) : id ∈ ids := by
  induction ids with
  | nil => exact h
  | cons first rest ih =>
    obtain rfl | h := List.mem_cons.1 h
    · exact List.mem_cons_self
    · exact List.mem_cons_of_mem _ (ih (List.mem_filter.1 h).1)

/-- Every identifier is represented by a first occurrence. -/
theorem exists_mem_firsts_same (h : id ∈ ids) : ∃ first ∈ firsts ids, first.same id = true := by
  induction ids with
  | nil => simp at h
  | cons head rest ih =>
    cases hsame : head.same id
    · obtain rfl | h := List.mem_cons.1 h
      · simp [Identifier.same_refl] at hsame
      · obtain ⟨first, hfirst, hid⟩ := ih h
        refine ⟨first, List.mem_cons_of_mem _ (List.mem_filter.2 ⟨hfirst, ?_⟩), hid⟩
        rw [Identifier.same_comm, Identifier.same_congr_left hid, Identifier.same_comm, hsame]
        rfl
    · exact ⟨head, List.mem_cons_self, hsame⟩

/-- First occurrences are pairwise different. -/
theorem pairwise_firsts (ids : List Identifier) :
    (firsts ids).Pairwise fun a b => a.same b = false := by
  induction ids with
  | nil => exact .nil
  | cons head rest ih =>
    refine .cons (fun later hlater => ?_) (ih.filter _)
    simpa using (List.mem_filter.1 hlater).2

/-- One more identifier is a first occurrence unless one was the same. -/
theorem firsts_concat (ids : List Identifier) (id : Identifier) :
    firsts (ids ++ [id]) =
      if ids.any (·.same id) then firsts ids else firsts ids ++ [id] := by
  induction ids with
  | nil => rfl
  | cons head rest ih =>
    rw [List.cons_append, firsts, firsts, ih, List.any_cons]
    by_cases hrest : rest.any (·.same id) = true
    · simp only [hrest, if_true, Bool.or_true]
    · by_cases hhead : head.same id = true <;> simp [List.filter_append, hrest, hhead]

/-- Of two first occurrences that are the same as one identifier, there is only one. -/
theorem eq_of_getElem?_firsts {i j : Nat} {a b : Identifier} (hi : (firsts ids)[i]? = some a)
    (hj : (firsts ids)[j]? = some b) (hab : a.same b = true) : i = j := by
  have hdiff := List.pairwise_iff_getElem.1 (pairwise_firsts ids)
  obtain ⟨hilt, rfl⟩ := List.getElem?_eq_some_iff.1 hi
  obtain ⟨hjlt, rfl⟩ := List.getElem?_eq_some_iff.1 hj
  rcases Nat.lt_trichotomy i j with hij | hij | hij
  · simp [hdiff i j hilt hjlt hij] at hab
  · exact hij
  · rw [Identifier.same_comm] at hab
    simp [hdiff j i hjlt hilt hij] at hab

/-! ## Slots of one identifier -/

theorem mem_slotsPlaced {slot : Nat} :
    slot ∈ slotsPlaced id placed ↔ ∃ placement ∈ placed, placement.1.same id ∧ placement.2 = slot := by
  simp only [slotsPlaced, List.mem_map, List.mem_filter, and_assoc]

theorem slotsPlaced_concat (id q : Identifier) (slot : Nat) (placed : List (Identifier × Nat)) :
    slotsPlaced q (placed ++ [(id, slot)]) =
      if id.same q then slotsPlaced q placed ++ [slot] else slotsPlaced q placed := by
  cases h : id.same q <;> simp [slotsPlaced, List.filter_append, h]

/-- The same identifiers have the same slots. -/
theorem slotsPlaced_congr (h : id.same q = true) (placed : List (Identifier × Nat)) :
    slotsPlaced id placed = slotsPlaced q placed := by
  have hsame : ∀ other : Identifier, other.same id = other.same q := by
    intro other
    rw [Identifier.same_comm, Identifier.same_congr_left h, Identifier.same_comm]
  simp only [slotsPlaced, hsame]

theorem slotsPlaced_eq_nil_iff :
    slotsPlaced q placed = [] ↔ (placed.map (·.1)).any (·.same q) = false := by
  simp [slotsPlaced, List.filter_eq_nil_iff]

/-- An identifier has as many slots as it has occurrences. -/
theorem length_slotsPlaced (q : Identifier) (placed : List (Identifier × Nat)) :
    (slotsPlaced q placed).length = (placed.map (·.1)).countP (·.same q) := by
  rw [slotsPlaced, List.length_map, ← List.countP_eq_length_filter, List.countP_map]
  rfl

/-! ## Looking up the ledger -/

theorem map_fst_ledger (placed : List (Identifier × Nat)) :
    (ledger placed).map (·.1) = firsts (placed.map (·.1)) := by
  simp [ledger, Function.comp_def]

theorem pairwise_ledger (placed : List (Identifier × Nat)) :
    (ledger placed).Pairwise fun a b => a.1.same b.1 = false :=
  List.pairwise_map.2 (pairwise_firsts _)

/-- An entry of the ledger has the slots placed for its identifier. -/
theorem snd_eq_of_mem_ledger {entry : Identifier × List Nat} (h : entry ∈ ledger placed) :
    entry.2 = slotsPlaced entry.1 placed := by
  obtain ⟨id, _, rfl⟩ := List.mem_map.1 h
  rfl

/-- The ledger has no entry without slots. -/
theorem snd_ne_nil_of_mem_ledger {entry : Identifier × List Nat} (h : entry ∈ ledger placed) :
    entry.2 ≠ [] := by
  obtain ⟨id, hid, rfl⟩ := List.mem_map.1 h
  have hmem : id ∈ placed.map (·.1) := mem_of_mem_firsts hid
  intro hnil
  rw [slotsPlaced_eq_nil_iff, List.any_eq_false] at hnil
  exact hnil id hmem (Identifier.same_refl id)

/-- The slots recorded in the ledger are the slots placed. -/
theorem exists_mem_ledger_iff {slot : Nat} :
    (∃ entry ∈ ledger placed, slot ∈ entry.2) ↔ slot ∈ placed.map (·.2) := by
  constructor
  · rintro ⟨entry, hentry, hslot⟩
    rw [snd_eq_of_mem_ledger hentry, mem_slotsPlaced] at hslot
    obtain ⟨placement, hplacement, -, rfl⟩ := hslot
    exact List.mem_map_of_mem hplacement
  · intro hslot
    obtain ⟨placement, hplacement, rfl⟩ := List.mem_map.1 hslot
    obtain ⟨first, hfirst, hsame⟩ := exists_mem_firsts_same (List.mem_map_of_mem hplacement)
    refine ⟨_, List.mem_map_of_mem hfirst, mem_slotsPlaced.2 ⟨placement, hplacement, ?_, rfl⟩⟩
    rwa [Identifier.same_comm]

/-- Looking an identifier up gives its slots, unless it was never placed. -/
theorem find?_ledger (q : Identifier) (placed : List (Identifier × Nat)) :
    ((ledger placed).find? fun entry => entry.1.same q).map (·.2) =
      if slotsPlaced q placed = [] then none else some (slotsPlaced q placed) := by
  split
  · next hnil =>
    rw [slotsPlaced_eq_nil_iff, List.any_eq_false] at hnil
    rw [Option.map_eq_none_iff, List.find?_eq_none]
    intro entry hentry
    obtain ⟨id, hid, rfl⟩ := List.mem_map.1 hentry
    exact hnil id (mem_of_mem_firsts hid)
  · next hne =>
    have hany : ¬(placed.map (·.1)).any (·.same q) = false := fun h =>
      hne (slotsPlaced_eq_nil_iff.2 h)
    rw [Bool.not_eq_false, List.any_eq_true] at hany
    obtain ⟨id, hid, hidq⟩ := hany
    obtain ⟨first, hfirst, hsame⟩ := exists_mem_firsts_same hid
    have hfound : ((ledger placed).find? fun entry => entry.1.same q).isSome = true := by
      rw [List.find?_isSome]
      refine ⟨_, List.mem_map_of_mem hfirst, ?_⟩
      rw [Identifier.same_congr_left hsame, hidq]
    obtain ⟨entry, hentry⟩ := Option.isSome_iff_exists.1 hfound
    have hmatch : entry.1.same q = true := by simpa using List.find?_some hentry
    rw [hentry, Option.map_some, snd_eq_of_mem_ledger (List.mem_of_find?_eq_some hentry),
      slotsPlaced_congr hmatch]

end PortableSql
