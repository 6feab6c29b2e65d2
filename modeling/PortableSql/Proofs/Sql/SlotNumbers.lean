import Mathlib.Data.List.Nodup
import PortableSql.Proofs.Sql.Rendering

/-!
# The numbers of the slots

The slots that a portable text gives out are numbered from one without a gap, and no two identifiers
share one. With coalescing there is one slot for each identifier; without it there is one for each
occurrence. Either way the identifiers and the numbers of their occurrences are those of the text.
-/
namespace PortableSql

/-- Different identifiers have slots of their own, and the slots in use are the first ones. -/
structure SlotMap.WellNumbered (map : SlotMap) : Prop where
  different : map.entries.Pairwise fun a b => a.1.same b.1 = false
  used : ∀ entry ∈ map.entries, entry.2 ≠ []
  range : ∀ slot, (∃ entry ∈ map.entries, slot ∈ entry.2) ↔ 1 ≤ slot ∧ slot ≤ map.nativeCount
  disjoint : map.entries.Pairwise fun a b => a.2.Disjoint b.2

variable {placed : List (Identifier × Nat)}

/-- Entries of a ledger are disjoint if a slot is placed for one identifier only. -/
theorem pairwise_disjoint_ledger
    (h : ∀ a ∈ placed, ∀ b ∈ placed, a.2 = b.2 → a.1.same b.1 = true) :
    (ledger placed).Pairwise fun a b => a.2.Disjoint b.2 := by
  refine (pairwise_ledger placed).imp_of_mem ?_
  intro a b ha hb hdiff slot hslota hslotb
  rw [snd_eq_of_mem_ledger ha] at hslota
  rw [snd_eq_of_mem_ledger hb] at hslotb
  obtain ⟨first, hfirst, hfirsta, rfl⟩ := mem_slotsPlaced.1 hslota
  obtain ⟨second, hsecond, hsecondb, hslot⟩ := mem_slotsPlaced.1 hslotb
  have hsame := h first hfirst second hsecond hslot.symm
  rw [Identifier.same_congr_left hfirsta] at hsame
  rw [Identifier.same_comm, Identifier.same_congr_left hsecondb, Identifier.same_comm] at hsame
  simp [hdiff] at hsame

/-- A map that holds a ledger is well numbered if the slots placed are the first ones and each is
placed for one identifier only. -/
theorem SlotMap.wellNumbered_of_entries {map : SlotMap} (hentries : map.entries = ledger placed)
    (hrange : ∀ slot, slot ∈ placed.map (·.2) ↔ 1 ≤ slot ∧ slot ≤ map.nativeCount)
    (hone : ∀ a ∈ placed, ∀ b ∈ placed, a.2 = b.2 → a.1.same b.1 = true) : map.WellNumbered where
  different := hentries ▸ pairwise_ledger placed
  used entry hentry := snd_ne_nil_of_mem_ledger (hentries ▸ hentry)
  range slot := by rw [hentries, exists_mem_ledger_iff, hrange]
  disjoint := hentries ▸ pairwise_disjoint_ledger hone

/-- The identifiers of a ledger and the numbers of their slots do not depend on the slots. -/
theorem map_length_ledger (placed : List (Identifier × Nat)) :
    (ledger placed).map (fun entry => (entry.1, entry.2.length)) =
      (firsts (placed.map (·.1))).map fun id => (id, (placed.map (·.1)).countP (·.same id)) := by
  simp [ledger, Function.comp_def, length_slotsPlaced]

namespace SlotMap

variable (ids : List Identifier)

/-! ## With coalescing -/

/-- A slot is the rank of its identifier, so a slot placed twice was placed for one identifier. -/
theorem same_of_slot_eq_coalescing :
    let placed := (assignAll true ids empty).1
    ∀ a ∈ placed, ∀ b ∈ placed, a.2 = b.2 → a.1.same b.1 = true := by
  intro placed a ha b hb hslot
  obtain ⟨i, first, hi, hfirst, hsamea⟩ := (slots_assignAll_coalescing ids).1 a ha
  obtain ⟨j, second, hj, hsecond, hsameb⟩ := (slots_assignAll_coalescing ids).1 b hb
  have hij : i = j := by omega
  subst hij
  obtain rfl : first = second := Option.some.inj (hfirst.symm.trans hsecond)
  rw [← Identifier.same_congr_left hsamea, hsameb]

/-- The slot of a placement for a first occurrence is the rank of the first occurrence. -/
theorem slot_eq_of_same {rank : Nat} {first : Identifier} (hfirst : (firsts ids)[rank]? = some first)
    {placement : Identifier × Nat} (h : placement ∈ (assignAll true ids empty).1)
    (hsame : placement.1.same first = true) : placement.2 = rank + 1 := by
  obtain ⟨i, other, hi, hother, hplacement⟩ := (slots_assignAll_coalescing ids).1 placement h
  have hranks : i = rank :=
    eq_of_getElem?_firsts hother hfirst (by rw [Identifier.same_congr_left hplacement, hsame])
  rw [hi, hranks]

theorem mem_slots_coalescing_iff (slot : Nat) :
    slot ∈ (assignAll true ids empty).1.map (·.2) ↔
      1 ≤ slot ∧ slot ≤ (assignAll true ids empty).2.nativeCount := by
  rw [(slots_assignAll_coalescing ids).2]
  constructor
  · intro hslot
    obtain ⟨placement, hplacement, rfl⟩ := List.mem_map.1 hslot
    obtain ⟨rank, first, hrank, hfirst, -⟩ := (slots_assignAll_coalescing ids).1 _ hplacement
    have hlt := (List.getElem?_eq_some_iff.1 hfirst).1
    omega
  · rintro ⟨hpos, hle⟩
    have hlt : slot - 1 < (firsts ids).length := by omega
    have hfirst : (firsts ids)[slot - 1]? = some (firsts ids)[slot - 1] :=
      List.getElem?_eq_getElem hlt
    -- a first occurrence was placed, and where it was placed it got its rank
    have hmem : (firsts ids)[slot - 1] ∈ (assignAll true ids empty).1.map (·.1) := by
      rw [map_fst_assignAll]
      exact mem_of_mem_firsts (List.getElem_mem hlt)
    obtain ⟨placement, hplacement, hid⟩ := List.mem_map.1 hmem
    have hslot := slot_eq_of_same ids hfirst hplacement (by rw [hid, Identifier.same_refl])
    exact List.mem_map.2 ⟨placement, hplacement, by omega⟩

theorem wellNumbered_coalescing : (assignAll true ids empty).2.WellNumbered :=
  wellNumbered_of_entries (entries_assignAll true ids) (mem_slots_coalescing_iff ids)
    (same_of_slot_eq_coalescing ids)

/-- The i-th entry has its own number for all its slots. -/
theorem slots_of_entry_coalescing {i : Nat} {entry : Identifier × List Nat}
    (h : (assignAll true ids empty).2.entries[i]? = some entry) : ∀ slot ∈ entry.2, slot = i + 1 := by
  intro slot hslot
  rw [entries_assignAll, ledger, map_fst_assignAll, List.getElem?_map, Option.map_eq_some_iff] at h
  obtain ⟨first, hfirst, rfl⟩ := h
  obtain ⟨placement, hplacement, hsame, rfl⟩ := mem_slotsPlaced.1 hslot
  exact slot_eq_of_same ids hfirst hplacement hsame

theorem nativeCount_coalescing :
    (assignAll true ids empty).2.nativeCount = (assignAll true ids empty).2.size := by
  rw [size, entries_assignAll, (slots_assignAll_coalescing ids).2, ledger, List.length_map,
    map_fst_assignAll]

/-- With coalescing all slots of an identifier are one of the slots in use. -/
theorem exists_slot_of_get?_coalescing {id : Identifier} {slots : List Nat}
    (h : (assignAll true ids empty).2.get? id = some slots) :
    ∃ own, 1 ≤ own ∧ own ≤ (assignAll true ids empty).2.nativeCount ∧ slots ≠ [] ∧
      ∀ slot ∈ slots, slot = own := by
  obtain ⟨entry, hfind, rfl⟩ := Option.map_eq_some_iff.1 h
  have hmem := List.mem_of_find?_eq_some hfind
  obtain ⟨i, hi⟩ := List.getElem?_of_mem hmem
  have hall := slots_of_entry_coalescing ids hi
  have hne := (wellNumbered_coalescing ids).used entry hmem
  obtain ⟨first, rest, hcons⟩ := List.exists_cons_of_ne_nil hne
  have hfirst : first ∈ entry.2 := by rw [hcons]; exact List.mem_cons_self
  obtain ⟨hpos, hle⟩ := ((wellNumbered_coalescing ids).range first).1 ⟨entry, hmem, hfirst⟩
  refine ⟨i + 1, ?_, ?_, hne, hall⟩
  · rwa [hall first hfirst] at hpos
  · rwa [hall first hfirst] at hle

/-! ## Without coalescing -/

theorem nodup_slots_fresh : ((assignAll false ids empty).1.map (·.2)).Nodup := by
  rw [(slots_assignAll_fresh ids).1]
  exact List.nodup_range'

/-- No slot is placed twice, so equal slots are of one placement. -/
theorem same_of_slot_eq_fresh :
    let placed := (assignAll false ids empty).1
    ∀ a ∈ placed, ∀ b ∈ placed, a.2 = b.2 → a.1.same b.1 = true := by
  intro placed a ha b hb hslot
  obtain rfl := List.inj_on_of_nodup_map (nodup_slots_fresh ids) ha hb hslot
  exact Identifier.same_refl a.1

theorem mem_slots_fresh_iff (slot : Nat) :
    slot ∈ (assignAll false ids empty).1.map (·.2) ↔
      1 ≤ slot ∧ slot ≤ (assignAll false ids empty).2.nativeCount := by
  rw [(slots_assignAll_fresh ids).1, List.mem_range'_1]
  omega

theorem wellNumbered_fresh : (assignAll false ids empty).2.WellNumbered :=
  wellNumbered_of_entries (entries_assignAll false ids) (mem_slots_fresh_iff ids)
    (same_of_slot_eq_fresh ids)

/-- The slots of an identifier are some of the slots, and those come in increasing order. -/
theorem increasing_of_mem_entries_fresh {entry : Identifier × List Nat}
    (h : entry ∈ (assignAll false ids empty).2.entries) : entry.2.Pairwise (· < ·) := by
  rw [entries_assignAll] at h
  rw [snd_eq_of_mem_ledger h]
  have hall : ((assignAll false ids empty).1.map (·.2)).Pairwise (· < ·) := by
    rw [(slots_assignAll_fresh ids).1]
    exact List.pairwise_lt_range'
  exact hall.sublist (List.filter_sublist.map _)

theorem nodup_flatMap_entries_fresh :
    ((assignAll false ids empty).2.entries.flatMap (·.2)).Nodup := by
  refine List.nodup_flatMap.2 ⟨fun entry hentry => ?_, (wellNumbered_fresh ids).disjoint⟩
  exact (increasing_of_mem_entries_fresh ids hentry).imp Nat.ne_of_lt

/-- All entries together have as many slots as there are. -/
theorem length_flatMap_entries_fresh :
    ((assignAll false ids empty).2.entries.flatMap (·.2)).length =
      (assignAll false ids empty).2.nativeCount := by
  have hperm : ((assignAll false ids empty).2.entries.flatMap (·.2)).Perm
      (List.range' 1 (assignAll false ids empty).2.nativeCount) := by
    rw [List.perm_ext_iff_of_nodup (nodup_flatMap_entries_fresh ids) List.nodup_range']
    intro slot
    rw [List.mem_flatMap, (wellNumbered_fresh ids).range, List.mem_range'_1]
    omega
  rw [hperm.length_eq, List.length_range']

/-- Coalescing changes neither the identifiers nor the numbers of their slots. -/
theorem map_length_entries_coalescing :
    (assignAll true ids empty).2.entries.map (fun entry => (entry.1, entry.2.length)) =
      (assignAll false ids empty).2.entries.map fun entry => (entry.1, entry.2.length) := by
  rw [entries_assignAll, entries_assignAll, map_length_ledger, map_length_ledger, map_fst_assignAll,
    map_fst_assignAll]

end SlotMap

/-- **Slots are numbered from one without gaps, and no two identifiers share one.** With coalescing
the i-th identifier has slot i alone; without it every placeholder has a slot of its own, and the
slots of an identifier increase. Both ways find the same identifiers in the same order, each with the
same number of slots. -/
theorem slots_numbered_from_one (dialect : Dialect) (sql : String) :
    let coalesced := (renderSql dialect ⟨false, true⟩ sql).slots
    let fresh := (renderSql dialect ⟨false, false⟩ sql).slots
    coalesced.WellNumbered ∧ fresh.WellNumbered ∧
    (∀ i entry, coalesced.entries[i]? = some entry → ∀ slot ∈ entry.2, slot = i + 1) ∧
    coalesced.nativeCount = coalesced.size ∧
    (fresh.entries.flatMap (·.2)).Nodup ∧
    (∀ entry ∈ fresh.entries, entry.2.Pairwise (· < ·)) ∧
    fresh.nativeCount = (parameters (pieces sql.toList)).length ∧
    fresh.nativeCount = (fresh.entries.flatMap (·.2)).length ∧
    coalesced.entries.map (fun entry => (entry.1, entry.2.length)) =
      fresh.entries.map fun entry => (entry.1, entry.2.length) := by
  intro coalesced fresh
  let ids := parameters (pieces sql.toList)
  have hcoalesced : coalesced = (SlotMap.empty.assignAll true ids).2 :=
    slots_renderSql dialect true sql
  have hfresh : fresh = (SlotMap.empty.assignAll false ids).2 := slots_renderSql dialect false sql
  rw [hcoalesced, hfresh]
  refine ⟨SlotMap.wellNumbered_coalescing ids, SlotMap.wellNumbered_fresh ids, ?_,
    SlotMap.nativeCount_coalescing ids, SlotMap.nodup_flatMap_entries_fresh ids, ?_,
    (SlotMap.slots_assignAll_fresh ids).2, (SlotMap.length_flatMap_entries_fresh ids).symm,
    SlotMap.map_length_entries_coalescing ids⟩
  · intro i entry hentry
    exact SlotMap.slots_of_entry_coalescing ids hentry
  · intro entry hentry
    exact SlotMap.increasing_of_mem_entries_fresh ids hentry

end PortableSql
