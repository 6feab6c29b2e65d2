import PortableSql.Proofs.Sql.SlotNumbers

/-!
# Slots are their own numbers

Identifiers take slots in the order of their first occurrences. If every occurrence is replaced by a
name of its slot, the names take the same slots again: a name is met first where its slot was given out,
so it is the next number then, and it is known wherever the slot is given again.
-/
namespace PortableSql

/-- The placements with names of the slots in place of the identifiers. -/
def renumber (name : Nat → Identifier) (placed : List (Identifier × Nat)) : List (Identifier × Nat) :=
  placed.map fun placement => (name placement.2, placement.2)

section

variable {name : Nat → Identifier} {placed : List (Identifier × Nat)}
  (hname : ∀ m n, (name m).same (name n) = true → m = n)

include hname

theorem same_name_iff (m n : Nat) : (name m).same (name n) = true ↔ m = n := by
  constructor
  · exact hname m n
  · rintro rfl
    exact Identifier.same_refl _

/-- A name has the placements of its slot. -/
theorem slotsPlaced_renumber (slot : Nat) (placed : List (Identifier × Nat)) :
    slotsPlaced (name slot) (renumber name placed) = (placed.map (·.2)).filter (· == slot) := by
  induction placed with
  | nil => rfl
  | cons placement rest ih =>
    have hsame : (name placement.2).same (name slot) = (placement.2 == slot) := by
      rw [Bool.eq_iff_iff, same_name_iff hname, beq_iff_eq]
    simp only [slotsPlaced, renumber, List.map_cons, List.filter_cons, hsame] at ih ⊢
    split
    · rw [List.map_cons, ih]
    · exact ih

/-- An entry of the ledger is for the name of a slot, which it has. -/
theorem exists_name_of_mem_ledger {entry : Identifier × List Nat}
    (h : entry ∈ ledger (renumber name placed)) : ∃ slot ∈ entry.2, entry.1 = name slot := by
  have hslots := snd_eq_of_mem_ledger h
  obtain ⟨id, hid, rfl⟩ := List.mem_map.1 h
  have hplaced : id ∈ (renumber name placed).map (·.1) := mem_of_mem_firsts hid
  rw [renumber, List.map_map, List.mem_map] at hplaced
  obtain ⟨placement, hplacement, heq⟩ := hplaced
  subst heq
  refine ⟨placement.2, ?_, rfl⟩
  rw [hslots, Function.comp_apply, slotsPlaced_renumber hname, List.mem_filter]
  exact ⟨List.mem_map_of_mem hplacement, beq_self_eq_true _⟩

end

namespace SlotMap

/-- Two maps after the same placements, under the identifiers and under names of the slots. -/
structure Renumbers (name : Nat → Identifier) (placed : List (Identifier × Nat)) (map map' : SlotMap) :
    Prop where
  entries : map.entries = ledger placed
  entries' : map'.entries = ledger (renumber name placed)
  count : map'.nativeCount = map.nativeCount
  bounded : ∀ placement ∈ placed, placement.2 ≤ map.nativeCount

/-- An entry has the placements of its number. -/
theorem snd_eq_of_getElem? (ids : List Identifier) {k : Nat} {entry : Identifier × List Nat}
    (h : (assignAll true ids empty).2.entries[k]? = some entry) :
    entry.2 = ((assignAll true ids empty).1.map (·.2)).filter (· == k + 1) := by
  have hall := slots_of_entry_coalescing ids h
  have hmem := List.mem_of_getElem? h
  obtain ⟨own, more, hown⟩ := List.exists_cons_of_ne_nil ((wellNumbered_coalescing ids).used _ hmem)
  have hfirst : own = k + 1 := hall own (by simp [hown])
  rw [entries_assignAll] at hmem
  have hslots := snd_eq_of_mem_ledger hmem
  obtain ⟨known, hknown, hsame, hslot⟩ : ∃ known ∈ (assignAll true ids empty).1,
      known.1.same entry.1 = true ∧ known.2 = own := by
    rw [← mem_slotsPlaced, ← hslots, hown]
    exact List.mem_cons_self
  rw [hslots, slotsPlaced, List.filter_map]
  congr 1
  refine List.filter_congr fun placement hplacement => ?_
  rw [Bool.eq_iff_iff, Function.comp_apply, beq_iff_eq]
  constructor
  · intro hid
    refine hall _ ?_
    rw [hslots, mem_slotsPlaced]
    exact ⟨placement, hplacement, hid, rfl⟩
  · intro hnumber
    have hid := same_of_slot_eq_coalescing ids placement hplacement known hknown (by omega)
    rw [Identifier.same_congr_left hid, hsame]

variable {name : Nat → Identifier} {placed : List (Identifier × Nat)} {map map' : SlotMap}

/-- One more placement of the same slot in both. -/
theorem Renumbers.concat (h : Renumbers name placed map map') {id : Identifier} {slot : Nat}
    (hslot : (map.assign id true).1 = slot) (hslot' : (map'.assign (name slot) true).1 = slot)
    (hcount : (map'.assign (name slot) true).2.nativeCount = (map.assign id true).2.nativeCount)
    (hle : map.nativeCount ≤ (map.assign id true).2.nativeCount)
    (hbound : slot ≤ (map.assign id true).2.nativeCount) :
    Renumbers name (placed ++ [(id, slot)]) (map.assign id true).2
      (map'.assign (name slot) true).2 where
  entries := by
    have hentries := entries_assign h.entries id true
    rwa [hslot] at hentries
  entries' := by
    have hentries := entries_assign h.entries' (name slot) true
    rw [hslot'] at hentries
    simpa [renumber] using hentries
  count := hcount
  bounded := by
    intro placement hplacement
    obtain hold | hnew := List.mem_append.1 hplacement
    · exact Nat.le_trans (h.bounded placement hold) hle
    · obtain rfl := List.mem_singleton.1 hnew
      exact hbound

variable (hname : ∀ m n, (name m).same (name n) = true → m = n)

include hname

/-- A fresh slot has a name that was not placed before. -/
theorem Renumbers.assign_of_new (h : Renumbers name placed map map') {id : Identifier}
    (hslot : (map.assign id true).1 = map.nativeCount + 1)
    (hnext : (map.assign id true).2.nativeCount = map.nativeCount + 1) :
    (map'.assign (name (map.nativeCount + 1)) true).1 = map.nativeCount + 1 ∧
      Renumbers name (placed ++ [(id, map.nativeCount + 1)]) (map.assign id true).2
        (map'.assign (name (map.nativeCount + 1)) true).2 := by
  have hunknown : slotsPlaced (name (map.nativeCount + 1)) (renumber name placed) = [] := by
    rw [slotsPlaced_renumber hname, List.filter_eq_nil_iff]
    intro slot hmem
    obtain ⟨placement, hplacement, rfl⟩ := List.mem_map.1 hmem
    have hle := h.bounded placement hplacement
    rw [beq_iff_eq]
    omega
  obtain ⟨-, hslot', hnext'⟩ | ⟨first, rest, hcons, -⟩ | ⟨-, hfalse, -⟩ :=
    assign_cases h.entries' (name (map.nativeCount + 1)) true
  · rw [h.count] at hslot' hnext'
    have hcount := hnext'.trans hnext.symm
    exact ⟨hslot', h.concat hslot hslot' hcount (by omega) (by omega)⟩
  · rw [hunknown] at hcons
    cases hcons
  · cases hfalse

/-- A slot that is given again has a name that was placed for this slot only. -/
theorem Renumbers.assign_of_known (h : Renumbers name placed map map') {id : Identifier} {slot : Nat}
    {rest : List Nat} (hslots : slotsPlaced id placed = slot :: rest)
    (hslot : (map.assign id true).1 = slot)
    (hnext : (map.assign id true).2.nativeCount = map.nativeCount) :
    (map'.assign (name slot) true).1 = slot ∧
      Renumbers name (placed ++ [(id, slot)]) (map.assign id true).2
        (map'.assign (name slot) true).2 := by
  obtain ⟨known, hknown, -, heq⟩ : ∃ known ∈ placed, known.1.same id = true ∧ known.2 = slot :=
    mem_slotsPlaced.1 (by simp [hslots])
  have hmem : slot ∈ slotsPlaced (name slot) (renumber name placed) := by
    rw [slotsPlaced_renumber hname, List.mem_filter, beq_self_eq_true]
    exact ⟨List.mem_map.2 ⟨known, hknown, heq⟩, rfl⟩
  have hbound : slot ≤ map.nativeCount := by
    rw [← heq]
    exact h.bounded known hknown
  obtain ⟨hnil, -⟩ | ⟨first, others, hcons, -, hslot', hnext'⟩ | ⟨-, hfalse, -⟩ :=
    assign_cases h.entries' (name slot) true
  · rw [hnil] at hmem
    cases hmem
  · obtain rfl : first = slot := by
      have hfirst : first ∈ slotsPlaced (name slot) (renumber name placed) := by simp [hcons]
      rw [slotsPlaced_renumber hname, List.mem_filter, beq_iff_eq] at hfirst
      exact hfirst.2
    have hcount := (hnext'.trans h.count).trans hnext.symm
    exact ⟨hslot', h.concat hslot hslot' hcount (by omega) (by omega)⟩
  · cases hfalse

/-- **The name of the slot that is given out takes this slot.** -/
theorem Renumbers.assign (h : Renumbers name placed map map') (id : Identifier) :
    (map'.assign (name (map.assign id true).1) true).1 = (map.assign id true).1 ∧
      Renumbers name (placed ++ [(id, (map.assign id true).1)]) (map.assign id true).2
        (map'.assign (name (map.assign id true).1) true).2 := by
  obtain ⟨-, hslot, hnext⟩ | ⟨slot, rest, hslots, -, hslot, hnext⟩ | ⟨-, hfalse, -⟩ :=
    assign_cases h.entries id true
  · have hnew := h.assign_of_new hname hslot hnext
    rwa [← hslot] at hnew
  · have hknown := h.assign_of_known hname hslots hslot hnext
    rwa [← hslot] at hknown
  · cases hfalse

/-- Names of the slots take these slots, one after another. -/
theorem Renumbers.assignAll (h : Renumbers name placed map map') (ids : List Identifier) :
    let out := assignAll true ids map
    let out' := SlotMap.assignAll true (out.1.map fun placement => name placement.2) map'
    out'.1 = renumber name out.1 ∧ Renumbers name (placed ++ out.1) out.2 out'.2 := by
  induction ids generalizing placed map map' with
  | nil => exact ⟨rfl, by simpa using h⟩
  | cons id ids ih =>
    obtain ⟨hslot, hnext⟩ := h.assign hname id
    obtain ⟨hplaced, hrest⟩ := ih hnext
    rw [List.append_assoc] at hrest
    simp only [SlotMap.assignAll, List.map_cons, renumber] at hplaced ⊢
    exact ⟨by rw [hslot, hplaced], hrest⟩

/-- **The entries of the names are those of the identifiers, in the same order.** -/
theorem entries_renumbered (ids : List Identifier) :
    let out := assignAll true ids empty
    let out' := assignAll true (out.1.map fun placement => name placement.2) empty
    out'.1 = renumber name out.1 ∧ out'.2.nativeCount = out.2.nativeCount ∧
      out'.2.entries = out.2.entries.mapIdx fun k entry => (name (k + 1), entry.2) := by
  intro out out'
  have hstart : Renumbers name [] empty empty := ⟨rfl, rfl, rfl, by simp⟩
  obtain ⟨hplaced, hout⟩ : out'.1 = renumber name out.1 ∧
      Renumbers name ([] ++ out.1) out.2 out'.2 := hstart.assignAll hname ids
  rw [List.nil_append] at hout
  have hlength : out'.2.entries.length = out.2.entries.length := by
    have hsize := nativeCount_coalescing ids
    have hsize' := nativeCount_coalescing (out.1.map fun placement => name placement.2)
    rw [size] at hsize hsize'
    rw [← hsize, ← hsize', hout.count]
  refine ⟨hplaced, hout.count, List.ext_getElem (by rw [hlength, List.length_mapIdx]) ?_⟩
  intro k hk hk'
  rw [List.getElem_mapIdx]
  have hentry : out.2.entries[k]? = some out.2.entries[k] := List.getElem?_eq_getElem (by omega)
  have hentry' : out'.2.entries[k]? = some out'.2.entries[k] := List.getElem?_eq_getElem hk
  have hslots : out'.2.entries[k].2 = out.2.entries[k].2 := by
    have hsame : out'.1.map (·.2) = out.1.map (·.2) := by simp [hplaced, renumber]
    rw [snd_eq_of_getElem? _ hentry, snd_eq_of_getElem? _ hentry', hsame]
  have hmem : out'.2.entries[k] ∈ ledger (renumber name out.1) := by
    rw [← hout.entries']
    exact List.getElem_mem hk
  obtain ⟨slot, hslot, hid⟩ := exists_name_of_mem_ledger hname hmem
  rw [slots_of_entry_coalescing _ hentry' slot hslot] at hid
  exact Prod.ext hid hslots

end SlotMap

end PortableSql
