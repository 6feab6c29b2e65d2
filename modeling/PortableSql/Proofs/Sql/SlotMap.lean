import PortableSql.Proofs.Sql.Ledger
import PortableSql.Sql.SlotMap

/-!
# A slot map holds the ledger of its placements

`SlotMap.assignAll` gives slots to identifiers one after another. Whatever it did, the entries of the
map are the ledger of the placements made, and the slots follow one of two closed forms: the n-th
placement has slot n, or, with coalescing, every placement has the rank of its identifier.
-/
namespace PortableSql.SlotMap

/-- Gives slots to identifiers in order; the placements made, and the map after them. -/
def assignAll (coalescing : Bool) : List Identifier → SlotMap → List (Identifier × Nat) × SlotMap
  | [], map => ([], map)
  | id :: rest, map =>
    let (slot, next) := map.assign id coalescing
    let (placed, last) := assignAll coalescing rest next
    ((id, slot) :: placed, last)

@[simp] theorem assignAll_nil (coalescing : Bool) (map : SlotMap) :
    assignAll coalescing [] map = ([], map) := rfl

theorem assignAll_append (coalescing : Bool) (first second : List Identifier) (map : SlotMap) :
    assignAll coalescing (first ++ second) map =
      let head := assignAll coalescing first map
      let tail := assignAll coalescing second head.2
      (head.1 ++ tail.1, tail.2) := by
  induction first generalizing map with
  | nil => rfl
  | cons id rest ih => simp [assignAll, ih]

/-- The placements are about the identifiers given. -/
@[simp] theorem map_fst_assignAll (coalescing : Bool) (ids : List Identifier) (map : SlotMap) :
    (assignAll coalescing ids map).1.map (·.1) = ids := by
  induction ids generalizing map with
  | nil => rfl
  | cons id rest ih => simp [assignAll, ih]

/-- What one assignment preserves holds after all of them. -/
theorem assignAll_induction {coalescing : Bool} (P : List (Identifier × Nat) → SlotMap → Prop)
    (step : ∀ placed map id, P placed map →
      P (placed ++ [(id, (map.assign id coalescing).1)]) (map.assign id coalescing).2)
    (ids : List Identifier) {placed : List (Identifier × Nat)} {map : SlotMap} (h : P placed map) :
    P (placed ++ (assignAll coalescing ids map).1) (assignAll coalescing ids map).2 := by
  induction ids generalizing placed map with
  | nil => simpa using h
  | cons id rest ih =>
    have hnext := ih (step placed map id h)
    rwa [List.append_assoc] at hnext

/-! ## The entries are the ledger -/

/-- Of entries for different identifiers, the one that is the same gets the slot. -/
theorem addSlot_map (id : Identifier) (slot : Nat) (slots : Identifier → List Nat)
    {ids : List Identifier} (hdiff : ids.Pairwise fun a b => a.same b = false) :
    addSlot id slot (ids.map fun entry => (entry, slots entry)) =
      ids.map fun entry => (entry, if entry.same id then slots entry ++ [slot] else slots entry) := by
  induction hdiff with
  | nil => rfl
  | @cons head rest hhead _ ih =>
    rw [List.map_cons, List.map_cons, addSlot]
    by_cases hsame : head.same id = true
    · have hrest : ∀ entry ∈ rest, entry.same id = false := by
        intro entry hentry
        rw [Identifier.same_comm, ← Identifier.same_congr_left hsame, hhead entry hentry]
      rw [if_pos hsame, if_pos hsame]
      congr 1
      refine List.map_congr_left fun entry hentry => ?_
      rw [if_neg (by simp [hrest entry hentry])]
    · rw [if_neg hsame, if_neg hsame, ih]

/-- Looking up in a map whose entries are a ledger. -/
theorem get?_eq_of_entries {map : SlotMap} {placed : List (Identifier × Nat)}
    (h : map.entries = ledger placed) (q : Identifier) :
    map.get? q = if slotsPlaced q placed = [] then none else some (slotsPlaced q placed) := by
  rw [get?, h, find?_ledger]

/-- Appending the slot of a known identifier to its entry is one more placement. -/
theorem addSlot_ledger {id : Identifier} {placed : List (Identifier × Nat)}
    (h : slotsPlaced id placed ≠ []) (slot : Nat) :
    addSlot id slot (ledger placed) = ledger (placed ++ [(id, slot)]) := by
  have hany : (placed.map (·.1)).any (·.same id) = true := by
    rw [← Bool.not_eq_false]
    exact fun hfalse => h (slotsPlaced_eq_nil_iff.2 hfalse)
  rw [ledger, addSlot_map id slot _ (pairwise_firsts _), ledger, List.map_append, List.map_singleton,
    firsts_concat, if_pos hany]
  simp only [slotsPlaced_concat, Identifier.same_comm id]

/-- A new entry for an unknown identifier is one more placement. -/
theorem ledger_concat_of_new {id : Identifier} {placed : List (Identifier × Nat)}
    (h : slotsPlaced id placed = []) (slot : Nat) :
    ledger placed ++ [(id, [slot])] = ledger (placed ++ [(id, slot)]) := by
  have hnone := slotsPlaced_eq_nil_iff.1 h
  rw [ledger, ledger, List.map_append, List.map_singleton, firsts_concat,
    if_neg (by simp [hnone]), List.map_append]
  congr 1
  · refine List.map_congr_left fun other hother => ?_
    have hother' : other.same id = false := by
      simpa using List.any_eq_false.1 hnone other (mem_of_mem_firsts hother)
    rw [slotsPlaced_concat, Identifier.same_comm, if_neg (by simp [hother'])]
  · simp [slotsPlaced_concat, Identifier.same_refl, h]

/-- What one assignment does to a map whose entries are a ledger: an unknown identifier has a fresh
slot, a known one its first slot or a fresh one. -/
theorem assign_cases {map : SlotMap} {placed : List (Identifier × Nat)}
    (h : map.entries = ledger placed) (id : Identifier) (coalescing : Bool) :
    (slotsPlaced id placed = [] ∧ (map.assign id coalescing).1 = map.nativeCount + 1 ∧
        (map.assign id coalescing).2.nativeCount = map.nativeCount + 1) ∨
      (∃ first rest, slotsPlaced id placed = first :: rest ∧ coalescing = true ∧
        (map.assign id coalescing).1 = first ∧
        (map.assign id coalescing).2.nativeCount = map.nativeCount) ∨
      (slotsPlaced id placed ≠ [] ∧ coalescing = false ∧
        (map.assign id coalescing).1 = map.nativeCount + 1 ∧
        (map.assign id coalescing).2.nativeCount = map.nativeCount + 1) := by
  have hget := get?_eq_of_entries h id
  cases hslots : slotsPlaced id placed with
  | nil => simp [assign, hget, hslots]
  | cons first rest => cases coalescing <;> simp [assign, hget, hslots]

/-- **One assignment adds its placement to the ledger.** -/
theorem entries_assign {map : SlotMap} {placed : List (Identifier × Nat)}
    (h : map.entries = ledger placed) (id : Identifier) (coalescing : Bool) :
    (map.assign id coalescing).2.entries =
      ledger (placed ++ [(id, (map.assign id coalescing).1)]) := by
  have hget := get?_eq_of_entries h id
  cases hslots : slotsPlaced id placed with
  | nil =>
    rw [if_pos hslots] at hget
    simp only [assign, hget, h]
    exact ledger_concat_of_new hslots _
  | cons first rest =>
    have hne : slotsPlaced id placed ≠ [] := by simp [hslots]
    rw [if_neg hne, hslots] at hget
    cases coalescing <;> simp only [assign, hget, h, List.head?_cons] <;>
      exact addSlot_ledger hne _

/-- The entries after a run of assignments are the ledger of its placements. -/
theorem entries_assignAll (coalescing : Bool) (ids : List Identifier) :
    (assignAll coalescing ids empty).2.entries = ledger (assignAll coalescing ids empty).1 := by
  have h : empty.entries = ledger [] := rfl
  exact assignAll_induction (fun placed map => map.entries = ledger placed)
    (fun _ _ id hmap => entries_assign hmap id coalescing) ids h

/-! ## The numbers of the slots -/

/-- Every placement so far has a slot of its own. -/
structure Counted (placed : List (Identifier × Nat)) (map : SlotMap) : Prop where
  entries : map.entries = ledger placed
  slots : placed.map (·.2) = List.range' 1 map.nativeCount
  count : map.nativeCount = placed.length

theorem Counted.assign {placed : List (Identifier × Nat)} {map : SlotMap} (h : Counted placed map)
    (id : Identifier) :
    Counted (placed ++ [(id, (map.assign id false).1)]) (map.assign id false).2 := by
  obtain ⟨hslot, hnext⟩ : (map.assign id false).1 = map.nativeCount + 1 ∧
      (map.assign id false).2.nativeCount = map.nativeCount + 1 := by
    obtain ⟨-, hcase⟩ | ⟨_, _, -, hfalse, -⟩ | ⟨-, -, hcase⟩ := assign_cases h.entries id false
    · exact hcase
    · cases hfalse
    · exact hcase
  refine ⟨entries_assign h.entries id false, ?_, ?_⟩
  · rw [List.map_append, h.slots, hnext, List.range'_concat]
    simp [hslot, Nat.add_comm]
  · rw [hnext, h.count, List.length_append, List.length_singleton]

/-- Without coalescing the n-th placement has slot n. -/
theorem slots_assignAll_fresh (ids : List Identifier) :
    let out := assignAll false ids empty
    out.1.map (·.2) = List.range' 1 out.2.nativeCount ∧ out.2.nativeCount = ids.length := by
  have hstart : Counted [] empty := ⟨rfl, rfl, rfl⟩
  have h := assignAll_induction Counted (fun _ _ id hplaced => hplaced.assign id) ids hstart
  rw [List.nil_append] at h
  refine ⟨h.slots, ?_⟩
  rw [h.count, ← List.length_map (·.1), map_fst_assignAll]

/-- The slot of a placement is the rank of its identifier among first occurrences. -/
def HasRank (ids : List Identifier) (placement : Identifier × Nat) : Prop :=
  ∃ rank first, placement.2 = rank + 1 ∧ (firsts ids)[rank]? = some first ∧
    first.same placement.1 = true

/-- Every placement so far has the rank of its identifier. -/
structure Ranked (placed : List (Identifier × Nat)) (map : SlotMap) : Prop where
  entries : map.entries = ledger placed
  ranks : ∀ placement ∈ placed, HasRank (placed.map (·.1)) placement
  count : map.nativeCount = (firsts (placed.map (·.1))).length

/-- An unknown identifier is a first occurrence, and its rank is the number of those before. -/
theorem Ranked.assign_of_new {placed : List (Identifier × Nat)} {map : SlotMap}
    (h : Ranked placed map) {id : Identifier} (hnil : slotsPlaced id placed = [])
    (hslot : (map.assign id true).1 = map.nativeCount + 1)
    (hnext : (map.assign id true).2.nativeCount = map.nativeCount + 1) :
    Ranked (placed ++ [(id, (map.assign id true).1)]) (map.assign id true).2 := by
  have hfirsts : firsts ((placed ++ [(id, (map.assign id true).1)]).map (·.1)) =
      firsts (placed.map (·.1)) ++ [id] := by
    rw [List.map_append, List.map_singleton, firsts_concat,
      if_neg (by simp [slotsPlaced_eq_nil_iff.1 hnil])]
  refine ⟨entries_assign h.entries id true, fun placement hplacement => ?_, ?_⟩
  · rw [HasRank, hfirsts]
    obtain hold | hnew := List.mem_append.1 hplacement
    · obtain ⟨rank, first, hrank, hfirst, hsame⟩ := h.ranks placement hold
      have hlt := (List.getElem?_eq_some_iff.1 hfirst).1
      exact ⟨rank, first, hrank, by rw [List.getElem?_append_left hlt, hfirst], hsame⟩
    · rw [List.mem_singleton.1 hnew]
      exact ⟨map.nativeCount, id, hslot, by simp [h.count], Identifier.same_refl id⟩
  · rw [hfirsts, hnext, h.count, List.length_append, List.length_singleton]

/-- A known identifier takes the slot of a placement that has its rank. -/
theorem Ranked.assign_of_known {placed : List (Identifier × Nat)} {map : SlotMap}
    (h : Ranked placed map) {id : Identifier} {slot : Nat} {rest : List Nat}
    (hslots : slotsPlaced id placed = slot :: rest) (hslot : (map.assign id true).1 = slot)
    (hnext : (map.assign id true).2.nativeCount = map.nativeCount) :
    Ranked (placed ++ [(id, (map.assign id true).1)]) (map.assign id true).2 := by
  obtain ⟨known, hknown, hid, rfl⟩ : ∃ known ∈ placed, known.1.same id = true ∧ known.2 = slot :=
    mem_slotsPlaced.1 (by simp [hslots])
  have hany : (placed.map (·.1)).any (·.same id) = true :=
    List.any_eq_true.2 ⟨_, List.mem_map_of_mem hknown, hid⟩
  have hfirsts : firsts ((placed ++ [(id, (map.assign id true).1)]).map (·.1)) =
      firsts (placed.map (·.1)) := by
    rw [List.map_append, List.map_singleton, firsts_concat, if_pos hany]
  refine ⟨entries_assign h.entries id true, fun placement hplacement => ?_, ?_⟩
  · rw [HasRank, hfirsts]
    obtain hold | hnew := List.mem_append.1 hplacement
    · exact h.ranks placement hold
    · rw [List.mem_singleton.1 hnew, hslot]
      obtain ⟨rank, first, hrank, hfirst, hsame⟩ := h.ranks known hknown
      exact ⟨rank, first, hrank, hfirst, by rw [Identifier.same_congr_left hsame, hid]⟩
  · rw [hfirsts, hnext, h.count]

theorem Ranked.assign {placed : List (Identifier × Nat)} {map : SlotMap} (h : Ranked placed map)
    (id : Identifier) :
    Ranked (placed ++ [(id, (map.assign id true).1)]) (map.assign id true).2 := by
  obtain ⟨hnil, hslot, hnext⟩ | ⟨slot, rest, hslots, -, hslot, hnext⟩ | ⟨-, hfalse, -⟩ :=
    assign_cases h.entries id true
  · exact h.assign_of_new hnil hslot hnext
  · exact h.assign_of_known hslots hslot hnext
  · cases hfalse

/-- With coalescing a placement has the rank of its identifier among the first occurrences. -/
theorem slots_assignAll_coalescing (ids : List Identifier) :
    let out := assignAll true ids empty
    (∀ placement ∈ out.1, HasRank ids placement) ∧ out.2.nativeCount = (firsts ids).length := by
  have hstart : Ranked [] empty := ⟨rfl, by simp, rfl⟩
  have h := assignAll_induction Ranked (fun _ _ id hplaced => hplaced.assign id) ids hstart
  rw [List.nil_append] at h
  refine ⟨fun placement hplacement => ?_, ?_⟩
  · have hrank := h.ranks placement hplacement
    rwa [map_fst_assignAll] at hrank
  · rw [h.count, map_fst_assignAll]

end PortableSql.SlotMap
