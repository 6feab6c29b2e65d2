import PortableSql.Sql.ColumnIndex

/-!
# Positions of columns

What a `ColumnIndex` has read does not matter for what it finds, as long as it has read the names of
the columns or nothing. What it finds is the last column that has the name, whatever its letter case.
-/
namespace PortableSql

/-- The position of a column among these names: a position stands for itself, a name for the last
column that has it. -/
def columnPosition (names : List String) : Identifier → Result Nat
  | .position n => .ok n
  | .name name => ColumnIndex.search (names.map foldName) name

namespace ColumnIndex

variable {names : List String} {index : ColumnIndex}

/-- The index has read these names, or nothing yet. -/
def Reads (names : List String) (index : ColumnIndex) : Prop :=
  ∀ folded, index.folded? = some folded → folded = names.map foldName

@[simp] theorem reads_empty (names : List String) : empty.Reads names := nofun

/-- **Finding a column does not depend on what has been read.** -/
theorem find_of_reads (h : index.Reads names) (column : Identifier) :
    (index.find (m := Id) (.ok names) column).1 = columnPosition names column ∧
      (index.find (m := Id) (.ok names) column).2.Reads names := by
  cases column with
  | position n => exact ⟨rfl, h⟩
  | name name =>
    cases hfolded : index.folded? with
    | none =>
      simp only [find, hfolded]
      refine ⟨rfl, ?_⟩
      intro folded hread
      exact (Option.some.inj hread).symm
    | some folded =>
      simp only [find, hfolded]
      refine ⟨?_, h⟩
      rw [h folded hfolded]
      rfl

end ColumnIndex

/-! ## The last column of a name -/

/-- The column at the position has the name, whatever its letter case, and no later one has. -/
structure LastNamed (names : List String) (name : String) (position : Nat) : Prop where
  named : ∃ other, OneBased.get? names position = some other ∧ foldName other = foldName name
  last : ∀ later other, position < later → OneBased.get? names later = some other →
    foldName other ≠ foldName name

namespace ColumnIndex

theorem lastPosition?_eq_none_iff {key : String} {folded : List String} :
    lastPosition? key folded = none ↔ key ∉ folded := by
  induction folded with
  | nil => simp [lastPosition?]
  | cons name rest ih =>
    rw [lastPosition?, List.mem_cons, not_or, ← ih]
    cases lastPosition? key rest with
    | some n => simp
    | none => simp [eq_comm]

/-- What is found equals the key, and nothing behind it does. -/
theorem get?_of_lastPosition? {key : String} {folded : List String} {position : Nat}
    (h : lastPosition? key folded = some position) :
    OneBased.get? folded position = some key ∧
      ∀ later, position < later → OneBased.get? folded later ≠ some key := by
  induction folded generalizing position with
  | nil => cases h
  | cons name rest ih =>
    rw [lastPosition?] at h
    cases hrest : lastPosition? key rest with
    | some n =>
      -- one that is found behind the first name is one position further in the whole
      rw [hrest] at h
      obtain rfl : n + 1 = position := Option.some.inj h
      obtain ⟨hget, hlast⟩ := ih hrest
      obtain ⟨m, rfl⟩ : ∃ m, n = m + 1 := Nat.exists_eq_succ_of_ne_zero (by rintro rfl; cases hget)
      refine ⟨hget, fun later hlater => ?_⟩
      obtain ⟨k, rfl⟩ : ∃ k, later = k + 2 := ⟨later - 2, by omega⟩
      exact hlast (k + 1) (by omega)
    | none =>
      rw [hrest] at h
      dsimp only at h
      split at h
      · next hname =>
        obtain rfl : 1 = position := Option.some.inj h
        refine ⟨by rw [← hname]; rfl, fun later hlater hget => ?_⟩
        obtain ⟨k, rfl⟩ : ∃ k, later = k + 2 := ⟨later - 2, by omega⟩
        exact lastPosition?_eq_none_iff.1 hrest (List.mem_of_getElem? hget)
      · cases h

/-- **A name stands for the last column that has it, and for none if there is none.** -/
theorem search_cases (names : List String) (name : String) :
    (∃ position, LastNamed names name position ∧
      search (names.map foldName) name = .ok position) ∨
    (∀ other ∈ names, foldName other ≠ foldName name) ∧
      search (names.map foldName) name = .error (.columnNotFound name) := by
  rw [search]
  cases hfound : lastPosition? (foldName name) (names.map foldName) with
  | none =>
    refine .inr ⟨fun other hmem hfold => ?_, rfl⟩
    exact lastPosition?_eq_none_iff.1 hfound (List.mem_map.2 ⟨other, hmem, hfold⟩)
  | some position =>
    obtain ⟨hget, hlast⟩ := get?_of_lastPosition? hfound
    rw [OneBased.get?_map] at hget
    refine .inl ⟨position, ⟨Option.map_eq_some_iff.1 hget, ?_⟩, rfl⟩
    intro later other hlater hother hfold
    refine hlast later hlater ?_
    rw [OneBased.get?_map, hother, Option.map_some, hfold]

end ColumnIndex

end PortableSql
