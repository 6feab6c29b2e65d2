import PortableSql.Error

/-!
# Results of operations in sequence

An operation that is made of others succeeds if they do, one after the other, and fails with the error
of the first one that fails. What it gives, if it succeeds, is settled by the last of them.
-/
namespace PortableSql.Result

variable {α β : Type} {r : Result α} {e : Error}

theorem map_eq_ok_iff {f : α → β} {b : β} : r.map f = .ok b ↔ ∃ a, r = .ok a ∧ f a = b := by
  cases r <;> simp [Except.map]

theorem map_eq_error_iff {f : α → β} : r.map f = .error e ↔ r = .error e := by
  cases r <;> simp [Except.map]

theorem bind_eq_ok_iff {f : α → Result β} {b : β} :
    r >>= f = .ok b ↔ ∃ a, r = .ok a ∧ f a = .ok b := by
  cases r <;> simp [bind, Except.bind]

theorem bind_eq_error_iff {f : α → Result β} :
    r >>= f = .error e ↔ r = .error e ∨ ∃ a, r = .ok a ∧ f a = .error e := by
  cases r <;> simp [bind, Except.bind]

/-- If the operation succeeds, its result has the property. -/
structure Ensures (r : Result α) (P : α → Prop) : Prop where
  holds : ∀ a, r = .ok a → P a

namespace Ensures

variable {P : β → Prop}

theorem ok {b : β} (h : P b) : Ensures (.ok b) P := by
  constructor
  rintro _ ⟨⟩
  exact h

theorem error : Ensures (.error e) P :=
  ⟨nofun⟩

/-- What is made of a result has a property because the result has one. -/
theorem map_of {Q : α → Prop} {f : α → β} (hr : Ensures r Q) (h : ∀ a, Q a → P (f a)) :
    Ensures (r.map f) P := by
  constructor
  intro b hb
  obtain ⟨a, ha, rfl⟩ := map_eq_ok_iff.1 hb
  exact h a (hr.holds a ha)

theorem map {f : α → β} (h : ∀ a, P (f a)) : Ensures (r.map f) P := by
  have hr : Ensures r fun _ => True := ⟨fun _ _ => trivial⟩
  exact hr.map_of fun a _ => h a

theorem map_some {r : Result β} (h : Ensures r P) :
    Ensures (r.map some) fun b? => ∀ b ∈ b?, P b := by
  refine .map_of h fun b hb other hother => ?_
  cases hother
  exact hb

theorem bind {f : α → Result β} (h : ∀ a, Ensures (f a) P) : Ensures (r >>= f) P := by
  constructor
  intro b hb
  obtain ⟨a, -, ha⟩ := bind_eq_ok_iff.1 hb
  exact (h a).holds b ha

end Ensures

end PortableSql.Result
