import PortableSql.Proofs.Statement.History

/-!
# Comparing two histories

Two statements on the same link are told apart by calling the same operations on both. A view that
keeps all that the answers depend on, and that every call maps to a view again, shows that they cannot
be.

## Main definitions

* `StatementInterface.Indistinguishable` — no history of calls tells two statements apart.
* `StatementInterface.indistinguishable_of_view` — the induction over the calls, for any product.
-/
namespace PortableSql

/-- An outcome with a view of the statement in it. -/
def viewed {α S V σ : Type} (view : S → V) (outcome : α × S × σ) : α × V × σ :=
  (outcome.1, view outcome.2.1, outcome.2.2)

theorem viewed_eq_iff {α S V σ : Type} {view : S → V} {p q : α × S × σ} :
    viewed view p = viewed view q ↔ p.1 = q.1 ∧ view p.2.1 = view q.2.1 ∧ p.2.2 = q.2.2 := by
  simp [viewed]

namespace StatementInterface

variable {σ S V : Type} (api : StatementInterface σ S)

/-- No history of calls tells the statements apart: the answers are the same, the link is left the
same, and so are the state of the statement, its text and the kind of that text. -/
def Indistinguishable (s t : S) (link : σ) : Prop :=
  ∀ calls : List StatementCall,
    let left := api.history calls s link
    let right := api.history calls t link
    left.1 = right.1 ∧ left.2.2 = right.2.2 ∧
      api.state left.2.1 = api.state right.2.1 ∧
      api.lastSql? left.2.1 = api.lastSql? right.2.1 ∧
      api.statementType left.2.1 = api.statementType right.2.1

/-- What every call makes the same of two statements that look the same, a history does. -/
theorem viewed_history {view : S → V}
    (step : ∀ call s t link, view s = view t →
      viewed view (api.perform call s link) = viewed view (api.perform call t link))
    (calls : List StatementCall) (s t : S) (link : σ) (h : view s = view t) :
    viewed view (api.history calls s link) = viewed view (api.history calls t link) := by
  induction calls generalizing s t link with
  | nil => simp [history, viewed, h]
  | cons call rest ih =>
    obtain ⟨hanswer, hview, hlink⟩ := viewed_eq_iff.1 (step call s t link h)
    obtain ⟨hevents, hrest, hdone⟩ := viewed_eq_iff.1
      (ih (api.perform call s link).2.1 (api.perform call t link).2.1
        (api.perform call s link).2.2 hview)
    rw [hlink] at hevents hrest hdone
    rw [viewed_eq_iff, history_cons, history_cons]
    refine ⟨?_, ?_, ?_⟩
    · simp only [hanswer, hlink, hevents]
    · simpa only [hlink] using hrest
    · simpa only [hlink] using hdone

/-- **Statements that look the same cannot be told apart**, if a call makes the same of statements
that look the same, and the look shows the state and the text. -/
theorem indistinguishable_of_view (view : S → V)
    (step : ∀ call s t link, view s = view t →
      viewed view (api.perform call s link) = viewed view (api.perform call t link))
    (state : ∀ s t, view s = view t → api.state s = api.state t)
    (lastSql : ∀ s t, view s = view t → api.lastSql? s = api.lastSql? t)
    {s t : S} (h : view s = view t) (link : σ) : api.Indistinguishable s t link := by
  intro calls
  obtain ⟨hevents, hview, hlink⟩ := viewed_eq_iff.1 (api.viewed_history step calls s t link h)
  have hstate := state _ _ hview
  have htext := lastSql _ _ hview
  refine ⟨hevents, hlink, hstate, htext, ?_⟩
  rw [statementType, statementType, hstate, htext]

end StatementInterface

end PortableSql
