import PortableSql.Proofs.Statement.Browsing

/-!
# Names of the present columns

The columns of a statement are those of the last call that brought any. What a statement has read of
their names, if anything, it has read since, so that a name always stands for a present column.

## Main definitions

* `Resolved` — what a name of a column has to stand for.
* `StatementInterface.lastNames?` — the names that a history has brought last.
* `StatementInterface.NamesCurrent` — the names stand for the columns brought last.
* `Browsing.KnowsColumns` — what a statement keeps for that, whatever the product.
-/
namespace PortableSql

/-! ## What a name stands for -/

/-- What is read by the name is read at the position of the last column that has it, or refused if no
column has it. -/
inductive Resolved {α : Type} (names : List String) (name : String) (read : Identifier → Result α) :
    Prop
  | last {position : Nat} (named : LastNamed names name position)
      (same : read (.name name) = read (.position position)) : Resolved names name read
  | missing (unnamed : ∀ other ∈ names, foldName other ≠ foldName name)
      (refused : read (.name name) = .error (.columnNotFound name)) : Resolved names name read

variable {α β : Type} {names : List String} {name : String}

theorem resolved_columnPosition (names : List String) (name : String) :
    Resolved names name (columnPosition names) := by
  rcases ColumnIndex.search_cases names name with ⟨position, hnamed, hfound⟩ | ⟨hunnamed, hmissing⟩
  · exact .last hnamed hfound
  · exact .missing hunnamed hmissing

section

variable {read : Identifier → Result α}

/-- What is made of a reading makes no difference, if errors stay as they are. -/
theorem Resolved.lift (h : Resolved names name read) (g : Result α → Result β)
    (hg : ∀ e, g (.error e) = .error e) : Resolved names name fun column => g (read column) := by
  cases h with
  | last named same => exact .last named (by rw [same])
  | missing unnamed refused => exact .missing unnamed (by rw [refused, hg])

theorem Resolved.bind (h : Resolved names name read) (f : α → Result β) :
    Resolved names name fun column => read column >>= f :=
  h.lift (· >>= f) fun _ => rfl

theorem Resolved.map (h : Resolved names name read) (f : α → β) :
    Resolved names name fun column => (read column).map f :=
  h.lift (Except.map f) fun _ => rfl

end

theorem LastNamed.exists_get? {position : Nat} (h : LastNamed names name position) {types : List α}
    (htypes : types.length = names.length) : ∃ type, OneBased.get? types position = some type := by
  obtain ⟨other, hother, -⟩ := h.named
  cases position with
  | zero => cases hother
  | succ n =>
    rw [OneBased.get?_succ] at hother ⊢
    obtain ⟨hlt, -⟩ := List.getElem?_eq_some_iff.1 hother
    exact ⟨types[n], List.getElem?_eq_getElem (htypes ▸ hlt)⟩

/-- What is made of a position and the column it was found for makes no difference either, if it is the
same for the position itself. -/
theorem resolved_columnPosition_bind {f : Identifier → Nat → Result β}
    (hf : ∀ position, LastNamed names name position →
      f (.name name) position = f (.position position) position) :
    Resolved names name fun column => columnPosition names column >>= f column := by
  cases resolved_columnPosition names name with
  | missing unnamed refused => exact .missing unnamed (by rw [refused]; rfl)
  | last named same => exact .last named (by rw [same]; exact hf _ named)

/-! ## The names that calls have brought -/

theorem StatementState.eq_fetching_of_checkHasData {state : StatementState}
    (h : state.checkHasData = .ok ()) : state = .fetching := by
  cases state <;> first | rfl | cases h

/-- The call was made as asked. -/
def StatementAnswer.succeeds : StatementAnswer → Bool
  | .done (.ok _) => true
  | _ => false

namespace StatementInterface

variable {σ S : Type} (api : StatementInterface σ S)
  (names? : S → σ → StatementCall → Option (List String))

/-- The names brought last, behind one more call; `names?` are those that it brings if it succeeds. -/
def namesBehind? (call : StatementCall) (s : S) (link : σ) (last? : Option (List String)) :
    Option (List String) :=
  if (api.perform call s link).1.succeeds then (names? s link call).or last? else last?

/-- The names that calls have brought last, or those of before if they have brought none. -/
def lastNames? : List StatementCall → S → σ → Option (List String) → Option (List String)
  | [], _, _, last? => last?
  | call :: rest, s, link, last? =>
    let (_, s', link') := api.perform call s link
    lastNames? rest s' link' (api.namesBehind? names? call s link last?)

/-- **What every call keeps holds behind a history**, of the names brought last and the statement. -/
theorem lastNames?_invariant {P : Option (List String) → S → Prop}
    (step : ∀ last? s link call, P last? s →
      P (api.namesBehind? names? call s link last?) (api.perform call s link).2.1)
    (calls : List StatementCall) (last? : Option (List String)) (s : S) (link : σ) (h : P last? s) :
    P (api.lastNames? names? calls s link last?) (api.history calls s link).2.1 := by
  -- the names move on with the statement, so both are generalized
  induction calls generalizing last? s link with
  | nil => exact h
  | cons call rest ih =>
    rw [lastNames?, history_cons]
    exact ih _ _ _ (step last? s link call h)

theorem namesBehind?_of_some {call : StatementCall} {s : S} {link : σ} {last? : Option (List String)}
    {names : List String} (hcall : (api.perform call s link).1.succeeds = true)
    (h : names? s link call = some names) :
    api.namesBehind? names? call s link last? = some names := by
  rw [namesBehind?, if_pos hcall, h, Option.some_or]

theorem namesBehind?_of_none {call : StatementCall} {s : S} {link : σ} {last? : Option (List String)}
    (h : names? s link call = none) : api.namesBehind? names? call s link last? = last? := by
  rw [namesBehind?, h, Option.none_or, ite_self]

/-- In every call that the state allows, a name stands for the last of the columns brought last that
has it. `locate` is where the product looks for columns, and `allowed` the states in which it tells
their types. -/
structure NamesCurrent (locate : Identifier → S → Result Nat × S)
    (allowed : StatementState → Result Unit) (last? : Option (List String)) (s : S) : Prop where
  column : allowed (api.state s) = .ok () → ∃ names, last? = some names ∧ ∀ name,
    Resolved names name (fun column => (locate column s).1) ∧
      Resolved names name fun column => (api.columnType column s).1
  row : (api.state s).checkHasData = .ok () → ∃ names, last? = some names ∧ ∀ name,
    Resolved names name (fun column => (locate column s).1) ∧
      (∀ kind, Resolved names name fun column => (api.getValue column kind s).1) ∧
      Resolved names name fun column => (api.isNull column s).1

end StatementInterface

/-! ## Statements that know their columns -/

namespace Browsing

variable {σ S R C P : Type} {api : StatementInterface σ S} {b : Browsing api R C P}
  {last? : Option (List String)} {s t : S} {call : StatementCall}

/-- The type of a column is the same under a name and at the position that the name stands for. -/
def TypesNamed (b : Browsing api R C P) (s : S) : Prop :=
  ∀ cursor name position, LastNamed (b.names s) name position →
    b.typeAt cursor (b.parts s).frame (.name name) position =
      b.typeAt cursor (b.parts s).frame (.position position) position

/-- If the state allows to ask for columns they are those brought last, and the index has read nothing
else. -/
structure KnowsColumns (b : Browsing api R C P) (last? : Option (List String)) (s : S) : Prop where
  last : b.allowed (api.state s) = .ok () → last? = some (b.names s)
  types : b.TypesNamed s
  columns : (b.parts s).columns.Reads (b.names s)

/-- A fetch is allowed only where columns may be asked for. -/
theorem Browsed.allowed (h : b.Browsed call s t) (hallowed : b.allowed (api.state t) = .ok ()) :
    b.allowed (api.state s) = .ok () := by
  rw [b.state_eq] at hallowed ⊢
  rw [h.cursor] at hallowed
  split at hallowed
  · rw [Cursor.fetch] at hallowed
    cases hcheck : (b.parts s).cursor.state.checkCanFetch with
    | error e =>
      rw [hcheck] at hallowed
      exact hallowed
    | ok _ => exact b.allowed_of_checkCanFetch hcheck
  · exact hallowed

/-- **A call between two executions keeps what the statement knows of its columns.** -/
theorem KnowsColumns.of_browsed (h : b.KnowsColumns last? s) (hbrowsed : b.Browsed call s t) :
    b.KnowsColumns last? t where
  last hallowed := by rw [hbrowsed.names, h.last (hbrowsed.allowed hallowed)]
  types := by
    rw [TypesNamed, hbrowsed.names, hbrowsed.frame]
    exact h.types
  columns := by
    rw [hbrowsed.names]
    exact hbrowsed.columns h.columns

/-- **A statement that knows its columns takes names for them.** -/
theorem KnowsColumns.namesCurrent (h : b.KnowsColumns last? s) :
    api.NamesCurrent b.locate b.allowed last? s := by
  have hlocate : ∀ name, Resolved (b.names s) name fun column => (b.locate column s).1 := by
    intro name
    simp only [locate_fst_of_reads h.columns]
    exact resolved_columnPosition _ _
  constructor
  · intro hallowed
    refine ⟨b.names s, h.last hallowed, fun name => ⟨hlocate name, ?_⟩⟩
    simp only [columnType_fst_of_reads h.columns, hallowed]
    exact resolved_columnPosition_bind fun position hnamed => h.types _ name position hnamed
  · intro hchecked
    have hallowed : b.allowed (api.state s) = .ok () := by
      rw [StatementState.eq_fetching_of_checkHasData hchecked]
      exact b.allowed_of_checkCanFetch rfl
    have hcell : ∀ name, Resolved (b.names s) name fun column => (b.currentCell column s).1 := by
      intro name
      simp only [currentCell_fst_of_reads h.columns, hchecked]
      exact (resolved_columnPosition _ _).bind _
    refine ⟨b.names s, h.last hallowed, fun name => ⟨hlocate name, fun kind => ?_, ?_⟩⟩
    · simp only [getValue_fst (b := b)]
      exact (hcell name).bind _
    · simp only [isNull_fst (b := b)]
      exact (hcell name).map _

/-- **Names stand for the present columns behind every history**, if every call keeps what the
statement knows of them. -/
theorem namesCurrent_history {names? : S → σ → StatementCall → Option (List String)}
    (step : ∀ last? s link call, b.KnowsColumns last? s →
      b.KnowsColumns (api.namesBehind? names? call s link last?) (api.perform call s link).2.1)
    (start : b.KnowsColumns none s) (calls : List StatementCall) (link : σ) :
    api.NamesCurrent b.locate b.allowed (api.lastNames? names? calls s link none)
      (api.history calls s link).2.1 :=
  (api.lastNames?_invariant names? step calls none s link start).namesCurrent

end Browsing

end PortableSql
