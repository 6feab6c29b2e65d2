import Mathlib.Data.Nat.Find
import PortableSql.Proofs.Result
import PortableSql.Proofs.Sql.Identifier
import PortableSql.Proofs.Sqlite.ParameterTable
import PortableSql.Proofs.Statement.Parameters
import PortableSql.Sqlite.Handle

/-!
# Parameters of a SQLite statement

A statement has a stored form for each of its parameters. What is set by a name goes to one of them:
the parameter of that very name, or else the first whose name differs from it in the case of ASCII
letters only. Where a text spells a name in several ways, the other spellings keep what they had.
-/
namespace PortableSql.Sqlite

/-! ## The parameter that a name is looked up as -/

theorem foldAscii_eq_iff {a b : String} :
    foldAscii a = foldAscii b ↔ Identifier.sameAscii a b = true := by
  rw [foldAscii, foldAscii, String.ofList_inj, Identifier.sameAscii, beq_iff_eq]

namespace ParameterTable

/-- The parameter has a name, and it is the same as the given one. -/
def Answers (table : ParameterTable) (q : String) (n : Nat) : Prop :=
  ∃ name, table.name? n = some name ∧ (Identifier.name name).same (.name q) = true

/-- The parameter has a name that differs from the given one at most in the case of ASCII letters. -/
def AnswersAscii (table : ParameterTable) (q : String) (n : Nat) : Prop :=
  ∃ name, table.name? n = some name ∧ Identifier.sameAscii name q = true

/-- The parameter is the one of that very name or, if there is none, the first that has the name but
for the case of ASCII letters. -/
def Nearest (table : ParameterTable) (q : String) (n : Nat) : Prop :=
  table.number? q = some n ∨
    table.number? q = none ∧ table.AnswersAscii q n ∧ ∀ m < n, ¬ table.AnswersAscii q m

variable {table : ParameterTable} {q : String} {n : Nat}

theorem AnswersAscii.answers (h : table.AnswersAscii q n) : table.Answers q n := by
  obtain ⟨name, hname, hsame⟩ := h
  exact ⟨name, hname, by simp [Identifier.same, hsame]⟩

theorem WellNumbered.answersAscii_of_nearest (htable : table.WellNumbered)
    (h : table.Nearest q n) : table.AnswersAscii q n := by
  obtain hexact | ⟨-, hfirst, -⟩ := h
  · exact ⟨q, htable.name?_of_mem (mem_of_number? hexact), beq_self_eq_true _⟩
  · exact hfirst

theorem WellNumbered.inRange_of_answersAscii (htable : table.WellNumbered)
    (h : table.AnswersAscii q n) : 1 ≤ n ∧ n ≤ table.count := by
  obtain ⟨name, hname, -⟩ := h
  exact htable.counted _ (mem_of_name? hname)

theorem exists_nearest (h : table.AnswersAscii q n) : ∃ m, table.Nearest q m := by
  cases hexact : table.number? q with
  | some m => exact ⟨m, .inl hexact⟩
  | none =>
    classical
    exact ⟨Nat.find ⟨n, h⟩, .inr ⟨hexact, Nat.find_spec ⟨n, h⟩, fun m => Nat.find_min ⟨n, h⟩⟩⟩

/-- The parameters are searched in the order of their numbers. -/
theorem numberOfName?_eq (table : ParameterTable) (q : String) :
    Compiled.numberOfName? table q =
      (table.number? q).or (((List.range table.count).find? fun index =>
        (table.name? (index + 1)).any fun name => Identifier.sameAscii name q).map (· + 1)) := by
  rw [Compiled.numberOfName?, Option.orElse_eq_orElse, Option.orElse_eq_or,
    List.find?_eq_findSome?_guard, List.map_findSome?]
  congr 2
  funext index
  cases hname : table.name? (index + 1) with
  | none => simp [hname, Option.guard]
  | some name =>
    by_cases hsame : Identifier.sameAscii name q = true <;>
      simp [hname, hsame, Option.guard, foldAscii_eq_iff]

theorem answersAscii_succ_iff (index : Nat) :
    (table.name? (index + 1)).any (fun name => Identifier.sameAscii name q) = true ↔
      table.AnswersAscii q (index + 1) := by
  rw [Option.any_eq_true]
  rfl

namespace WellNumbered

/-- **A name is looked up as its nearest parameter.** -/
theorem numberOfName?_eq_some_iff (htable : table.WellNumbered) :
    Compiled.numberOfName? table q = some n ↔ table.Nearest q n := by
  rw [numberOfName?_eq, Option.or_eq_some_iff, Option.map_eq_some_iff]
  refine or_congr_right (and_congr_right fun _ => ?_)
  constructor
  · rintro ⟨index, hfind, rfl⟩
    obtain ⟨hfirst, -, hbefore⟩ := List.find?_range_eq_some.1 hfind
    refine ⟨(answersAscii_succ_iff index).1 hfirst, fun m hm hanswers => ?_⟩
    obtain ⟨k, rfl⟩ := Nat.exists_eq_add_one.2 (htable.inRange_of_answersAscii hanswers).1
    have hnot := hbefore k (by omega)
    rw [(answersAscii_succ_iff k).2 hanswers] at hnot
    cases hnot
  · rintro ⟨hfirst, hbefore⟩
    obtain ⟨hpos, hle⟩ := htable.inRange_of_answersAscii hfirst
    obtain ⟨index, rfl⟩ := Nat.exists_eq_add_one.2 hpos
    refine ⟨index, List.find?_range_eq_some.2 ⟨(answersAscii_succ_iff index).2 hfirst,
      List.mem_range.2 hle, fun k hk => ?_⟩, rfl⟩
    rw [Bool.not_eq_true', Bool.eq_false_iff, Ne, answersAscii_succ_iff]
    exact hbefore (k + 1) (by omega)

end WellNumbered

end ParameterTable

/-! ## What has been compiled -/

/-- The stored form of a value or of NULL. -/
def storedOf (value? : Option Value) : Result Stored :=
  value?.elim (pure .null) encode

namespace Compiled

/-- What the parameter of a number holds. -/
def held? (c : Compiled) (n : Nat) : Option Stored :=
  OneBased.get? c.bindings n

/-- The parameters are well numbered, and each holds something. -/
structure WellBound (c : Compiled) : Prop where
  numbered : c.parameters.WellNumbered
  length : c.bindings.length = c.parameters.count

variable {c c' : Compiled} {q : String} {n : Nat} {stored : Stored}

theorem wellBound_of_ofSql {db : Database} {sql : String} (h : ofSql db sql = .ok c) :
    c.WellBound := by
  rw [ofSql] at h
  split at h
  · cases h
  · rename_i command parameters hread
    split at h
    · cases h
      exact ⟨wellNumbered_of_read? hread, List.length_replicate⟩
    · cases h

theorem bind_eq_ok_iff :
    c.bind n stored = .ok c' ↔
      ∃ bindings, OneBased.set? c.bindings n stored = some bindings ∧
        c' = { c with bindings := bindings } := by
  rw [Compiled.bind]
  cases OneBased.set? c.bindings n stored <;> simp [eq_comm]

/-- What has been compiled, with the stored form of a value bound to a parameter. -/
def set (param : Identifier) (value? : Option Value) (c : Compiled) : Result Compiled := do
  let n ← c.locate param
  let stored ← storedOf value?
  c.bind n stored

theorem set_eq_ok_iff {param : Identifier} {value? : Option Value} :
    c.set param value? = .ok c' ↔
      ∃ n stored, c.locate param = .ok n ∧ storedOf value? = .ok stored ∧
        c.bind n stored = .ok c' := by
  simp only [Compiled.set, Result.bind_eq_ok_iff, ← exists_and_left]

theorem WellBound.set {param : Identifier} {value? : Option Value} (h : c.WellBound)
    (hset : c.set param value? = .ok c') : c'.WellBound := by
  obtain ⟨n, stored, -, -, hbind⟩ := set_eq_ok_iff.1 hset
  obtain ⟨bindings, hbindings, rfl⟩ := bind_eq_ok_iff.1 hbind
  exact ⟨h.numbered, (OneBased.length_of_set? hbindings).trans h.length⟩

theorem WellBound.exists_bind (h : c.WellBound) (hn : 1 ≤ n ∧ n ≤ c.parameters.count)
    (stored : Stored) : ∃ c', c.bind n stored = .ok c' := by
  rw [← h.length] at hn
  obtain ⟨bindings, hset, -⟩ := OneBased.exists_set?_of_mem hn stored
  exact ⟨_, bind_eq_ok_iff.2 ⟨bindings, hset, rfl⟩⟩

/-- The parameter holds the new form, and the others what they held. -/
theorem held?_of_bind (h : c.bind n stored = .ok c') (m : Nat) :
    c'.held? m = if m = n then some stored else c.held? m := by
  obtain ⟨bindings, hset, rfl⟩ := bind_eq_ok_iff.1 h
  exact OneBased.get?_of_set? hset m

/-- All of some parameters hold the new form exactly if those with other numbers held it already. -/
theorem forall_held?_of_bind_iff (h : c.bind n stored = .ok c') (among : Nat → Prop) :
    (∀ m, among m → c'.held? m = some stored) ↔
      ∀ m, among m → m ≠ n → c.held? m = some stored := by
  simp only [held?_of_bind h]
  refine forall₂_congr fun m _ => ?_
  by_cases hm : m = n <;> simp [hm]

theorem WellBound.locate_name_eq_ok_iff (h : c.WellBound) :
    c.locate (.name q) = .ok n ↔ '\x00' ∉ q.toList ∧ c.parameters.Nearest q n := by
  rw [← h.numbered.numberOfName?_eq_some_iff, locate]
  by_cases hnul : '\x00' ∈ q.toList
  · simp [hnul]
  · cases numberOfName? c.parameters q <;> simp [hnul]

/-- A value can be set by a name of which some parameter has the letters. -/
theorem WellBound.exists_set_name_iff (h : c.WellBound) {value? : Option Value} :
    (∃ c', c.set (.name q) value? = .ok c') ↔
      '\x00' ∉ q.toList ∧ (∃ stored, storedOf value? = .ok stored) ∧
        ∃ n, c.parameters.AnswersAscii q n := by
  constructor
  · rintro ⟨c', hset⟩
    obtain ⟨n, stored, hn, hstored, -⟩ := set_eq_ok_iff.1 hset
    obtain ⟨hnul, hnearest⟩ := h.locate_name_eq_ok_iff.1 hn
    exact ⟨hnul, ⟨stored, hstored⟩, n, h.numbered.answersAscii_of_nearest hnearest⟩
  · rintro ⟨hnul, ⟨stored, hstored⟩, n, hanswers⟩
    -- the parameter that is found need not be the one that is given
    obtain ⟨m, hnearest⟩ := ParameterTable.exists_nearest hanswers
    have hrange := h.numbered.inRange_of_answersAscii (h.numbered.answersAscii_of_nearest hnearest)
    obtain ⟨c', hbind⟩ := h.exists_bind hrange stored
    have hlocate := h.locate_name_eq_ok_iff.2 ⟨hnul, hnearest⟩
    exact ⟨c', set_eq_ok_iff.2 ⟨m, stored, hlocate, hstored, hbind⟩⟩

end Compiled

/-- A value in a cell; nothing for NULL. -/
def valueOf (kind : ValueKind) (cell : Stored) : Result (Option Value) :=
  if cell.isNull then .ok none else (decode cell kind).map some

namespace Statement

/-- What has been compiled is well bound, and then the statement has begun. -/
def WellBound (s : Statement) : Prop :=
  ∀ c, s.compiled? = some c → c.WellBound ∧ s.state ≠ .undefined

variable {s t : Statement} {q : String} {value? : Option Value}

theorem wellBound_of_none (h : s.compiled? = none) : s.WellBound := by
  intro c hc
  rw [h] at hc
  cases hc

theorem requireCompiled_eq_ok_iff {c : Compiled} :
    s.requireCompiled = .ok c ↔ s.compiled? = some c := by
  rw [requireCompiled]
  cases s.compiled? <;> simp

/-- **A value is bound, or nothing is changed.** -/
theorem setValue_cases (param : Identifier) (value? : Option Value) (s : Statement) :
    (∃ e, s.setValue param value? = (.error e, s)) ∨
      ∃ c c', s.compiled? = some c ∧ c.set param value? = .ok c' ∧
        s.setValue param value? = (.ok (), { s with compiled? := some c' }) := by
  rw [setValue]
  split
  · exact .inl ⟨_, rfl⟩
  · rename_i n stored hprepared
    obtain ⟨-, -, hprepared⟩ := Result.bind_eq_ok_iff.1 hprepared
    obtain ⟨c, hc, hprepared⟩ := Result.bind_eq_ok_iff.1 hprepared
    obtain ⟨n', hn, hprepared⟩ := Result.bind_eq_ok_iff.1 hprepared
    obtain ⟨stored', hstored, hprepared⟩ := Result.bind_eq_ok_iff.1 hprepared
    cases hprepared
    rw [Statement.bind, hc]
    cases hbind : c.bind n stored with
    | error e => exact .inl ⟨e, by simp [Bind.bind, Except.bind, hbind]⟩
    | ok c' =>
      refine .inr ⟨c, c', requireCompiled_eq_ok_iff.1 hc, ?_, by simp [Bind.bind, Except.bind, hbind]⟩
      exact Compiled.set_eq_ok_iff.2 ⟨n, stored, hn, hstored, hbind⟩

/-! ## Between two executions -/

/-- The parts that change, and the statement without them. -/
def parts (s : Statement) : StatementParts (List Stored) (Option Compiled) Statement where
  cursor := ⟨s.rows, s.current?, s.state⟩
  columns := s.columns
  params := s.compiled?
  frame := { s with
    rows := [], current? := none, state := .undefined, columns := .empty, compiled? := none }

/-- The statement on a row, or on none. -/
def withCursor (s : Statement) (cursor : Cursor (List Stored)) : Statement :=
  { s with rows := cursor.rows, current? := cursor.current?, state := cursor.state }

theorem columnType_eq_lookUp (column : Identifier) (s : Statement) :
    s.columnType column =
      lookUp s.state.checkPrepared (locate column) (fun t position => .ok (t.typeAt position)) s := by
  grind [columnType, lookUp]

theorem currentCell_eq_lookUp (column : Identifier) (s : Statement) :
    s.currentCell column =
      lookUp s.state.checkHasData (locate column) (fun t position => t.cell position) s := by
  grind [currentCell, lookUp]

/-- How statements work between two executions. What they keep of a text with its parameters is what
has been compiled. -/
def browsing : Browsing Handle.statements (List Stored) Stored (Option Compiled) where
  parts := parts
  withParams s compiled? := { s with compiled? := compiled? }
  names s := s.headings.map Heading.name
  locate := locate
  currentCell := currentCell
  allowed := StatementState.checkPrepared
  typeAt cursor s _ position := .ok ((s.withCursor cursor).typeAt position)
  cellAt row? position := cell position { new with current? := row? }
  valueOf _ := valueOf
  isNullCell := Stored.isNull
  state_eq _ := rfl
  names_frame _ := rfl
  parts_withParams _ _ := rfl
  withParams_params _ := rfl
  allowed_of_checkCanFetch := @StatementState.checkPrepared_of_checkCanFetch
  fetch_eq s := by
    change s.fetch.map id parts = (parts s).cursor.fetch.map id _
    rw [fetch, Cursor.fetch]
    cases hcheck : s.state.checkCanFetch <;> simp [parts, hcheck]
  locate_eq _ _ := rfl
  columnType_eq := columnType_eq_lookUp
  currentCell_eq := currentCell_eq_lookUp
  getValue_eq column kind s := by
    change s.getValue column kind = _
    rw [getValue]
    rcases s.currentCell column with ⟨e | cell, t⟩
    · rfl
    · dsimp only
      split <;> rename_i hnull <;> simp [Bind.bind, Except.bind, valueOf, hnull]
  isNull_eq column s := by
    change s.isNull column = _
    rw [isNull]
    rcases s.currentCell column with ⟨e | cell, t⟩ <;> rfl
  setValue_snd param value? s := by
    change ∃ compiled?, (s.setValue param value?).2 = { s with compiled? := compiled? }
    obtain ⟨e, hset⟩ | ⟨c, c', -, -, hset⟩ := setValue_cases param value? s
    · exact ⟨s.compiled?, by rw [hset]⟩
    · exact ⟨some c', by rw [hset]⟩

theorem WellBound.of_sameText (h : s.WellBound) (hst : browsing.SameText (fun _ => ()) s t) :
    t.WellBound := by
  intro c hc
  obtain ⟨hbound, hbegun⟩ := h c (hst.params.symm.trans hc)
  exact ⟨hbound, hst.begun hbegun⟩

theorem sameText_perform (c : Compiled) (s : Statement) (e : Engine) :
    browsing.SameText (fun _ => ()) s (s.perform c e).2.1 := by
  rw [Statement.perform]
  rcases e.run c.bindings c.command with ⟨_ | rows, e'⟩
  · exact .refl s
  · exact ⟨rfl, rfl, fun _ => StatementState.ne_undefined_of_checkPrepared rfl⟩

theorem keepsText : browsing.KeepsText fun _ => () where
  frame _ := rfl
  run s handle := by
    have hdiscard : browsing.SameText (fun _ => ()) s s.discardRows := ⟨rfl, rfl, id⟩
    change browsing.SameText (fun _ => ()) s (s.run handle.engine).2.1
    rw [run]
    split
    · exact .refl s
    · dsimp only
      split
      · exact hdiscard
      · exact hdiscard.trans (sameText_perform _ _ handle.engine)

/-! ## Behind a history -/

theorem wellBound_prepare (sql : String) (native : Bool) (e : Engine) :
    (prepare sql native e).2.1.WellBound := by
  rw [prepare, compile]
  cases hcompiled : Compiled.ofSql e.database
    (renderSql dialect ⟨native, dialect.coalescing⟩ sql).sql with
  | error error => exact wellBound_of_none rfl
  | ok c =>
    intro c' hc
    cases hc
    exact ⟨Compiled.wellBound_of_ofSql hcompiled, StatementState.ne_undefined_of_checkPrepared rfl⟩

theorem wellBound_execute (sql : String) (e : Engine) : (execute sql e).2.1.WellBound := by
  rw [execute, compile]
  cases Compiled.ofSql e.database (renderSql dialect ⟨true, dialect.coalescing⟩ sql).sql with
  | error error => exact wellBound_of_none rfl
  | ok c => exact (wellBound_of_none rfl).of_sameText (sameText_perform c _ e)

theorem setValue_of_set {c c' : Compiled} {param : Identifier} (hbegun : s.state ≠ .undefined)
    (hc : s.compiled? = some c) (hset : c.set param value? = .ok c') :
    s.setValue param value? = (.ok (), { s with compiled? := some c' }) := by
  obtain ⟨n, stored, hn, hstored, hbind⟩ := Compiled.set_eq_ok_iff.1 hset
  rw [storedOf] at hstored
  have hrequire := requireCompiled_eq_ok_iff.2 hc
  have hbound : s.bind n stored = (.ok (), { s with compiled? := some c' }) := by
    rw [Statement.bind, hrequire]
    simp [Bind.bind, Except.bind, hbind]
  simp only [setValue, StatementState.checkPrepared_of_ne hbegun, hrequire, hn, hstored, Bind.bind,
    Except.bind]
  exact hbound

/-- What succeeds for what has been compiled succeeds for the statement. -/
theorem WellBound.setValue_fst_eq_ok_iff (h : s.WellBound) (param : Identifier) :
    (s.setValue param value?).1 = .ok () ↔
      ∃ c, s.compiled? = some c ∧ ∃ c', c.set param value? = .ok c' := by
  constructor
  · intro hok
    obtain ⟨e, hperform⟩ | ⟨c, c', hc, hset, -⟩ := setValue_cases param value? s
    · rw [hperform] at hok
      cases hok
    · exact ⟨c, hc, c', hset⟩
  · rintro ⟨c, hc, c', hset⟩
    rw [setValue_of_set (h c hc).2 hc hset]

theorem WellBound.perform (h : s.WellBound) (call : StatementCall) (handle : Handle) :
    (Handle.statements.perform call s handle).2.1.WellBound := by
  cases call with
  | prepare sql native => exact wellBound_prepare sql native handle.engine
  | execute sql => exact wellBound_execute sql handle.engine
  | setValue param value? =>
    obtain ⟨e, hperform⟩ | ⟨c, c', hc, hset, hperform⟩ := setValue_cases param value? s
    · rw [Handle.statements.perform_setValue hperform handle]
      exact h
    · rw [Handle.statements.perform_setValue hperform handle]
      obtain ⟨hbound, hbegun⟩ := h c hc
      intro d hd
      cases hd
      exact ⟨hbound.set hset, hbegun⟩
  | _ =>
    refine h.of_sameText (keepsText.perform ?_ ?_ s handle)
    · rfl
    · exact nofun

/-- **Every history keeps something in each parameter.** -/
theorem WellBound.history (h : s.WellBound) (calls : List StatementCall) (handle : Handle) :
    (Handle.statements.history calls s handle).2.1.WellBound :=
  Handle.statements.history_invariant (P := fun _ s _ => s.WellBound)
    (fun _ _ handle call _ h => h.perform call handle) calls (fun _ _ => trivial) [] s handle h

theorem wellBound_new : new.WellBound := wellBound_of_none rfl

/-- **A name reaches one parameter.** Behind any history a value is set by a name exactly if the name
has no NUL, the value has a stored form and some parameter has the name but for the case of ASCII
letters. Then the value is bound to the nearest parameter, which the name equals, and every other one
holds what it held. So all parameters that the name equals hold the value exactly if the others held it
before. -/
theorem name_reaches_one {start : Statement} (hstart : start.WellBound) (calls : List StatementCall)
    (handle : Handle) (q : String) (value? : Option Value) :
    let s := (Handle.statements.history calls start handle).2.1
    ((s.setValue (.name q) value?).1 = .ok () ↔
      '\x00' ∉ q.toList ∧ (∃ stored, storedOf value? = .ok stored) ∧
        ∃ c n, s.compiled? = some c ∧ c.parameters.AnswersAscii q n) ∧
    ∀ t, s.setValue (.name q) value? = (.ok (), t) →
      ∃ (c c' : Compiled) (n : Nat) (stored : Stored),
        s.compiled? = some c ∧ storedOf value? = .ok stored ∧
        c.parameters.Nearest q n ∧ c.parameters.Answers q n ∧
        t = { s with compiled? := some c' } ∧
        c'.command = c.command ∧ c'.parameters = c.parameters ∧
        (∀ m, c'.held? m = if m = n then some stored else c.held? m) ∧
        ((∀ m, c.parameters.Answers q m → c'.held? m = some stored) ↔
          ∀ m, c.parameters.Answers q m → m ≠ n → c.held? m = some stored) := by
  intro s
  have hs : s.WellBound := hstart.history calls handle
  constructor
  · rw [hs.setValue_fst_eq_ok_iff]
    constructor
    · rintro ⟨c, hc, hset⟩
      obtain ⟨hnul, hstored, n, hanswers⟩ := (hs c hc).1.exists_set_name_iff.1 hset
      exact ⟨hnul, hstored, c, n, hc, hanswers⟩
    · rintro ⟨hnul, hstored, c, n, hc, hanswers⟩
      exact ⟨c, hc, (hs c hc).1.exists_set_name_iff.2 ⟨hnul, hstored, n, hanswers⟩⟩
  · intro t ht
    obtain ⟨e, hperform⟩ | ⟨c, c', hc, hset, hperform⟩ := setValue_cases (.name q) value? s
    · rw [hperform] at ht
      cases ht
    · rw [hperform] at ht
      cases ht
      have hbound := (hs c hc).1
      obtain ⟨n, stored, hn, hstored, hbind⟩ := Compiled.set_eq_ok_iff.1 hset
      have hnearest := (hbound.locate_name_eq_ok_iff.1 hn).2
      obtain ⟨bindings, -, rfl⟩ := Compiled.bind_eq_ok_iff.1 hbind
      exact ⟨c, _, n, stored, hc, hstored, hnearest,
        (hbound.numbered.answersAscii_of_nearest hnearest).answers, rfl, rfl, rfl,
        Compiled.held?_of_bind hbind, Compiled.forall_held?_of_bind_iff hbind _⟩

/-- Where `:A` holds a value, setting `:a` to this value too makes all parameters of that name hold
it. -/
theorem name_reaches_one_of_two :
    let calls : List StatementCall := [.prepare "select :a as x, :A as y" false,
      .setValue (.name ":A") (some (.int32 7))]
    let handle : Handle := ⟨.new Options.memoryPath, .ofDatabase []⟩
    let set := (Handle.statements.history calls .new handle).2.1.setValue (.name ":a") (some (.int32 7))
    new.WellBound ∧ set.1 = .ok () ∧
      ∃ c, set.2.compiled? = some c ∧ c.parameters = ⟨2, [(":a", 1), (":A", 2)]⟩ ∧
        ∀ m, c.parameters.Answers ":a" m → c.held? m = some (.integer 7) := by
  intro calls handle set
  have hok : set.1 = .ok () := by decide +kernel
  have hbefore : (Handle.statements.history calls .new handle).2.1.compiled?.map
      (fun c => (c.parameters, c.bindings)) =
        some (⟨2, [(":a", 1), (":A", 2)]⟩, [.null, .integer 7]) := by decide +kernel
  have hstored : storedOf (some (.int32 7)) = .ok (.integer 7) := by decide +kernel
  obtain ⟨c, c', n, stored, hc, hvalue, hnearest, -, ht, -, hparameters, -, hall⟩ :=
    (name_reaches_one wellBound_new calls handle ":a" (some (.int32 7))).2 set.2 (Prod.ext hok rfl)
  rw [hc] at hbefore
  obtain ⟨htable, hbindings⟩ := Prod.mk.inj (Option.some.inj hbefore)
  obtain rfl : stored = .integer 7 := Except.ok.inj (hvalue.symm.trans hstored)
  have hfirst : n = 1 := by
    rw [htable] at hnearest
    obtain hexact | ⟨hnone, -⟩ := hnearest
    · exact (Option.some.inj hexact).symm
    · cases hnone
  refine ⟨wellBound_new, hok, c', congrArg compiled? ht, hparameters.trans htable, ?_⟩
  rw [hparameters]
  refine hall.2 fun m ⟨name, hname, _⟩ hm => ?_
  have hmem := ParameterTable.mem_of_name? hname
  rw [htable] at hmem
  obtain rfl : m = 2 := by
    simp only [List.mem_cons, Prod.mk.injEq, List.not_mem_nil, or_false] at hmem
    omega
  rw [Compiled.held?, hbindings]
  rfl

/-- What is set by a name is held by every parameter that the name equals. -/
def NamesReachAll : Prop :=
  ∀ (calls : List StatementCall) (handle : Handle) (q : String) (value? : Option Value)
    (t : Statement) (c : Compiled) (stored : Stored),
    (Handle.statements.history calls .new handle).2.1.setValue (.name q) value? = (.ok (), t) →
    t.compiled? = some c → storedOf value? = .ok stored →
    ∀ n, c.parameters.Answers q n → c.held? n = some stored

/-- In a text with `:a` and `:A`, what is set by the name of the first is not held by the second. -/
theorem second_spelling_not_reached : ¬ NamesReachAll := by
  intro hreach
  let calls : List StatementCall := [.prepare "select :a as x, :A as y" false]
  let handle : Handle := ⟨.new Options.memoryPath, .ofDatabase []⟩
  let set := (Handle.statements.history calls .new handle).2.1.setValue (.name ":a") (some (.int32 7))
  have hok : set.1 = .ok () := by decide +kernel
  have hcompiled : set.2.compiled?.map (fun c => (c.parameters, c.bindings)) =
      some (⟨2, [(":a", 1), (":A", 2)]⟩, [.integer 7, .null]) := by decide +kernel
  obtain ⟨c, hc, hboth⟩ := Option.map_eq_some_iff.1 hcompiled
  obtain ⟨hparameters, hbindings⟩ := Prod.mk.inj hboth
  have hanswers : c.parameters.Answers ":a" 2 := by
    rw [hparameters]
    exact ⟨":A", rfl, by decide +kernel⟩
  have hheld := hreach calls handle ":a" (some (.int32 7)) set.2 c (.integer 7) (Prod.ext hok rfl) hc
    (by decide +kernel) 2 hanswers
  rw [Compiled.held?, hbindings] at hheld
  cases hheld

end Statement

end PortableSql.Sqlite
