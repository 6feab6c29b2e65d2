import PortableSql.Sqlite.Parser

/-!
# How parameters are numbered

A command is read with a table of the parameters met so far. Every name in it has a number of its own,
none beyond the largest, and whatever is read on leaves it so, also where reading goes back and tries
something else.
-/
namespace PortableSql.Sqlite

/-- Names have numbers from one to the largest one, and different names have different numbers. -/
structure ParameterTable.WellNumbered (table : ParameterTable) : Prop where
  counted : ∀ entry ∈ table.names, 1 ≤ entry.2 ∧ entry.2 ≤ table.count
  distinct : ∀ entry ∈ table.names, ∀ other ∈ table.names, entry.2 = other.2 → entry = other

namespace ParameterTable

variable {table : ParameterTable} {name : String} {n : Nat}

theorem mem_of_number? (h : table.number? name = some n) : (name, n) ∈ table.names := by
  obtain ⟨⟨other, m⟩, hfind, rfl⟩ := Option.map_eq_some_iff.1 h
  obtain rfl : other = name := by simpa using List.find?_some hfind
  exact List.mem_of_find?_eq_some hfind

theorem mem_of_name? (h : table.name? n = some name) : (name, n) ∈ table.names := by
  obtain ⟨⟨other, m⟩, hfind, rfl⟩ := Option.map_eq_some_iff.1 h
  obtain rfl : m = n := by simpa using List.find?_some hfind
  exact List.mem_of_find?_eq_some hfind

theorem name?_eq_none_iff : table.name? n = none ↔ ∀ entry ∈ table.names, entry.2 ≠ n := by
  simp [name?]

namespace WellNumbered

theorem empty : WellNumbered .empty where
  counted _ h := by cases h
  distinct _ h := by cases h

/-- A number in the table has the name that stands beside it. -/
theorem name?_of_mem (h : table.WellNumbered) (hmem : (name, n) ∈ table.names) :
    table.name? n = some name := by
  cases hname : table.name? n with
  | none => exact absurd rfl (name?_eq_none_iff.1 hname _ hmem)
  | some other =>
    have heq := h.distinct _ (mem_of_name? hname) _ hmem rfl
    rw [(Prod.mk.inj heq).1]

/-- There may be numbers without a name. -/
theorem of_le (h : table.WellNumbered) {count : Nat} (hle : table.count ≤ count) :
    WellNumbered ⟨count, table.names⟩ where
  counted entry hentry := ⟨(h.counted entry hentry).1, Nat.le_trans (h.counted entry hentry).2 hle⟩
  distinct := h.distinct

/-- A number without a name may be given one. -/
theorem concat (h : table.WellNumbered) (hpos : 1 ≤ n) (hle : n ≤ table.count)
    (hnew : table.name? n = none) (name : String) :
    WellNumbered ⟨table.count, table.names ++ [(name, n)]⟩ where
  counted := by
    intro entry hentry
    obtain hentry | hentry := List.mem_append.1 hentry
    · exact h.counted entry hentry
    · rw [List.mem_singleton.1 hentry]
      exact ⟨hpos, hle⟩
  distinct := by
    rw [name?_eq_none_iff] at hnew
    intro entry hentry other hother heq
    obtain hentry | hentry := List.mem_append.1 hentry <;>
      obtain hother | hother := List.mem_append.1 hother
    · exact h.distinct entry hentry other hother heq
    · rw [List.mem_singleton.1 hother] at heq
      exact absurd heq (hnew entry hentry)
    · rw [List.mem_singleton.1 hentry] at heq
      exact absurd heq.symm (hnew other hother)
    · rw [List.mem_singleton.1 hentry, List.mem_singleton.1 hother]

end WellNumbered

end ParameterTable

/-! ## Reading -/

namespace Parser

/-- What is read on leaves the parameters well numbered. -/
def KeepsNumbers {α : Type} (reader : Reader α) : Prop :=
  ∀ input found rest, reader.run input = some (found, rest) →
    input.parameters.WellNumbered → rest.parameters.WellNumbered

/-- A number in range is given with the table that it stands in. -/
theorem inRange_of_noted {input rest : Input} {n found : Nat} {table : ParameterTable}
    (h : (if 1 ≤ n ∧ n ≤ ParameterTable.limit then do
        set { input with parameters := table }
        pure n
      else failure : Reader Nat).run input = some (found, rest)) :
    1 ≤ n ∧ rest.parameters = table := by
  split at h
  · rename_i hn
    cases h
    exact ⟨hn.1, rfl⟩
  · cases h

namespace KeepsNumbers

variable {α β : Type} {reader : Reader α}

theorem pure (a : α) : KeepsNumbers (Pure.pure a) := by
  intro input found rest h hinput
  cases h
  exact hinput

theorem failure : KeepsNumbers (Alternative.failure : Reader α) := by
  intro input found rest h
  cases h

theorem get : KeepsNumbers (MonadState.get : Reader Input) := by
  intro input found rest h hinput
  cases h
  exact hinput

theorem bind (hreader : KeepsNumbers reader) {next : α → Reader β}
    (hnext : ∀ a, KeepsNumbers (next a)) : KeepsNumbers (reader >>= next) := by
  intro input found rest h hinput
  rw [StateT.run_bind] at h
  obtain ⟨⟨a, between⟩, hfirst, hsecond⟩ := Option.bind_eq_some_iff.1 h
  exact hnext a _ _ _ hsecond (hreader _ _ _ hfirst hinput)

theorem map (hreader : KeepsNumbers reader) (f : α → β) : KeepsNumbers (f <$> reader) := by
  rw [map_eq_pure_bind]
  exact hreader.bind fun a => pure (f a)

theorem seqRight (hreader : KeepsNumbers reader) {next : Reader β} (hnext : KeepsNumbers next) :
    KeepsNumbers (reader *> next) := by
  rw [seqRight_eq_bind]
  exact hreader.bind fun _ => hnext

theorem orElse (hreader : KeepsNumbers reader) {other : Reader α} (hother : KeepsNumbers other) :
    KeepsNumbers (reader <|> other) := by
  intro input found rest h
  -- what the first reader took note of is forgotten when the second one starts again
  change (reader.run input <|> other.run input) = some (found, rest) at h
  rw [Option.orElse_eq_orElse, Option.orElse_eq_or, Option.or_eq_some_iff] at h
  obtain h | ⟨-, h⟩ := h
  · exact hreader _ _ _ h
  · exact hother _ _ _ h

theorem optional (hreader : KeepsNumbers reader) : KeepsNumbers (optional reader) :=
  (hreader.map some).orElse (pure none)

theorem ite {c : Prop} [Decidable c] (hreader : KeepsNumbers reader) {other : Reader α}
    (hother : KeepsNumbers other) : KeepsNumbers (if c then reader else other) := by
  split
  · exact hreader
  · exact hother

theorem lexeme : KeepsNumbers lexeme := by
  rintro ⟨lexemes, parameters⟩ found rest h hinput
  cases lexemes with
  | nil => cases h
  | cons l more =>
    cases h
    exact hinput

/-- **Taking note of a parameter keeps the numbers apart.** -/
theorem noteParameter (marker : Marker) (source : String) :
    KeepsNumbers (noteParameter marker source) := by
  intro input found rest h hinput
  have hfresh : input.parameters.name? (input.parameters.count + 1) = none := by
    rw [ParameterTable.name?_eq_none_iff]
    intro entry hentry heq
    have := (hinput.counted entry hentry).2
    omega
  have hcount : input.parameters.count ≤ input.parameters.count + 1 := Nat.le_succ _
  obtain ⟨hpos, htable⟩ := inRange_of_noted h
  rw [htable]
  -- a name is only added for a number that has none: one that was skipped, or the next one
  cases marker with
  | next => exact hinput.of_le hcount
  | numbered n =>
    have hmax := hinput.of_le (Nat.le_max_left input.parameters.count n)
    cases hname : input.parameters.name? n with
    | some other => simpa only [hname, Option.isSome_some, if_pos] using hmax
    | none => simpa [hname] using hmax.concat hpos (Nat.le_max_right ..) hname source
  | named =>
    cases hnumber : input.parameters.number? source with
    | some n => simpa only [hnumber] using hinput
    | none =>
      simp only [hnumber] at hpos ⊢
      exact (hinput.of_le hcount).concat hpos (Nat.le_refl _) hfresh source

theorem keyword (text : String) : KeepsNumbers (keyword text) := by
  refine lexeme.bind fun l => ?_
  split
  · exact ite (pure ()) failure
  · exact failure

theorem keywords (texts : List String) : KeepsNumbers (keywords texts) := by
  induction texts with
  | nil => exact pure ()
  | cons text _ ih => exact (keyword text).bind fun _ => ih

theorem symbol (c : Char) : KeepsNumbers (symbol c) := by
  refine lexeme.bind fun l => ?_
  split
  · exact ite (pure ()) failure
  · exact failure

theorem name : KeepsNumbers name := by
  refine lexeme.bind fun l => ?_
  split
  · exact ite failure (pure _)
  · exact pure _
  · exact failure

theorem more {separator : Reader Unit} (hseparator : KeepsNumbers separator)
    (hreader : KeepsNumbers reader) (tries : Nat) : KeepsNumbers (more separator reader tries) := by
  induction tries with
  | zero => exact pure []
  | succ tries ih =>
    refine hseparator.optional.bind fun found => ?_
    cases found with
    | none => exact pure []
    | some _ => exact hreader.bind fun first => ih.bind fun rest => pure (first :: rest)

theorem separated {separator : Reader Unit} (hseparator : KeepsNumbers separator)
    (hreader : KeepsNumbers reader) : KeepsNumbers (separated separator reader) :=
  hreader.bind fun first => get.bind fun _ =>
    (hseparator.more hreader _).bind fun rest => pure (first :: rest)

theorem commas (hreader : KeepsNumbers reader) : KeepsNumbers (commas reader) :=
  (symbol ',').separated hreader

theorem parens (hreader : KeepsNumbers reader) : KeepsNumbers (parens reader) :=
  (symbol '(').bind fun _ => hreader.bind fun value => (symbol ')').bind fun _ => pure value

theorem signedNumber (negative : Bool) : KeepsNumbers (signedNumber negative) := by
  refine lexeme.bind fun l => ?_
  split
  · exact pure _
  · exact pure _
  · exact failure

theorem expr : KeepsNumbers expr := by
  refine lexeme.bind fun l => ?_
  split
  · exact (signedNumber true).bind fun _ => pure _
  · exact (signedNumber false).bind fun _ => pure _
  · exact pure _
  · exact pure _
  · exact pure _
  · exact (noteParameter _ _).bind fun _ => pure _
  · exact pure _
  · exact ite (pure _) (ite failure (pure _))
  · exact failure

theorem value : KeepsNumbers value :=
  expr.bind fun _ => pure _

theorem alias? : KeepsNumbers alias? :=
  ((keyword "as").seqRight name).optional

theorem countItem : KeepsNumbers countItem := by
  refine lexeme.bind fun word => ?_
  split
  · exact ite ((symbol '*').parens.bind fun _ => alias?.bind fun _ => pure _) failure
  · exact failure

theorem item : KeepsNumbers item :=
  countItem.orElse (expr.bind fun _ => alias?.bind fun _ => pure _)

theorem condition : KeepsNumbers condition :=
  (keyword "where").bind fun _ => value.bind fun _ => (symbol '=').bind fun _ =>
    value.bind fun _ => pure _

theorem valueRows : KeepsNumbers valueRows :=
  (keyword "values").bind fun _ => value.commas.parens.commas

theorem arm : KeepsNumbers arm :=
  (valueRows.map Arm.rows).orElse <|
    (keyword "select").bind fun _ => item.commas.bind fun _ =>
      ((keyword "from").seqRight name).optional.bind fun _ =>
        condition.optional.bind fun _ => pure _

theorem orderTerm : KeepsNumbers orderTerm :=
  (keywords ["order", "by"]).bind fun _ => name.bind fun _ =>
    (keyword "desc").optional.bind fun _ =>
      ite ((keyword "asc").optional.bind fun _ => pure _) (pure _)

theorem query : KeepsNumbers query := by
  refine ((keywords ["union", "all"]).separated arm).bind fun arms => ?_
  split
  · exact orderTerm.optional.bind fun _ => pure _
  · exact pure _

theorem typeNumber : KeepsNumbers typeNumber := by
  refine (symbol '-').optional.bind fun _ => lexeme.bind fun l => ?_
  split
  · exact pure _
  · exact pure _
  · exact failure

theorem typeWords (tries : Nat) : KeepsNumbers (typeWords tries) := by
  induction tries with
  | zero => exact pure []
  | succ tries ih =>
    refine name.optional.bind fun found => ?_
    cases found with
    | none => exact pure []
    | some word => exact ih.bind fun words => pure (word :: words)

theorem declaredType : KeepsNumbers declaredType :=
  get.bind fun _ => (typeWords _).bind fun _ =>
    ite (pure none) (typeNumber.commas.parens.optional.bind fun _ => pure _)

theorem columnDeclaration : KeepsNumbers columnDeclaration :=
  name.bind fun _ => declaredType.bind fun _ =>
    (keywords ["primary", "key"]).optional.bind fun _ => pure _

theorem change : KeepsNumbers change :=
  name.bind fun _ => (symbol '=').bind fun _ => value.bind fun _ => pure _

theorem afterKeyword (first : String) : KeepsNumbers (afterKeyword first) := by
  unfold Parser.afterKeyword
  split
  · exact (keyword "table").bind fun _ => name.bind fun _ =>
      columnDeclaration.commas.parens.bind fun _ => pure _
  split
  · exact (keyword "table").bind fun _ => name.bind fun _ => pure _
  split
  · exact (keyword "into").bind fun _ => name.bind fun _ => name.commas.parens.bind fun _ =>
      valueRows.bind fun _ => pure _
  split
  · exact name.bind fun _ => (keyword "set").bind fun _ => change.commas.bind fun _ =>
      condition.optional.bind fun _ => pure _
  split
  · exact (keyword "from").bind fun _ => name.bind fun _ =>
      condition.optional.bind fun _ => pure _
  have hcontrol (control : Command) :
      KeepsNumbers (Parser.optional (Parser.keyword "transaction") >>= fun _ => Pure.pure control) :=
    (keyword "transaction").optional.bind fun _ => pure control
  exact ite ((pure _).bind hcontrol) (ite ((pure _).bind hcontrol)
    (ite ((pure _).bind hcontrol) (failure.bind hcontrol)))

theorem command : KeepsNumbers command := by
  refine (query.map Command.query).orElse (lexeme.bind fun l => ?_)
  split
  · exact afterKeyword _
  · exact failure

theorem whole : KeepsNumbers whole := by
  have hend (found : Command) : KeepsNumbers (do
      let _ ← Parser.optional (Parser.symbol ';')
      if (← MonadState.get).lexemes.isEmpty then Pure.pure found else Alternative.failure) :=
    (symbol ';').optional.bind fun _ => get.bind fun _ => ite (pure found) failure
  exact get.bind fun _ => ite ((pure _).bind hend) ((command.orElse (pure _)).bind hend)

end KeepsNumbers

end Parser

/-- **The parameters of a command are well numbered.** -/
theorem wellNumbered_of_read? {sql : String} {command : Command} {parameters : ParameterTable}
    (h : Command.read? sql = some (command, parameters)) : parameters.WellNumbered := by
  obtain ⟨lexemes, -, h⟩ := Option.bind_eq_some_iff.1 h
  obtain ⟨⟨found, input⟩, hwhole, h⟩ := Option.bind_eq_some_iff.1 h
  cases h
  exact Parser.KeepsNumbers.whole _ _ _ hwhole .empty

end PortableSql.Sqlite
