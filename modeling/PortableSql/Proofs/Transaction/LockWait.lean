import PortableSql.Postgres.Link
import PortableSql.Proofs.Text.Numeral
import PortableSql.SqlServer.Link

/-!
# What the servers are told of the wait for a lock

A server reads the wait out of the text that sets it: PostgreSQL as a quantity with its unit, between
quotes, SQL Server as milliseconds, in one of the statements that begin the transaction. Here the texts
are read back in the same way.

SQL Server is told the milliseconds of the wait. PostgreSQL is told its whole seconds, so the two agree
where nothing is left below a second. Less than a second is told as zero, which to PostgreSQL is a wait
without limit, and to SQL Server none at all.
-/
namespace PortableSql

open Text.Decimal (parseInt? digits isDigit_of_mem_digits notMem_digits parseInt?_digits)

namespace Duration

/-- Less than a second is left to the nanoseconds. -/
def Valid (d : Duration) : Prop :=
  d.nanoseconds < 1000000000

/-- A span of whole milliseconds. -/
def ofMilliseconds (millis : ℕ) : Duration :=
  ofParts 0 (millis * 1000000)

theorem valid_ofParts (seconds nanoseconds : ℕ) : (ofParts seconds nanoseconds).Valid :=
  Nat.mod_lt _ (by decide)

theorem Valid.seconds_eq {d : Duration} (h : d.Valid) : d.seconds = d.milliseconds / 1000 := by
  unfold Valid at h
  rw [milliseconds]
  omega

theorem milliseconds_ofMilliseconds (millis : ℕ) : (ofMilliseconds millis).milliseconds = millis := by
  simp only [milliseconds, ofMilliseconds, ofParts]
  omega

end Duration

namespace Postgres

/-- Milliseconds of a number of seconds or of milliseconds. -/
def quantity? (text : List Char) : Option ℤ :=
  let number := parseInt? (text.takeWhile Char.isDigit)
  let unit := text.dropWhile Char.isDigit
  if unit = ['m', 's'] then number
  else if unit = ['s'] then number.map (1000 * ·)
  else none

/-- Milliseconds that a statement limits the wait for a lock to; zero takes the limit away. -/
def lockWait? (sql : String) : Option ℤ :=
  match sql.toList.splitOn '\'' with
  | [command, quantity, []] =>
    if command = "SET LOCAL lock_timeout = ".toList then quantity? quantity else none
  | _ => none

/-- Seconds are read as a thousand milliseconds each. -/
theorem quantity?_seconds (n : ℕ) : quantity? (digits n ++ ['s']) = some (1000 * n : ℤ) := by
  have hdigits : ∀ c ∈ digits n, c.isDigit = true := fun _ => isDigit_of_mem_digits
  have hunit : ∀ c ∈ ['s'].head?, c.isDigit = false := by
    rintro c ⟨⟩
    rfl
  obtain ⟨htake, hdrop⟩ := takeWhile_append_eq hdigits hunit
  rw [quantity?, htake, hdrop, parseInt?_digits]
  rfl

/-- What stands between the quotes is the quantity. -/
theorem lockWait?_of_toList {sql : String} {quantity : List Char} (hquote : '\'' ∉ quantity)
    (h : sql.toList = "SET LOCAL lock_timeout = '".toList ++ quantity ++ ['\'']) :
    lockWait? sql = quantity? quantity := by
  have hcommand : '\'' ∉ "SET LOCAL lock_timeout = ".toList := by decide
  have hparts : "SET LOCAL lock_timeout = '".toList ++ quantity ++ ['\''] =
      "SET LOCAL lock_timeout = ".toList ++ '\'' :: (quantity ++ '\'' :: []) := by simp
  rw [lockWait?, h, hparts, List.splitOn_append_cons_self_of_not_mem hcommand,
    List.splitOn_append_cons_self_of_not_mem hquote, List.splitOn_nil]
  rfl

/-- **PostgreSQL is told the whole seconds of the wait**, and of a millisecond if there is to be
none. -/
theorem lockWait?_lockTimeoutSql (p : TransactionParams) :
    lockWait? (Link.lockTimeoutSql p) = some (match p.lockResolution with
      | .wait => (1000 * p.lockTimeout.seconds : ℤ)
      | .noWait => 1) := by
  rw [Link.lockTimeoutSql]
  cases p.lockResolution with
  | noWait =>
    have htext : "SET LOCAL lock_timeout = '1ms'".toList =
        "SET LOCAL lock_timeout = '".toList ++ "1ms".toList ++ ['\''] := by decide
    exact lockWait?_of_toList (by decide) htext
  | wait =>
    have hquote : '\'' ∉ digits p.lockTimeout.seconds ++ ['s'] := by
      rw [List.mem_append, not_or]
      exact ⟨notMem_digits (by decide) _, by decide⟩
    refine (lockWait?_of_toList hquote ?_).trans (quantity?_seconds _)
    simp [Text.Decimal.ofNat, toString, String.toList_append]

end Postgres

namespace SqlServer

/-- What follows the words that a statement begins with. -/
def operand? (words statement : List Char) : Option (List Char) :=
  if words <+: statement then some (statement.drop words.length) else none

theorem operand?_append (words text : List Char) : operand? words (words ++ text) = some text := by
  rw [operand?, if_pos (List.prefix_append _ _), List.drop_left]

/-- What a statement limits the wait for a lock to, in its own words. -/
def limit? (statement : List Char) : Option (List Char) :=
  operand? "SET LOCK_TIMEOUT ".toList (statement.dropWhile (· == ' '))

/-- The limits that the statements of a batch set. -/
def limits (batch : List Char) : List (List Char) :=
  (batch.splitOn ';').filterMap limit?

/-- Milliseconds that a batch limits the wait for a lock to. The last of its statements that does so
counts. -/
def lockWait? (batch : String) : Option ℤ :=
  (limits batch.toList).getLast?.bind parseInt?

theorem limits_append_cons (batch rest : List Char) :
    limits (batch ++ ';' :: rest) = limits batch ++ limits rest := by
  rw [limits, List.splitOn_append_cons_self, List.filterMap_append, limits, limits]

theorem limits_of_notMem {statement : List Char} (h : ';' ∉ statement) :
    limits statement = (limit? statement).toList := by
  rw [limits, List.splitOn_eq_singleton h]
  cases hlimit : limit? statement <;> simp [hlimit]

theorem limit?_append (text : List Char) :
    limit? ("SET LOCK_TIMEOUT ".toList ++ text) = some text :=
  operand?_append _ _

/-- The level of a transaction limits no wait. -/
theorem limits_level {level : TransactionLevel} {keyword : String} (h : level.keyword? = some keyword) :
    limits ("SET TRANSACTION ISOLATION LEVEL ".toList ++ keyword.toList) = [] := by
  cases level <;> cases h <;> decide

/-- Nor does beginning it. -/
theorem limits_begin : limits " BEGIN TRANSACTION".toList = [] := by decide

/-- The statement that limits the wait is read with a blank in front and without. -/
theorem limits_lockTimeout (n : ℕ) {front : List Char} (h : front = [] ∨ front = [' ']) :
    limits (front ++ "SET LOCK_TIMEOUT ".toList ++ digits n ++ ';' :: " BEGIN TRANSACTION".toList) =
      [digits n] := by
  have hwords : ';' ∉ front ++ "SET LOCK_TIMEOUT ".toList := by
    rcases h with rfl | rfl <;> decide
  have hdigits : ';' ∉ digits n := notMem_digits (by decide) n
  have hstatement : ';' ∉ front ++ "SET LOCK_TIMEOUT ".toList ++ digits n := by
    rw [List.mem_append, not_or]
    exact ⟨hwords, hdigits⟩
  have hlimit : limit? (front ++ "SET LOCK_TIMEOUT ".toList ++ digits n) = some (digits n) := by
    rcases h with rfl | rfl
    · exact limit?_append _
    · exact limit?_append _
  rw [limits_append_cons, limits_of_notMem hstatement, hlimit, limits_begin]
  rfl

/-- **SQL Server is told the milliseconds of the wait**, whatever else the transaction is set up with. -/
theorem lockWait?_beginSql (p : TransactionParams) :
    lockWait? (Link.beginSql p) = some (p.effectiveLockTimeout.milliseconds : ℤ) := by
  let millis := digits p.effectiveLockTimeout.milliseconds
  have hlimits : limits (Link.beginSql p).toList = [millis] := by
    cases hlevel : p.level.keyword? with
    | none =>
      have htext : (Link.beginSql p).toList =
          [] ++ "SET LOCK_TIMEOUT ".toList ++ millis ++ ';' :: " BEGIN TRANSACTION".toList := by
        simp [Link.beginSql, hlevel, millis, Text.Decimal.ofNat, toString, String.toList_append]
      rw [htext]
      exact limits_lockTimeout _ (.inl rfl)
    | some keyword =>
      have htext : (Link.beginSql p).toList =
          "SET TRANSACTION ISOLATION LEVEL ".toList ++ keyword.toList ++ ';' ::
            ([' '] ++ "SET LOCK_TIMEOUT ".toList ++ millis ++ ';' :: " BEGIN TRANSACTION".toList) := by
        simp [Link.beginSql, hlevel, millis, Text.Decimal.ofNat, toString, String.toList_append]
      rw [htext, limits_append_cons, limits_level hlevel, List.nil_append]
      exact limits_lockTimeout _ (.inr rfl)
  rw [lockWait?, hlimits]
  exact parseInt?_digits _

end SqlServer

/-- **PostgreSQL is told the wait cut down to whole seconds**, and SQL Server its milliseconds. So both
are told the same exactly if the wait is whole seconds, and PostgreSQL is told of no limit exactly if it
is less than one. -/
theorem lock_wait_in_whole_seconds (p : TransactionParams) (hwait : p.lockResolution = .wait)
    (hvalid : p.lockTimeout.Valid) :
    let postgres := Postgres.lockWait? (Postgres.Link.lockTimeoutSql p)
    let sqlServer := SqlServer.lockWait? (SqlServer.Link.beginSql p)
    let millis := p.effectiveLockTimeout.milliseconds
    sqlServer = some (millis : ℤ) ∧
      postgres = some ((millis / 1000 * 1000 : ℕ) : ℤ) ∧
      (postgres = sqlServer ↔ 1000 ∣ millis) ∧
      (postgres = some 0 ↔ millis < 1000) := by
  intro postgres sqlServer millis
  have hsqlServer : sqlServer = some (millis : ℤ) := SqlServer.lockWait?_beginSql p
  have hpostgres : postgres = some ((millis / 1000 * 1000 : ℕ) : ℤ) := by
    have hseconds : p.lockTimeout.seconds = millis / 1000 := by
      rw [hvalid.seconds_eq]
      simp only [millis, TransactionParams.effectiveLockTimeout, hwait]
    have htold := Postgres.lockWait?_lockTimeoutSql p
    rw [hwait, hseconds] at htold
    rw [Nat.cast_mul, mul_comm]
    exact htold
  refine ⟨hsqlServer, hpostgres, ?_, ?_⟩
  · rw [hpostgres, hsqlServer, Option.some_inj, Nat.cast_inj]
    omega
  · rw [hpostgres, Option.some_inj, Nat.cast_eq_zero]
    omega

/-- Half a second is told to PostgreSQL as no limit, and to SQL Server as it is. -/
theorem lock_wait_of_half_second :
    let p := { TransactionParams.default with lockTimeout := .ofMilliseconds 500 }
    SqlServer.lockWait? (SqlServer.Link.beginSql p) = some 500 ∧
      Postgres.lockWait? (Postgres.Link.lockTimeoutSql p) = some 0 := by
  intro p
  obtain ⟨hsqlServer, hpostgres, -, -⟩ := lock_wait_in_whole_seconds p rfl (Duration.valid_ofParts _ _)
  have hmillis : p.effectiveLockTimeout.milliseconds = 500 :=
    Duration.milliseconds_ofMilliseconds 500
  rw [hmillis] at hsqlServer hpostgres
  exact ⟨hsqlServer, hpostgres⟩

/-- A wait of whole milliseconds is told to both servers as it is, and no wait to PostgreSQL as one
without limit. -/
def LockWaitIsTold : Prop :=
  ∀ (p : TransactionParams) (millis : ℕ), p.lockResolution = .wait →
    p.lockTimeout = .ofMilliseconds millis →
    let told := (p.effectiveLockTimeout.milliseconds : ℤ)
    SqlServer.lockWait? (SqlServer.Link.beginSql p) = some told ∧
      Postgres.lockWait? (Postgres.Link.lockTimeoutSql p) = some told ∧
      (0 < told → Postgres.lockWait? (Postgres.Link.lockTimeoutSql p) ≠ some 0)

/-- **PostgreSQL is told of half a second as no limit.** -/
theorem half_second_without_limit : ¬ LockWaitIsTold := by
  intro h
  let p := { TransactionParams.default with lockTimeout := .ofMilliseconds 500 }
  have hpostgres : Postgres.lockWait? (Postgres.Link.lockTimeoutSql p) = some 0 :=
    Postgres.lockWait?_lockTimeoutSql p
  obtain ⟨-, -, hpositive⟩ := h p 500 rfl rfl
  exact hpositive (by decide) hpostgres

end PortableSql
