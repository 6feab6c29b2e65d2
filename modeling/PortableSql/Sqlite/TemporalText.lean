import PortableSql.Calendar.Checked
import PortableSql.Number.Power
import PortableSql.Text.Blank

/-!
# Dates and times written as text

A date is written with hyphens, a time with colons and an optional fraction of a second, and a
timestamp as both with blanks or a `T` between them. Every number may have blanks in front. A year
has up to four digits, or any number of them after a sign. The whole text must match.
-/
namespace PortableSql.Sqlite.TemporalText

/-- Reads something from the start of a text. -/
abbrev Reader (α : Type) := StateT (List Char) Option α

/-- Reads one to `most` digits. -/
def digits (most : Nat) : Reader (List Char) := fun text =>
  let run := (text.take most).takeWhile Char.isDigit
  if run.isEmpty then none else some (run, text.drop run.length)

/-- Reads blanks, possibly none. -/
def blanks : Reader Unit := fun text =>
  some ((), Text.trimStart text)

/-- Reads one given character. -/
def mark (c : Char) : Reader Unit := fun text =>
  match text with
  | d :: rest => if d = c then some ((), rest) else none
  | [] => none

/-- Reads a number of one or two digits. -/
def field : Reader Nat := do
  blanks
  return Text.Decimal.value (← digits 2)

/-- Reads a year. -/
def year : Reader Int := do
  blanks
  fun text =>
    let value (run : List Char) : Int := Text.Decimal.value run
    match text with
    | '-' :: rest => (digits rest.length rest).map fun (run, rest) => (-value run, rest)
    | '+' :: rest => (digits rest.length rest).map fun (run, rest) => (value run, rest)
    | text => (digits 4 text).map fun (run, rest) => (value run, rest)

/-- Reads a fraction of a second, if there is one, in nanoseconds. Digits after the ninth are
dropped. -/
def fraction : Reader Nat := fun text =>
  match text with
  | '.' :: rest => (digits rest.length rest).map fun (run, rest) =>
    let kept := run.take 9
    (Text.Decimal.value kept * 10 ^ (9 - kept.length), rest)
  | text => some (0, text)

/-- A date that exists, of a bounded range of years. -/
def dateOf? (year : Int) (month day : Nat) : Option Date :=
  if Date.firstCheckedYear ≤ year ∧ year ≤ Date.lastCheckedYear then
    let date : Date := ⟨Int32.ofInt year, UInt32.ofNat month, UInt32.ofNat day⟩
    if date.Checked then some date else none
  else none

/-- A time of day whose fields are in range; second 60 is a leap second. -/
def timeOf? (hour min sec nanos : Nat) : Option Time :=
  if hour < 24 ∧ min < 60 ∧ sec < 60 then some (.ofNanos hour min sec nanos)
  else if hour < 24 ∧ min < 60 ∧ sec = 60 then some (.ofNanos hour min 59 (1000000000 + nanos))
  else none

/-- Reads a date. -/
def date : Reader (Option Date) := do
  let year ← year
  mark '-'
  let month ← field
  mark '-'
  let day ← field
  return dateOf? year month day

/-- Reads a time of day. -/
def time : Reader (Option Time) := do
  let hour ← field
  mark ':'
  let min ← field
  mark ':'
  let sec ← field
  let nanos ← fraction
  return timeOf? hour min sec nanos

/-- Reads a date and a time of day with something between them. -/
def timestamp (between : Reader Unit) : Reader (Option Timestamp) := do
  let date ← date
  between
  let time ← time
  return do
    let date ← date
    let time ← time
    pure ⟨date, time⟩

/-- What a reader makes of a text, of which nothing may be left over. -/
def whole {α : Type} (reader : Reader (Option α)) (text : String) : Option α :=
  match reader text.toList with
  | some (value, []) => value
  | _ => none

/-- The time of day that a text is. -/
def time? (text : String) : Option Time :=
  whole time text

/-- The timestamp that a text is; a date alone is its first moment. -/
def timestamp? (text : String) : Option Timestamp :=
  whole (timestamp blanks) text <|> whole (timestamp (mark 'T')) text <|>
    (whole date text).map fun date => ⟨date, .midnight⟩

end PortableSql.Sqlite.TemporalText
