import PortableSql.Proofs.Calendar.JulianDay
import PortableSql.Proofs.Text.Numeral
import PortableSql.Sqlite.Temporal

/-!
# Printed dates and times are read back

Dates, times of day and timestamps are printed with zeros in front, and a year before the first with its
sign. Text in a cell is read by one format after the other. A format that a printed value is not of
leaves it to the next one: nothing follows a date where a time of day is to stand, and a date has no
colon behind its first two digits.

## Main statements

* `TemporalText.timestamp?_date`, `TemporalText.timestamp?_text` — which dates and timestamps are read.
* `printed_text_read_back` — what is printed is read back.
-/
namespace PortableSql.Sqlite.TemporalText

open Text.Decimal (IsDigits padded paddedInt value value_padded isDigits_padded length_padded
  length_padded_of_lt value_lt_pow_length)

variable {α β : Type}

theorem bind_apply (reader : Reader α) (next : α → Reader β) (text : List Char) :
    (reader >>= next) text = (reader text).bind fun read => next read.1 read.2 := rfl

theorem pure_apply (a : α) (text : List Char) : (pure a : Reader α) text = some (a, text) := rfl

/-! ## Numbers -/

/-- No more digits are read than may be. -/
theorem digits_of_le_length {run : List Char} (hrun : IsDigits run) {most : ℕ} (hpos : 0 < most)
    (h : most ≤ run.length) (rest : List Char) :
    digits most (run ++ rest) = some (run.take most, run.drop most ++ rest) := by
  have htake : (run ++ rest).take most = run.take most := List.take_append_of_le_length h
  have hall : (run.take most).takeWhile Char.isDigit = run.take most :=
    List.takeWhile_eq_self_iff.2 fun c hc => hrun.isDigit c (List.mem_of_mem_take hc)
  have hlength : (run.take most).length = most := List.length_take_of_le h
  have hne : (run.take most).isEmpty = false := by
    rw [List.isEmpty_eq_false_iff, ← List.length_pos_iff, hlength]
    exact hpos
  simp only [digits, htake, hall, hne, hlength, List.drop_append_of_le_length h]
  rfl

/-- As many digits are read as may be. -/
theorem digits_of_length_eq {run : List Char} (hrun : IsDigits run) {most : ℕ} (h : run.length = most)
    (rest : List Char) : digits most (run ++ rest) = some (run, rest) := by
  have hpos : 0 < most := h ▸ List.length_pos_iff.2 hrun.ne_nil
  rw [digits_of_le_length hrun hpos h.ge, ← h, List.take_length, List.drop_length, List.nil_append]

/-- What is left over of digits is digits. -/
theorem isDigits_drop {run : List Char} (hrun : IsDigits run) {most : ℕ} (h : most < run.length) :
    IsDigits (run.drop most) := by
  refine ⟨?_, fun c hc => hrun.isDigit c (List.mem_of_mem_drop hc)⟩
  rw [← List.length_pos_iff, List.length_drop]
  omega

/-- Digits are read up to the first other character. -/
theorem digits_of_head? {run rest : List Char} (hrun : IsDigits run)
    (hrest : ∀ c ∈ rest.head?, c.isDigit = false) :
    digits (run ++ rest).length (run ++ rest) = some (run, rest) := by
  have htake := (takeWhile_append_eq hrun.isDigit hrest).1
  have hne : run.isEmpty = false := List.isEmpty_eq_false_iff.2 hrun.ne_nil
  simp only [digits, List.take_length, htake, hne, List.drop_left]
  rfl

/-- No blanks stand in front of a digit. -/
theorem blanks_append {run : List Char} (hrun : IsDigits run) (rest : List Char) :
    blanks (run ++ rest) = some ((), run ++ rest) := by
  obtain ⟨c, run, rfl⟩ := List.exists_cons_of_ne_nil hrun.ne_nil
  have hblank := Text.isBlank_of_isDigit (hrun.isDigit c List.mem_cons_self)
  rw [blanks, Text.trimStart, List.cons_append, List.dropWhile_cons_of_neg (by simp [hblank])]

/-- **A number of two digits is read back.** -/
theorem field_padded {n : ℕ} (h : n < 100) (rest : List Char) :
    field (padded 2 n ++ rest) = some (n, rest) := by
  have hrun := isDigits_padded 2 n
  simp only [field, bind_apply, blanks_append hrun, Option.bind_some,
    digits_of_length_eq hrun (length_padded_of_lt (by decide) h), pure_apply, value_padded]

/-- A mark is none of the digits. -/
theorem mark_digits {c : Char} (hc : c.isDigit = false) {run : List Char} (hrun : IsDigits run)
    (rest : List Char) : mark c (run ++ rest) = none := by
  obtain ⟨d, run, rfl⟩ := List.exists_cons_of_ne_nil hrun.ne_nil
  have hdigit := hrun.isDigit d List.mem_cons_self
  have hne : d ≠ c := by
    rintro rfl
    rw [hdigit] at hc
    cases hc
  exact if_neg hne

/-- Without a sign a year has four digits at most. -/
theorem year_digits {run : List Char} (hrun : IsDigits run) (rest : List Char) :
    year (run ++ rest) = (digits 4 (run ++ rest)).map fun read => ((value read.1 : ℤ), read.2) := by
  rw [year, bind_apply, blanks_append hrun, Option.bind_some]
  obtain ⟨c, run, rfl⟩ := List.exists_cons_of_ne_nil hrun.ne_nil
  have hdigit := hrun.isDigit c List.mem_cons_self
  simp only [List.cons_append]
  -- a sign would be a digit
  split
  · next heq => cases heq; cases hdigit
  · next heq => cases heq; cases hdigit
  · rfl

/-- **A year is read back** if it has at most four digits or a sign. -/
theorem year_paddedInt {n : ℤ} (h : n ≤ 9999) {rest : List Char}
    (hrest : ∀ c ∈ rest.head?, c.isDigit = false) :
    year (paddedInt 4 n ++ rest) = some (n, rest) := by
  cases n with
  | ofNat n =>
    have hrun := isDigits_padded 4 n
    have hn : n < 10 ^ 4 := Nat.lt_succ_of_le (Int.ofNat_le.1 h)
    rw [paddedInt, year_digits hrun, digits_of_length_eq hrun (length_padded_of_lt (by decide) hn),
      Option.map_some, value_padded]
    rfl
  | negSucc n =>
    have hrun := isDigits_padded 3 (n + 1)
    have hblanks : blanks ('-' :: (padded 3 (n + 1) ++ rest)) =
        some ((), '-' :: (padded 3 (n + 1) ++ rest)) := rfl
    rw [paddedInt, year, bind_apply, List.cons_append, hblanks, Option.bind_some]
    simp only [digits_of_head? hrun hrest, Option.map_some, value_padded]
    rfl

/-- A fifth digit is left over. -/
theorem year_paddedInt_of_gt {n : ℤ} (h : 9999 < n) (rest : List Char) :
    ∃ k run, IsDigits run ∧ year (paddedInt 4 n ++ rest) = some (k, run ++ rest) := by
  obtain ⟨n, rfl⟩ := Int.eq_ofNat_of_zero_le (by omega : 0 ≤ n)
  have hrun := isDigits_padded 4 n
  have hlength : 4 < (padded 4 n).length := by
    by_contra hle
    have hlt := value_lt_pow_length hrun
    have hpow := Nat.pow_le_pow_right (n := 10) (by decide) (Nat.le_of_not_lt hle)
    rw [value_padded] at hlt
    omega
  have hyear : year (padded 4 n ++ rest) = _ := year_digits hrun rest
  rw [digits_of_le_length hrun (by decide) hlength.le, Option.map_some] at hyear
  exact ⟨_, _, isDigits_drop hrun hlength, hyear⟩

theorem mark_cons (c : Char) (rest : List Char) : mark c (c :: rest) = some ((), rest) := by
  simp [mark]

/-- **Thousandths of a second are read back** as nanoseconds. -/
theorem fraction_padded {n : ℕ} (h : n < 1000) {rest : List Char}
    (hrest : ∀ c ∈ rest.head?, c.isDigit = false) :
    fraction ('.' :: (padded 3 n ++ rest)) = some (n * 1000000, rest) := by
  have hlength : (padded 3 n).length = 3 := length_padded_of_lt (by decide) h
  have hkept : (padded 3 n).take 9 = padded 3 n := List.take_of_length_le (by omega)
  simp only [fraction, digits_of_head? (isDigits_padded 3 n) hrest, Option.map_some, hkept, value_padded,
    hlength]
  rfl

/-! ## Dates and times of day -/

theorem dateOf?_fields {d : Date} (h : d.Valid) (hlast : d.year.toInt ≤ Date.lastCheckedYear) :
    dateOf? d.year.toInt d.month.toNat d.day.toNat =
      if Date.firstCheckedYear ≤ d.year.toInt then some d else none := by
  rw [dateOf?]
  simp only [Int32.ofInt_toInt, UInt32.ofNat_toNat, hlast, and_true]
  split
  · next hfirst => exact if_pos ⟨h, hfirst, hlast⟩
  · rfl

theorem timeOf?_fields {t : Time} (h : t.Valid) :
    timeOf? t.hour.toNat t.min.toNat t.sec.toNat (t.msec.toNat * 1000000) = some t := by
  obtain ⟨hhour, hmin, hsec, hmsec⟩ := h
  have hmillis : Nat.min (t.msec.toNat * 1000000 / 1000000) 999 = t.msec.toNat := by
    rw [Nat.mul_div_cancel _ (by decide)]
    exact Nat.min_eq_left (by omega)
  rw [timeOf?, if_pos ⟨hhour, hmin, hsec⟩, Time.ofNanos, hmillis]
  simp only [UInt32.ofNat_toNat]

/-- **A printed date is read back** if its year is in the range, whatever follows. -/
theorem date_chars {d : Date} (h : d.Valid) (hlast : d.year.toInt ≤ 9999) (rest : List Char) :
    date (d.chars ++ rest) =
      some (if Date.firstCheckedYear ≤ d.year.toInt then some d else none, rest) := by
  have hmonth : d.month.toNat < 100 := h.2.1.trans_lt (by decide)
  have hday : d.day.toNat < 100 :=
    (h.2.2.2.trans (JulianDay.daysInMonth_le _ _)).trans_lt (by decide)
  have hyear (tail : List Char) :
      year (paddedInt 4 d.year.toInt ++ '-' :: tail) = some (d.year.toInt, '-' :: tail) :=
    year_paddedInt hlast (by simp)
  simp only [date, Date.chars, List.append_assoc, List.cons_append, bind_apply, Option.bind_some, hyear,
    mark_cons, field_padded hmonth, field_padded hday, pure_apply,
    dateOf?_fields h (hlast.trans (by decide))]

/-- A printed date of a later year is no date. -/
theorem date_chars_of_gt {d : Date} (h : 9999 < d.year.toInt) (rest : List Char) :
    date (d.chars ++ rest) = none := by
  obtain ⟨k, run, hrun, hyear⟩ := year_paddedInt_of_gt h
    ('-' :: (padded 2 d.month.toNat ++ '-' :: (padded 2 d.day.toNat ++ rest)))
  simp only [date, Date.chars, List.append_assoc, List.cons_append, bind_apply, hyear, Option.bind_some,
    mark_digits (c := '-') (by decide) hrun, Option.bind_none]

/-- **A printed time of day is read back** up to its last digit. -/
theorem time_chars {t : Time} (h : t.Valid) : time t.chars = some (some t, []) := by
  obtain ⟨hhour, hmin, hsec, hmsec⟩ := id h
  have hfraction : fraction ('.' :: (padded 3 t.msec.toNat ++ [])) = _ :=
    fraction_padded hmsec (by simp)
  rw [List.append_nil] at hfraction
  simp only [time, Time.chars, bind_apply, field_padded (n := t.hour.toNat) (by omega),
    field_padded (n := t.min.toNat) (by omega), field_padded (n := t.sec.toNat) (by omega),
    Option.bind_some, mark_cons, hfraction, pure_apply, timeOf?_fields h]

/-- **No time of day begins with a year**: two of its digits are followed by another, or it has a
sign. -/
theorem time_paddedInt (n : ℤ) (rest : List Char) : time (paddedInt 4 n ++ rest) = none := by
  cases n with
  | ofNat n =>
    have hrun := isDigits_padded 4 n
    have hlength : 4 ≤ (padded 4 n).length := (length_padded 4 n).ge.trans' (le_max_left _ _)
    have hrest : IsDigits ((padded 4 n).drop 2) := isDigits_drop hrun (by omega)
    have hdigits := digits_of_le_length hrun (by decide : 0 < 2) (by omega) rest
    simp only [paddedInt, time, field, bind_apply, blanks_append hrun, Option.bind_some, hdigits,
      pure_apply, mark_digits (c := ':') (by decide) hrest, Option.bind_none]
  | negSucc n => rfl

/-- A date alone is no timestamp. -/
theorem timestamp_of_date {text : List Char} (h : ∀ read ∈ date text, read.2 = []) :
    timestamp blanks text = none ∧ timestamp (mark 'T') text = none := by
  rw [timestamp, timestamp, bind_apply, bind_apply]
  cases hdate : date text with
  | none => exact ⟨rfl, rfl⟩
  | some read =>
    obtain ⟨d, rest⟩ := read
    obtain rfl : rest = [] := h _ hdate
    exact ⟨rfl, rfl⟩

/-- A printed timestamp is read as its date is. -/
theorem timestamp_chars {t : Timestamp} (h : t.Valid) (hlast : t.date.year.toInt ≤ 9999) :
    timestamp blanks t.chars =
      some (if Date.firstCheckedYear ≤ t.date.year.toInt then some t else none, []) := by
  have hblanks : blanks (' ' :: t.time.chars) = some ((), t.time.chars) :=
    blanks_append (isDigits_padded 2 t.time.hour.toNat) _
  simp only [timestamp, Timestamp.chars, bind_apply, date_chars h.1 hlast, Option.bind_some, hblanks,
    time_chars h.2, pure_apply]
  split <;> rfl

/-! ## Whole texts -/

variable {reader : Reader (Option α)} {text : List Char}

theorem whole_of_eq_some {result : Option α} (h : reader text = some (result, [])) :
    whole reader (String.ofList text) = result := by
  rw [whole, String.toList_ofList, h]

theorem whole_of_eq_none (h : reader text = none) : whole reader (String.ofList text) = none := by
  rw [whole, String.toList_ofList, h]

/-- What leaves something over reads no whole text. -/
theorem whole_of_rest {result : Option α} {c : Char} {rest : List Char}
    (h : reader text = some (result, c :: rest)) : whole reader (String.ofList text) = none := by
  rw [whole, String.toList_ofList, h]

/-- A printed time of day is read as the time of day that it is. -/
theorem time?_text {t : Time} (h : t.Valid) : time? t.text = some t :=
  whole_of_eq_some (time_chars h)

/-- A printed timestamp is read as no time of day. -/
theorem time?_timestamp (t : Timestamp) : time? t.text = none := by
  refine whole_of_eq_none ?_
  rw [Timestamp.chars, Date.chars, List.append_assoc, time_paddedInt]

/-- **A printed date is read as its first moment** if its year is in the range, and else not at all. -/
theorem timestamp?_date {d : Date} (h : d.Valid) : timestamp? d.text =
    if Date.firstCheckedYear ≤ d.year.toInt ∧ d.year.toInt ≤ 9999 then some ⟨d, .midnight⟩
    else none := by
  have hdate : date d.chars = if d.year.toInt ≤ 9999 then
      some (if Date.firstCheckedYear ≤ d.year.toInt then some d else none, []) else none := by
    rw [← List.append_nil d.chars]
    split
    · next hlast => exact date_chars h hlast []
    · next hlast => exact date_chars_of_gt (not_le.1 hlast) []
  have hread : ∀ read ∈ date d.chars, read.2 = [] := by
    rw [hdate]
    split <;> simp
  obtain ⟨hblank, hmark⟩ := timestamp_of_date hread
  rw [timestamp?, Date.text, whole_of_eq_none hblank, whole_of_eq_none hmark]
  by_cases hlast : d.year.toInt ≤ 9999
  · rw [if_pos hlast] at hdate
    rw [whole_of_eq_some hdate]
    by_cases hfirst : Date.firstCheckedYear ≤ d.year.toInt <;> simp [hlast, hfirst]
  · rw [if_neg hlast] at hdate
    rw [whole_of_eq_none hdate]
    simp [hlast]

/-- **A printed timestamp is read back** if its year is in the range, and else not read at all. -/
theorem timestamp?_text {t : Timestamp} (h : t.Valid) : timestamp? t.text =
    if Date.firstCheckedYear ≤ t.date.year.toInt ∧ t.date.year.toInt ≤ 9999 then some t else none := by
  rw [timestamp?, Timestamp.text]
  by_cases hlast : t.date.year.toInt ≤ 9999
  · have hdate : date t.chars = some (_, ' ' :: t.time.chars) := date_chars h.1 hlast _
    have hmark : timestamp (mark 'T') t.chars = none := by
      rw [timestamp, bind_apply, hdate]
      rfl
    rw [whole_of_eq_some (timestamp_chars h hlast), whole_of_eq_none hmark, whole_of_rest hdate]
    by_cases hfirst : Date.firstCheckedYear ≤ t.date.year.toInt <;> simp [hlast, hfirst]
  · have hdate : date t.chars = none := date_chars_of_gt (not_le.1 hlast) _
    have hread : ∀ read ∈ date t.chars, read.2 = [] := by simp [hdate]
    obtain ⟨hblank, hmark⟩ := timestamp_of_date hread
    rw [whole_of_eq_none hblank, whole_of_eq_none hmark, whole_of_eq_none hdate]
    simp [hlast]

end PortableSql.Sqlite.TemporalText

namespace PortableSql.Sqlite

variable {d : Date} {t : Timestamp}

theorem readTimestamp_text (h : t.Valid) (hfirst : Date.firstCheckedYear ≤ t.date.year.toInt)
    (hlast : t.date.year.toInt ≤ 9999) : readTimestamp (.text t.text) = .ok t := by
  simp only [readTimestamp, TemporalText.timestamp?_text h, if_pos (And.intro hfirst hlast)]

theorem readDate_text (h : d.Valid) (hfirst : Date.firstCheckedYear ≤ d.year.toInt)
    (hlast : d.year.toInt ≤ 9999) : readDate (.text d.text) = .ok d := by
  simp only [readDate, readTimestamp, TemporalText.timestamp?_date h, if_pos (And.intro hfirst hlast)]
  rfl

theorem readTime_text {t : Time} (h : t.Valid) : readTime (.text t.text) = .ok t := by
  simp only [readTime, TemporalText.time?_text h]

/-- **What is printed is read back**: dates, times of day and timestamps that exist, the year being one
that text can be read for. A timestamp is also read as its date and as its time of day. -/
theorem printed_text_read_back :
    (∀ d : Date, d.Valid → -262143 ≤ d.year.toInt → d.year.toInt ≤ 9999 →
      readDate (.text d.text) = .ok d) ∧
    (∀ t : Time, t.Valid → readTime (.text t.text) = .ok t) ∧
    (∀ t : Timestamp, t.Valid → -262143 ≤ t.date.year.toInt → t.date.year.toInt ≤ 9999 →
      readTimestamp (.text t.text) = .ok t ∧
        readDate (.text t.text) = .ok t.date ∧
        readTime (.text t.text) = .ok t.time) := by
  refine ⟨fun d h hfirst hlast => readDate_text h hfirst hlast, fun t h => readTime_text h,
    fun t h hfirst hlast => ?_⟩
  have hread := readTimestamp_text h hfirst hlast
  refine ⟨hread, ?_, ?_⟩
  · rw [readDate, hread]
    rfl
  · simp only [readTime, TemporalText.time?_timestamp, hread]
    rfl

/-- The first date and the last timestamp that are read back. -/
theorem first_and_last_text_read_back :
    readDate (.text "-262143-01-01") = .ok ⟨-262143, 1, 1⟩ ∧
      readTime (.text "23:59:59.999") = .ok ⟨23, 59, 59, 999⟩ ∧
      readTimestamp (.text "9999-12-31 23:59:59.999") = .ok ⟨⟨9999, 12, 31⟩, ⟨23, 59, 59, 999⟩⟩ := by
  have hdate : (⟨-262143, 1, 1⟩ : Date).text = "-262143-01-01" := by decide +kernel
  have htime : (⟨23, 59, 59, 999⟩ : Time).text = "23:59:59.999" := by decide +kernel
  have htimestamp : (⟨⟨9999, 12, 31⟩, ⟨23, 59, 59, 999⟩⟩ : Timestamp).text =
      "9999-12-31 23:59:59.999" := by decide +kernel
  obtain ⟨hdates, htimes, htimestamps⟩ := printed_text_read_back
  rw [← hdate, ← htime, ← htimestamp]
  exact ⟨hdates _ (by decide) (by decide) (by decide), htimes _ (by decide),
    (htimestamps _ (by decide) (by decide) (by decide)).1⟩

end PortableSql.Sqlite
