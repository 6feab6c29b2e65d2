import PortableSql.Proofs.Calendar.InWords
import PortableSql.Proofs.Calendar.Order

/-!
# Times of day as numbers

A time of day is a number of milliseconds in another form: every number names a time that exists, whole
days left out, every time that exists is named by the milliseconds since midnight, and the order of the
fields is that of the numbers. In words of 64 bits no step overflows and none of the four fields is too
large for its type.

## Main statement

* `Time.milliseconds_name_times` — the times that exist and the milliseconds of a day are one to one and
  in the same order.
-/
namespace PortableSql.Time

variable {t u : Time}

/-- Every number of 64 bits is read in words, and its fields are narrowed. -/
theorem ofMillisInWords?_int64 (millis : Int64) :
    ofMillisInWords? millis = some (ofMillis millis.toInt) := by
  rw [Word.hold_int64, ofMillisInWords?_exact]

/-- A time that exists comes back, in words too. -/
theorem ofMillisInWords?_totalMillisInWords (h : t.Valid) :
    ofMillisInWords? t.totalMillisInWords = some t := by
  rw [totalMillisInWords_eq, ofMillisInWords?_exact, ofMillis_totalMillis h]

theorem totalMillis_ofMillis_mem (millis : Int) :
    0 ≤ (ofMillis millis).totalMillis ∧ (ofMillis millis).totalMillis < millisPerDay :=
  ⟨totalMillis_nonneg _, totalMillis_lt (valid_ofMillis millis)⟩

theorem compare_eq_lt_iff (ht : t.Valid) (hu : u.Valid) :
    t.compare u = .lt ↔ t.totalMillis < u.totalMillis :=
  (compares ht hu).eq_lt

/-- **Milliseconds name the times of a day.** The time of a number of 64 bits exists, and its
milliseconds are the number with whole days left out, which is not negative; in words nothing overflows
and no field is too large. A time that exists is the time of its milliseconds. Of two times that exist one
is before the other, field by field, exactly if its milliseconds are fewer. -/
theorem milliseconds_name_times :
    (∀ millis : Int64, (ofMillis millis.toInt).Valid ∧
      (ofMillis millis.toInt).totalMillis = millis.toInt % millisPerDay ∧
      (0 ≤ (ofMillis millis.toInt).totalMillis ∧
        (ofMillis millis.toInt).totalMillis < millisPerDay) ∧
      ofMillisInWords? millis = some (ofMillis millis.toInt)) ∧
    (∀ t : Time, t.Valid → ofMillis t.totalMillis = t ∧
      ofMillisInWords? t.totalMillisInWords = some t) ∧
    ∀ t u : Time, t.Valid → u.Valid → (t.compare u = .lt ↔ t.totalMillis < u.totalMillis) := by
  refine ⟨fun millis => ?_, fun t h => ?_, fun t u ht hu => compare_eq_lt_iff ht hu⟩
  · exact ⟨valid_ofMillis _, totalMillis_ofMillis _, totalMillis_ofMillis_mem _,
      ofMillisInWords?_int64 millis⟩
  · exact ⟨ofMillis_totalMillis h, ofMillisInWords?_totalMillisInWords h⟩

/-- The last millisecond of an hour and the hour after it, of which only the first field is greater. -/
theorem milliseconds_name_times_at_hour :
    let t : Time := ⟨22, 59, 59, 999⟩
    let u : Time := ⟨23, 0, 0, 0⟩
    t.Valid ∧ u.Valid ∧ ofMillis 82799999 = t ∧ t.compare u = .lt := by
  intro t u
  have ht : t.Valid := by decide
  have hu : u.Valid := by decide
  have hmillis : t.totalMillis = 82799999 := by decide
  obtain ⟨-, hback, horder⟩ := milliseconds_name_times
  exact ⟨ht, hu, hmillis ▸ (hback t ht).1, (horder t u ht hu).2 (by decide)⟩

end PortableSql.Time
