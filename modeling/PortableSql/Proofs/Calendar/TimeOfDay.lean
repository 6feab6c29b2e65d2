import PortableSql.Calendar.Basic

/-!
# Times of day and their milliseconds

Hours, minutes, seconds and milliseconds are the digits of the number of milliseconds since midnight,
in mixed bases. A time that exists is read back from that number.
-/
namespace PortableSql.Time

variable {t : Time}

theorem totalMillis_nonneg (t : Time) : 0 ≤ t.totalMillis := by
  simp only [totalMillis]
  omega

theorem totalMillis_lt (h : t.Valid) : t.totalMillis < millisPerDay := by
  obtain ⟨hhour, hmin, hsec, hmsec⟩ := h
  simp only [totalMillis, millisPerDay]
  omega

/-- **A time that exists is read back from its milliseconds.** -/
theorem ofMillis_totalMillis (h : t.Valid) : ofMillis t.totalMillis = t := by
  have hlt := totalMillis_lt h
  have hnonneg := t.totalMillis_nonneg
  obtain ⟨hhour, hmin, hsec, hmsec⟩ := h
  obtain ⟨n, hn⟩ : ∃ n, (t.totalMillis % millisPerDay).toNat = n := ⟨_, rfl⟩
  have hdigits : n = ((t.hour.toNat * 60 + t.min.toNat) * 60 + t.sec.toNat) * 1000 + t.msec.toNat := by
    rw [Int.emod_eq_of_lt hnonneg hlt] at hn
    simp only [totalMillis] at hn
    omega
  have hhours : n / 3600000 = t.hour.toNat := by omega
  have hmins : n / 60000 % 60 = t.min.toNat := by omega
  have hsecs : n / 1000 % 60 = t.sec.toNat := by omega
  have hmsecs : n % 1000 = t.msec.toNat := by omega
  simp only [ofMillis, hn, hhours, hmins, hsecs, hmsecs, UInt32.ofNat_toNat]

/-! ## From milliseconds -/

theorem toNat_fields_ofMillis (millis : Int) :
    let n := (millis % millisPerDay).toNat
    (ofMillis millis).hour.toNat = n / 3600000 ∧ (ofMillis millis).min.toNat = n / 60000 % 60 ∧
      (ofMillis millis).sec.toNat = n / 1000 % 60 ∧ (ofMillis millis).msec.toNat = n % 1000 := by
  intro n
  have hlt : n < 86400000 := by
    simp only [n, millisPerDay]
    omega
  simp only [ofMillis, UInt32.toNat_ofNat']
  omega

/-- Every number of milliseconds is that of a time that exists. -/
theorem valid_ofMillis (millis : Int) : (ofMillis millis).Valid := by
  obtain ⟨hhour, hmin, hsec, hmsec⟩ := toNat_fields_ofMillis millis
  have hlt : (millis % millisPerDay).toNat < 86400000 := by
    simp only [millisPerDay]
    omega
  rw [Valid, hhour, hmin, hsec, hmsec]
  omega

/-- **The time of a number of milliseconds is that many after midnight**, whole days left out. -/
theorem totalMillis_ofMillis (millis : Int) :
    (ofMillis millis).totalMillis = millis % millisPerDay := by
  obtain ⟨hhour, hmin, hsec, hmsec⟩ := toNat_fields_ofMillis millis
  have hnonneg : 0 ≤ millis % millisPerDay := Int.emod_nonneg _ (by decide)
  rw [totalMillis, hhour, hmin, hsec, hmsec]
  omega

end PortableSql.Time
