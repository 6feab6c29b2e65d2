import PortableSql.Text.Utf16

/-!
# Texts and their 16-bit units

The units of a character are one unit that is no surrogate, or one that opens a pair and one that
closes it. So a text is read back from its units, and units that are no text are those with a
surrogate whose other half is missing.
-/
namespace PortableSql.Text.Utf16

variable {u v : UInt16} {units rest : List UInt16} {text : String}

theorem isTrailing_of_isLeading (h : isLeading u = true) : isTrailing u = false := by
  simp only [isLeading, isTrailing, decide_eq_true_eq, decide_eq_false_iff_not] at h ⊢
  omega

/-! ## The units of a character -/

/-- A character is one unit that is no surrogate, or a pair of surrogates. -/
theorem ofChar_cases (c : Char) :
    (∃ u, ofChar c = [u] ∧ isLeading u = false ∧ isTrailing u = false ∧ Char.ofNat u.toNat = c) ∨
      ∃ u v, ofChar c = [u, v] ∧ isLeading u = true ∧ isTrailing v = true ∧ ofPair u v = c := by
  have hvalid : c.toNat < 0xD800 ∨ 0xDFFF < c.toNat ∧ c.toNat < 0x110000 := c.valid
  have hback := Char.ofNat_toNat c
  by_cases hsmall : c.toNat < 0x10000
  · have hunit : (UInt16.ofNat c.toNat).toNat = c.toNat := by
      rw [UInt16.toNat_ofNat']
      omega
    refine .inl ⟨UInt16.ofNat c.toNat, by rw [ofChar, if_pos hsmall], ?_, ?_, ?_⟩
    · simp only [isLeading, hunit, decide_eq_false_iff_not]
      omega
    · simp only [isTrailing, hunit, decide_eq_false_iff_not]
      omega
    · rw [hunit, hback]
  · obtain ⟨high, hhigh⟩ : ∃ high, 0xD800 + (c.toNat - 0x10000) / 0x400 = high := ⟨_, rfl⟩
    obtain ⟨low, hlow⟩ : ∃ low, 0xDC00 + (c.toNat - 0x10000) % 0x400 = low := ⟨_, rfl⟩
    have hfirst : (UInt16.ofNat high).toNat = high := by
      rw [UInt16.toNat_ofNat']
      omega
    have hsecond : (UInt16.ofNat low).toNat = low := by
      rw [UInt16.toNat_ofNat']
      omega
    refine .inr ⟨UInt16.ofNat high, UInt16.ofNat low, ?_, ?_, ?_, ?_⟩
    · rw [ofChar, if_neg hsmall, hhigh, hlow]
    · simp only [isLeading, hfirst, decide_eq_true_eq]
      omega
    · simp only [isTrailing, hsecond, decide_eq_true_eq]
      omega
    · have hsum : 0x10000 + (high - 0xD800) * 0x400 + (low - 0xDC00) = c.toNat := by omega
      rw [ofPair, hfirst, hsecond, hsum, hback]

theorem toNat_ofNat_of_valid {n : Nat} (h : n.isValidChar) : (Char.ofNat n).toNat = n := by
  rw [Char.ofNat, dif_pos h]
  rfl

/-- The units of the character of a unit that is no surrogate. -/
theorem ofChar_ofNat (hleading : isLeading u = false) (htrailing : isTrailing u = false) :
    ofChar (Char.ofNat u.toNat) = [u] := by
  have hlt := u.toNat_lt
  simp only [isLeading, isTrailing, decide_eq_false_iff_not] at hleading htrailing
  have hvalid : u.toNat.isValidChar := by
    simp only [Nat.isValidChar]
    omega
  rw [ofChar, toNat_ofNat_of_valid hvalid, if_pos hlt, UInt16.ofNat_toNat]

/-- The units of the character of a pair are the pair. -/
theorem ofChar_ofPair (hu : isLeading u = true) (hv : isTrailing v = true) :
    ofChar (ofPair u v) = [u, v] := by
  simp only [isLeading, isTrailing, decide_eq_true_eq] at hu hv
  obtain ⟨n, hn⟩ : ∃ n, 0x10000 + (u.toNat - 0xD800) * 0x400 + (v.toNat - 0xDC00) = n := ⟨_, rfl⟩
  have hvalid : n.isValidChar := by
    simp only [Nat.isValidChar]
    omega
  have hlarge : ¬n < 0x10000 := by omega
  have hhigh : 0xD800 + (n - 0x10000) / 0x400 = u.toNat := by omega
  have hlow : 0xDC00 + (n - 0x10000) % 0x400 = v.toNat := by omega
  rw [ofChar, ofPair, hn, toNat_ofNat_of_valid hvalid, if_neg hlarge, hhigh, hlow,
    UInt16.ofNat_toNat, UInt16.ofNat_toNat]

/-! ## The equations of reading -/

@[simp] theorem toChars?_nil : toChars? [] = some [] := by
  rw [toChars?]

theorem toChars?_cons_of_unit (hleading : isLeading u = false) (htrailing : isTrailing u = false) :
    toChars? (u :: rest) = (toChars? rest).map (Char.ofNat u.toNat :: ·) := by
  rw [toChars?.eq_def]
  simp [hleading, htrailing]

theorem toChars?_cons_of_pair (hu : isLeading u = true) (hv : isTrailing v = true) :
    toChars? (u :: v :: rest) = (toChars? rest).map (ofPair u v :: ·) := by
  rw [toChars?.eq_def]
  simp [hu, hv]

/-! ## Texts -/

theorem toChars?_ofChars (text : List Char) : toChars? (ofChars text) = some text := by
  induction text with
  | nil => simp
  | cons c text ih =>
    rw [ofChars_cons]
    rcases ofChar_cases c with ⟨u, hunits, hleading, htrailing, hc⟩ | ⟨u, v, hunits, hu, hv, hc⟩
    · rw [hunits, List.singleton_append, toChars?_cons_of_unit hleading htrailing, ih, hc]
      rfl
    · rw [hunits, List.cons_append, List.singleton_append, toChars?_cons_of_pair hu hv, ih, hc]
      rfl

theorem ofChars_of_toChars? {chars : List Char} (h : toChars? units = some chars) :
    ofChars chars = units := by
  fun_induction toChars? units generalizing chars with
  | case1 => simp_all
  | case2 u hu v rest hv ih =>
    obtain ⟨chars, hrest, rfl⟩ := Option.map_eq_some_iff.1 h
    simp [ofChar_ofPair hu hv, ih hrest]
  | case3 => cases h
  | case4 => cases h
  | case5 => cases h
  | case6 u rest hleading htrailing ih =>
    obtain ⟨chars, hrest, rfl⟩ := Option.map_eq_some_iff.1 h
    simp [ofChar_ofNat (eq_false_of_ne_true hleading) (eq_false_of_ne_true htrailing), ih hrest]

/-- **Units are a text exactly when they are its units.** -/
theorem decode?_eq_some_iff : decode? units = some text ↔ units = encode text := by
  rw [decode?, Option.map_eq_some_iff, encode]
  constructor
  · rintro ⟨chars, hchars, rfl⟩
    rw [String.toList_ofList, ofChars_of_toChars? hchars]
  · rintro rfl
    exact ⟨text.toList, toChars?_ofChars _, String.ofList_toList⟩

/-! ## Surrogates without their other half -/

/-- Behind `before` and in front of `after`, the unit is half of a pair whose other half is
missing. -/
def IsLone (before : List UInt16) (u : UInt16) (after : List UInt16) : Prop :=
  (isLeading u = true ∧ ∀ v ∈ after.head?, isTrailing v = false) ∨
    (isTrailing u = true ∧ ∀ v ∈ before.getLast?, isLeading v = false)

/-- Some unit is half of a pair whose other half is missing. -/
def HasLoneSurrogate (units : List UInt16) : Prop :=
  ∃ before u after, units = before ++ u :: after ∧ IsLone before u after

theorem not_hasLoneSurrogate_nil : ¬HasLoneSurrogate [] := by
  rintro ⟨before, u, after, hunits, -⟩
  simp at hunits

theorem hasLoneSurrogate_cons_iff :
    HasLoneSurrogate (u :: rest) ↔
      IsLone [] u rest ∨
        ∃ before v after, rest = before ++ v :: after ∧ IsLone (u :: before) v after := by
  constructor
  · rintro ⟨before, v, after, hunits, hlone⟩
    cases before with
    | nil =>
      obtain ⟨rfl, rfl⟩ := List.cons.inj hunits
      exact .inl hlone
    | cons w before =>
      obtain ⟨rfl, rfl⟩ := List.cons.inj hunits
      exact .inr ⟨before, v, after, rfl, hlone⟩
  · rintro (hlone | ⟨before, v, after, rfl, hlone⟩)
    · exact ⟨[], u, rest, rfl, hlone⟩
    · exact ⟨u :: before, v, after, rfl, hlone⟩

/-- A unit that opens no pair may as well not be there. -/
theorem isLone_cons_iff {before after : List UInt16} (h : isLeading u = false) :
    IsLone (u :: before) v after ↔ IsLone before v after := by
  cases before <;> simp [IsLone, h]

theorem hasLoneSurrogate_cons_of_unit (hleading : isLeading u = false)
    (htrailing : isTrailing u = false) :
    HasLoneSurrogate (u :: rest) ↔ HasLoneSurrogate rest := by
  rw [hasLoneSurrogate_cons_iff]
  simp only [isLone_cons_iff hleading]
  simp [IsLone, hleading, htrailing, HasLoneSurrogate]

theorem hasLoneSurrogate_cons_of_pair (hu : isLeading u = true) (hv : isTrailing v = true) :
    HasLoneSurrogate (u :: v :: rest) ↔ HasLoneSurrogate rest := by
  have hnot : isLeading v = false := by
    refine eq_false_of_ne_true fun hleading => ?_
    have htrailing := isTrailing_of_isLeading hleading
    simp [hv] at htrailing
  have hfirst : ¬IsLone [] u (v :: rest) := by
    simp [IsLone, hv, isTrailing_of_isLeading hu]
  have hsecond : ¬IsLone [u] v rest := by
    simp [IsLone, hu, hnot]
  rw [hasLoneSurrogate_cons_iff]
  constructor
  · rintro (hlone | ⟨before, w, after, hunits, hlone⟩)
    · exact absurd hlone hfirst
    · cases before with
      | nil =>
        obtain ⟨rfl, rfl⟩ := List.cons.inj hunits
        exact absurd hlone hsecond
      | cons w' before =>
        obtain ⟨rfl, rfl⟩ := List.cons.inj hunits
        have hsame : IsLone (v :: before) w after := by simpa [IsLone] using hlone
        exact ⟨before, w, after, rfl, (isLone_cons_iff hnot).1 hsame⟩
  · rintro ⟨before, w, after, rfl, hlone⟩
    have hsame : IsLone (v :: before) w after := (isLone_cons_iff hnot).2 hlone
    exact .inr ⟨v :: before, w, after, rfl, by simpa [IsLone] using hsame⟩

/-- **Units are refused exactly when a surrogate is missing its other half.** -/
theorem decode?_eq_none_iff : decode? units = none ↔ HasLoneSurrogate units := by
  rw [decode?, Option.map_eq_none_iff]
  fun_induction toChars? units with
  | case1 => simp [not_hasLoneSurrogate_nil]
  | case2 u hu v rest hv ih =>
    rw [Option.map_eq_none_iff, ih, hasLoneSurrogate_cons_of_pair hu hv]
  | case3 u hu v rest hv =>
    have hlone : IsLone [] u (v :: rest) := by simp [IsLone, hu, hv]
    simp [hasLoneSurrogate_cons_iff, hlone]
  | case4 u hu =>
    have hlone : IsLone [] u [] := by simp [IsLone, hu]
    simp [hasLoneSurrogate_cons_iff, hlone]
  | case5 u rest hu hv =>
    have hlone : IsLone [] u rest := by simp [IsLone, hv]
    simp [hasLoneSurrogate_cons_iff, hlone]
  | case6 u rest hleading htrailing ih =>
    rw [Option.map_eq_none_iff, ih, hasLoneSurrogate_cons_of_unit (eq_false_of_ne_true hleading)
      (eq_false_of_ne_true htrailing)]

/-- The first half of a pair, with a letter in place of the second. -/
example : decode? [0xD83D, 0x41] = none := by cbv

end PortableSql.Text.Utf16
