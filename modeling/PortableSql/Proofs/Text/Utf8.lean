import PortableSql.Text.Utf8

/-!
# Characters and their bytes

A text is the sequence of the encodings of its characters. ASCII characters are single bytes below
128, and the bytes of all others are at least 128, so a byte below 128 is a character wherever it is
found. The boundaries of a text are the widths of its beginnings.
-/
namespace PortableSql.Text.Utf8

/-- The bytes of characters. -/
def bytesOf (text : List Char) : Bytes :=
  text.flatMap String.utf8EncodeChar

/-- The number of bytes of characters. -/
def width (text : List Char) : Nat :=
  (bytesOf text).length

variable {text : String} {c : Char}

@[simp] theorem bytesOf_nil : bytesOf [] = [] := rfl

theorem bytesOf_cons (c : Char) (rest : List Char) :
    bytesOf (c :: rest) = String.utf8EncodeChar c ++ bytesOf rest := rfl

@[simp] theorem bytesOf_append (first second : List Char) :
    bytesOf (first ++ second) = bytesOf first ++ bytesOf second :=
  List.flatMap_append

@[simp] theorem length_bytesOf (text : List Char) : (bytesOf text).length = width text := rfl

@[simp] theorem width_nil : width [] = 0 := rfl

@[simp] theorem width_append (first second : List Char) :
    width (first ++ second) = width first + width second := by
  rw [← length_bytesOf, bytesOf_append, List.length_append]
  rfl

theorem width_cons (c : Char) (rest : List Char) : width (c :: rest) = c.utf8Size + width rest := by
  rw [← length_bytesOf, bytesOf_cons, List.length_append, String.length_utf8EncodeChar]
  rfl

theorem width_cons_pos (c : Char) (rest : List Char) : 0 < width (c :: rest) := by
  have hpos := c.utf8Size_pos
  rw [width_cons]
  omega

/-! ## Texts and bytes -/

theorem toByteArray_eq (text : String) : text.toByteArray = (bytesOf text.toList).toByteArray := by
  rw [← String.utf8Encode_toList]
  rfl

theorem encode_eq_bytesOf (text : String) : encode text = bytesOf text.toList := by
  simp [encode, toByteArray_eq]

theorem utf8ByteSize_eq_width (text : String) : text.utf8ByteSize = width text.toList := by
  rw [← String.size_toByteArray, toByteArray_eq, List.size_toByteArray]
  rfl

/-- What was encoded is read back. -/
theorem decode?_encode (text : String) : decode? (encode text) = some text := by
  have h : (⟨(encode text).toArray⟩ : ByteArray) = text.toByteArray := by
    simp [encode]
  rw [decode?, h, String.fromUTF8?, dif_pos text.isValidUTF8]
  rfl

theorem decode?_bytesOf (text : List Char) : decode? (bytesOf text) = some (String.ofList text) := by
  have h := decode?_encode (String.ofList text)
  rwa [encode_eq_bytesOf, String.toList_ofList] at h

theorem bytesOf_injective {first second : List Char} (h : bytesOf first = bytesOf second) :
    first = second := by
  have hdecode := decode?_bytesOf first
  rw [h, decode?_bytesOf, Option.some.injEq, String.ofList_inj] at hdecode
  exact hdecode.symm

/-- Boundaries are the widths of the beginnings. -/
theorem isValid_iff {offset : Nat} :
    (String.Pos.Raw.mk offset).IsValid text ↔
      ∃ before after, text.toList = before ++ after ∧ offset = width before := by
  rw [String.Pos.Raw.isValid_iff_exists_append]
  constructor
  · rintro ⟨before, after, rfl, hoffset⟩
    refine ⟨before.toList, after.toList, String.toList_append, ?_⟩
    rw [← utf8ByteSize_eq_width]
    exact congrArg String.Pos.Raw.byteIdx hoffset
  · rintro ⟨before, after, htext, rfl⟩
    refine ⟨String.ofList before, String.ofList after, ?_, ?_⟩
    · rw [← String.ofList_append, ← htext, String.ofList_toList]
    · rw [String.Pos.Raw.ext_iff, String.byteIdx_rawEndPos, utf8ByteSize_eq_width,
        String.toList_ofList]

/-! ## ASCII -/

theorem utf8Size_ascii (h : c.toNat < 128) : c.utf8Size = 1 := by
  rw [Char.utf8Size_eq_one_iff]
  exact UInt32.le_iff_toNat_le.2 (Nat.le_of_lt_succ h)

theorem bytesOf_cons_ascii (h : c.toNat < 128) (rest : List Char) :
    bytesOf (c :: rest) = c.toUInt8 :: bytesOf rest := by
  rw [bytesOf_cons, String.utf8EncodeChar_eq_singleton (utf8Size_ascii h)]
  rfl

theorem high_of_mem_utf8EncodeChar (h : 128 ≤ c.toNat) :
    ∀ b ∈ String.utf8EncodeChar c, 128 ≤ b.toNat := by
  have hval : ¬ c.val.toNat ≤ 127 := by
    have hdef : c.toNat = c.val.toNat := rfl
    omega
  intro b hb
  simp only [String.utf8EncodeChar, if_neg hval] at hb
  split at hb
  · simp only [List.mem_cons, List.not_mem_nil, or_false] at hb
    rcases hb with rfl | rfl <;> simp only [UInt8.toNat_ofNat'] <;> omega
  · split at hb
    · simp only [List.mem_cons, List.not_mem_nil, or_false] at hb
      rcases hb with rfl | rfl | rfl <;> simp only [UInt8.toNat_ofNat'] <;> omega
    · simp only [List.mem_cons, List.not_mem_nil, or_false] at hb
      rcases hb with rfl | rfl | rfl | rfl <;> simp only [UInt8.toNat_ofNat'] <;> omega

/-- The bytes of a character beyond ASCII, the first of which is set apart. -/
theorem exists_bytes_of_high (h : 128 ≤ c.toNat) (rest : List Char) :
    ∃ b more, bytesOf (c :: rest) = b :: (more ++ bytesOf rest) ∧ 128 ≤ b.toNat ∧
      (∀ d ∈ more, 128 ≤ d.toNat) ∧ c.utf8Size = more.length + 1 := by
  have hhigh := high_of_mem_utf8EncodeChar h
  have hlength := String.length_utf8EncodeChar c
  rw [bytesOf_cons]
  cases hbytes : String.utf8EncodeChar c with
  | nil => exact absurd hbytes String.utf8EncodeChar_ne_nil
  | cons b more =>
    rw [hbytes] at hhigh hlength
    refine ⟨b, more, rfl, hhigh b (by simp), fun d hd => hhigh d (by simp [hd]), ?_⟩
    rw [← hlength, List.length_cons]

theorem toNat_toUInt8 (h : c.toNat < 128) : c.toUInt8.toNat = c.toNat := by
  change c.toNat % 256 = c.toNat
  omega

theorem ofUInt8_toUInt8 (h : c.toNat < 128) : Char.ofUInt8 c.toUInt8 = c := by
  apply Char.ext
  apply UInt32.toNat.inj
  exact toNat_toUInt8 h

theorem toUInt8_inj {d : Char} (hc : c.toNat < 128) (hd : d.toNat < 128) :
    c.toUInt8 = d.toUInt8 ↔ c = d := by
  constructor
  · intro h
    rw [← ofUInt8_toUInt8 hc, h, ofUInt8_toUInt8 hd]
  · rintro rfl
    rfl

theorem ne_toUInt8_of_high {b : UInt8} (hb : 128 ≤ b.toNat) (h : c.toNat < 128) :
    b ≠ c.toUInt8 := by
  rintro rfl
  rw [toNat_toUInt8 h] at hb
  omega

/-- **The first byte of a character tells it among those of ASCII**, and the others are of none. -/
theorem exists_bytes (c : Char) (rest : List Char) :
    ∃ b more, bytesOf (c :: rest) = b :: (more ++ bytesOf rest) ∧
      (∀ d : Char, d.toNat < 128 → (b = d.toUInt8 ↔ c = d)) ∧
      (∀ e ∈ more, 128 ≤ e.toNat) ∧ c.utf8Size = more.length + 1 := by
  by_cases hc : c.toNat < 128
  · exact ⟨c.toUInt8, [], bytesOf_cons_ascii hc rest, fun d hd => toUInt8_inj hc hd, by simp,
      utf8Size_ascii hc⟩
  · obtain ⟨b, more, hbytes, hb, hmore, hsize⟩ := exists_bytes_of_high (Nat.le_of_not_lt hc) rest
    refine ⟨b, more, hbytes, ?_, hmore, hsize⟩
    intro d hd
    have hne : c ≠ d := by
      rintro rfl
      exact hc hd
    simp [ne_toUInt8_of_high hb hd, hne]

/-- The first byte tells whether a text begins with an ASCII character. -/
theorem head?_bytesOf_eq_iff (h : c.toNat < 128) (text : List Char) :
    (bytesOf text).head? = some c.toUInt8 ↔ text.head? = some c := by
  cases text with
  | nil => simp
  | cons d rest =>
    obtain ⟨b, more, hbytes, hb, -, -⟩ := exists_bytes d rest
    rw [hbytes, List.head?_cons, List.head?_cons, Option.some.injEq, Option.some.injEq, hb c h]

/-! ## Classes of bytes -/

/-- A byte as a member of a class of characters. -/
def onByte (p : Char → Bool) (b : UInt8) : Bool :=
  p (Char.ofUInt8 b)

/-- A class that has all characters beyond ASCII or none of them. -/
def Uniform (p : Char → Bool) : Prop :=
  ∀ c d : Char, 128 ≤ c.toNat → 128 ≤ d.toNat → p c = p d

theorem onByte_toUInt8 (p : Char → Bool) (h : c.toNat < 128) : onByte p c.toUInt8 = p c := by
  rw [onByte, ofUInt8_toUInt8 h]

theorem onByte_of_high {p : Char → Bool} (hp : Uniform p) (h : 128 ≤ c.toNat) {b : UInt8}
    (hb : 128 ≤ b.toNat) : onByte p b = p c :=
  hp _ _ hb h

/-- **A run of bytes of a class ends between two characters.** -/
theorem takeWhile_bytesOf {p : Char → Bool} (hp : Uniform p) (text : List Char) :
    (bytesOf text).takeWhile (onByte p) = bytesOf (text.takeWhile p) := by
  induction text with
  | nil => rfl
  | cons c rest ih =>
    by_cases hc : c.toNat < 128
    · rw [bytesOf_cons_ascii hc, List.takeWhile_cons, List.takeWhile_cons, onByte_toUInt8 p hc, ih]
      split
      · rw [bytesOf_cons_ascii hc]
      · rfl
    · have hhigh := Nat.le_of_not_lt hc
      rw [List.takeWhile_cons]
      split
      · next hpc =>
        rw [bytesOf_cons, bytesOf_cons, List.takeWhile_append_of_pos, ih]
        intro b hb
        rw [onByte_of_high hp hhigh (high_of_mem_utf8EncodeChar hhigh b hb), hpc]
      · next hpc =>
        obtain ⟨b, more, hbytes, hb, -, -⟩ := exists_bytes_of_high hhigh rest
        rw [hbytes, List.takeWhile_cons, onByte_of_high hp hhigh hb, if_neg hpc, bytesOf_nil]

/-! ## Offsets -/

/-- From the offset on, the text reads `rest`. -/
def Reads (text : List Char) (offset : Nat) (rest : List Char) : Prop :=
  ∃ before, text = before ++ rest ∧ offset = width before

namespace Reads

variable {text rest : List Char} {offset : Nat}

theorem zero (text : List Char) : Reads text 0 text :=
  ⟨[], rfl, rfl⟩

theorem append {part : List Char} (h : Reads text offset (part ++ rest)) :
    Reads text (offset + width part) rest := by
  obtain ⟨before, rfl, rfl⟩ := h
  exact ⟨before ++ part, by simp, by simp⟩

theorem cons {c : Char} (h : Reads text offset (c :: rest)) (hc : c.toNat < 128) :
    Reads text (offset + 1) rest := by
  have happend : Reads text (offset + width [c]) rest := append h
  rwa [width_cons, utf8Size_ascii hc] at happend

theorem drop (h : Reads text offset rest) : (bytesOf text).drop offset = bytesOf rest := by
  obtain ⟨before, rfl, rfl⟩ := h
  rw [bytesOf_append, ← length_bytesOf, List.drop_left]

theorem unique {rest' : List Char} (h : Reads text offset rest) (h' : Reads text offset rest') :
    rest = rest' :=
  bytesOf_injective (h.drop.symm.trans h'.drop)

theorem getElem? (h : Reads text offset rest) : (bytesOf text)[offset]? = (bytesOf rest).head? := by
  rw [← List.head?_drop, h.drop]

theorem width_eq (h : Reads text offset rest) : width text = offset + width rest := by
  obtain ⟨before, rfl, rfl⟩ := h
  exact width_append before rest

theorem isValid {text : String} (h : Reads text.toList offset rest) :
    (String.Pos.Raw.mk offset).IsValid text := by
  obtain ⟨before, htext, hoffset⟩ := h
  exact isValid_iff.2 ⟨before, rest, htext, hoffset⟩

end Reads

/-- **A byte begins a character or is at least 128.** -/
theorem boundary_or_high {text : List Char} {offset : Nat} (h : offset < width text) :
    (∃ c rest, Reads text offset (c :: rest)) ∨
      ∃ b, (bytesOf text)[offset]? = some b ∧ 128 ≤ b.toNat := by
  induction text generalizing offset with
  | nil => exact absurd h (Nat.not_lt_zero _)
  | cons c rest ih =>
    rw [width_cons] at h
    by_cases hoffset : offset < c.utf8Size
    · by_cases hzero : offset = 0
      · exact .inl ⟨c, rest, [], rfl, hzero⟩
      · have hhigh : 128 ≤ c.toNat := by
          refine Nat.le_of_not_lt fun hlow => ?_
          have hsize := utf8Size_ascii hlow
          omega
        have hlt : offset < (String.utf8EncodeChar c).length := by
          rwa [String.length_utf8EncodeChar]
        refine .inr ⟨(String.utf8EncodeChar c)[offset], ?_, ?_⟩
        · rw [bytesOf_cons, List.getElem?_append_left hlt, List.getElem?_eq_getElem hlt]
        · exact high_of_mem_utf8EncodeChar hhigh _ (List.getElem_mem hlt)
    · have hlength := String.length_utf8EncodeChar c
      have hrest : offset - c.utf8Size < width rest := by omega
      obtain ⟨d, after, before, rfl, hwidth⟩ | ⟨b, hb, hhigh⟩ := ih hrest
      · refine .inl ⟨d, after, c :: before, rfl, ?_⟩
        rw [width_cons]
        omega
      · refine .inr ⟨b, ?_, hhigh⟩
        rw [bytesOf_cons, List.getElem?_append_right (by omega), hlength, hb]

end PortableSql.Text.Utf8
