import PortableSql.Proofs.Sql.ByteScan

/-!
# The scan by bytes finds the tokens

Where a text reads a character, the scan by bytes finds the token that `Token.scan?` takes off, over
the bytes of its source. Everywhere else it finds nothing, so a token begins and ends at boundaries
and so do the parts that it keeps.
-/
namespace PortableSql

open Text

namespace ByteScan

variable {text rest : List Char} {offset : Nat} {c : Char}

/-! ## Classes -/

theorem beq_eq_false_of_high {d : Char} (h : 128 ≤ c.toNat) (hd : d.toNat < 128) :
    (c == d) = false := by
  rw [beq_eq_false_iff_ne]
  rintro rfl
  omega

theorem uniform_of_high {p : Char → Bool} {answer : Bool}
    (h : ∀ c : Char, 128 ≤ c.toNat → p c = answer) : Utf8.Uniform p := by
  intro c d hc hd
  rw [h c hc, h d hd]

theorem not_le_of_high {d : Char} (h : 128 ≤ c.toNat) (hd : d.toNat < 128) : ¬ c.val ≤ d.val := by
  rw [UInt32.le_iff_toNat_le]
  exact Nat.not_le_of_lt (Nat.lt_of_lt_of_le hd h)

theorem isDigit_of_high (h : 128 ≤ c.toNat) : c.isDigit = false := by
  have hnine : ¬ c.val ≤ '9'.val := not_le_of_high h (by decide)
  simp only [Char.isDigit, hnine, decide_false, Bool.and_false]

theorem isAlpha_of_high (h : 128 ≤ c.toNat) : c.isAlpha = false := by
  have hupper : ¬ c.val ≤ 'Z'.val := not_le_of_high h (by decide)
  have hlower : ¬ c.val ≤ 'z'.val := not_le_of_high h (by decide)
  refine Bool.or_eq_false_iff.2 ⟨Bool.eq_false_iff.2 fun hc => ?_, Bool.eq_false_iff.2 fun hc => ?_⟩
  · exact hupper (of_decide_eq_true hc).2
  · exact hlower (of_decide_eq_true (Bool.and_eq_true_iff.1 hc).2)

theorem isWordChar_of_high (h : 128 ≤ c.toNat) : isWordChar c = false := by
  rw [isWordChar, Char.isAlphanum, isAlpha_of_high h, isDigit_of_high h,
    beq_eq_false_of_high h (by decide)]
  rfl

theorem isLineBreak_of_high (h : 128 ≤ c.toNat) : isLineBreak c = false := by
  rw [isLineBreak, beq_eq_false_of_high h (by decide), beq_eq_false_of_high h (by decide)]
  rfl

theorem isAsciiBlank_of_high (h : 128 ≤ c.toNat) : isAsciiBlank c = false := by
  simp [isAsciiBlank, beq_eq_false_of_high h]

theorem inLine_of_high (h : 128 ≤ c.toNat) : (!isLineBreak c) = true := by
  rw [isLineBreak_of_high h, Bool.not_false]

theorem inData_of_high (h : 128 ≤ c.toNat) : (c != ',' && c != '}') = true := by
  simp [bne, beq_eq_false_of_high h]

theorem inTemplate_of_high (h : 128 ≤ c.toNat) : (!isLineBreak c && c != '}') = true := by
  simp [bne, isLineBreak_of_high h, beq_eq_false_of_high h]

/-! ## Runs -/

/-- A run of a class ends where the run of characters does. -/
theorem runEnd_eq {p : Char → Bool} {answer : Bool} (hp : ∀ c : Char, 128 ≤ c.toNat → p c = answer)
    (h : Utf8.Reads text offset rest) :
    runEnd p (Utf8.bytesOf text) offset = offset + Utf8.width (rest.takeWhile p) := by
  rw [runEnd, h.drop, Utf8.takeWhile_bytesOf (uniform_of_high hp), Utf8.length_bytesOf]

theorem reads_dropWhile (p : Char → Bool) (h : Utf8.Reads text offset rest) :
    Utf8.Reads text (offset + Utf8.width (rest.takeWhile p)) (rest.dropWhile p) :=
  Utf8.Reads.append (by rwa [List.takeWhile_append_dropWhile])

/-- A run of no bytes has no characters. -/
theorem add_width_eq_self_iff {text : List Char} : offset + Utf8.width text = offset ↔ text = [] := by
  cases text with
  | nil => simp
  | cons c rest =>
    have hpos := Utf8.width_cons_pos c rest
    simp only [reduceCtorEq, iff_false]
    omega

/-! ## Words, comments and literals -/

theorem isPrefixOf_bytesOf {word : List Char} (hword : ∀ c ∈ word, c.toNat < 128)
    (text : List Char) :
    (word.map Char.toUInt8).isPrefixOf (Utf8.bytesOf text) = (word.isPrefixOf? text).isSome := by
  induction word generalizing text with
  | nil => simp
  | cons c word ih =>
    have hc := hword c (by simp)
    cases text with
    | nil => simp
    | cons d rest =>
      obtain ⟨b, more, hbytes, hb, -, hsize⟩ := Utf8.exists_bytes d rest
      rw [hbytes, List.map_cons, List.isPrefixOf_cons_cons, isPrefixOf?_cons_cons]
      by_cases hcd : c = d
      · subst hcd
        obtain rfl := (hb c hc).2 rfl
        have hnil : more = [] := by
          rw [Utf8.utf8Size_ascii hc] at hsize
          exact List.eq_nil_of_length_eq_zero (by omega)
        rw [hnil, List.nil_append, ih fun e he => hword e (by simp [he])]
        simp
      · have hne : c.toUInt8 ≠ b := fun h => hcd ((hb c hc).1 h.symm).symm
        simp [hcd, hne]

theorem wordAt_eq {word : List Char} (hword : ∀ c ∈ word, c.toNat < 128)
    (h : Utf8.Reads text offset rest) :
    wordAt word (Utf8.bytesOf text) offset = (word.isPrefixOf? rest).isSome := by
  rw [wordAt, h.drop, isPrefixOf_bytesOf hword]

/-- Bytes that are no asterisk do not end a comment. -/
theorem commentLength?_append {more : Bytes} (h : ∀ b ∈ more, b ≠ '*'.toUInt8) (bytes : Bytes) :
    commentLength? (more ++ bytes) = (commentLength? bytes).map (· + more.length) := by
  induction more with
  | nil => simp
  | cons b more ih =>
    have hb := h b (by simp)
    rw [List.cons_append, commentLength?, if_neg (fun hstar => hb hstar.1),
      ih fun d hd => h d (by simp [hd])]
    cases commentLength? bytes <;> simp [Nat.add_assoc]

theorem commentLength?_bytesOf (text : List Char) :
    commentLength? (Utf8.bytesOf text) =
      (closeComment? text).map fun (inside, _) => Utf8.width inside := by
  induction text with
  | nil => rfl
  | cons c rest ih =>
    obtain ⟨b, more, hbytes, hb, hmore, hsize⟩ := Utf8.exists_bytes c rest
    by_cases hstar : c = '*'
    · subst hstar
      rw [Utf8.bytesOf_cons_ascii (by decide), commentLength?, closeComment?, ih]
      simp only [Utf8.head?_bytesOf_eq_iff (c := '/') (by decide), true_and]
      split
      · rfl
      · cases closeComment? rest with
        | none => rfl
        | some found => simp only [Option.map_some, Utf8.width_cons, Utf8.utf8Size_ascii (c := '*') (by decide),
            Nat.add_comm]
    · have hhead : ∀ e ∈ b :: more, e ≠ '*'.toUInt8 := by
        intro e he
        rcases List.mem_cons.1 he with rfl | he
        · exact fun h => hstar ((hb '*' (by decide)).1 h)
        · exact Utf8.ne_toUInt8_of_high (hmore e he) (by decide)
      rw [hbytes, ← List.cons_append, commentLength?_append hhead, ih, closeComment?,
        if_neg fun h => hstar h.1, List.length_cons, ← hsize]
      cases closeComment? rest with
      | none => rfl
      | some found => simp only [Option.map_some, Utf8.width_cons, Nat.add_comm]

/-- A byte that is no quote and escapes nothing is passed. -/
theorem closingFrom_cons {α : Type} [DecidableEq α] {escape quote x : α} (hescape : x ≠ escape)
    (hquote : x ≠ quote) (rest : List α) (passed : Nat) (last : Option Nat) :
    Literal.closingFrom escape quote (x :: rest) passed last =
      Literal.closingFrom escape quote rest (passed + 1) last := by
  cases rest with
  | nil => simp [Literal.closingFrom, hquote]
  | cons y rest => rw [Literal.closingFrom, if_neg hescape, if_neg hquote]

theorem closingFrom_append {α : Type} [DecidableEq α] {escape quote : α} {more : List α}
    (h : ∀ x ∈ more, x ≠ escape ∧ x ≠ quote) (rest : List α) (passed : Nat) (last : Option Nat) :
    Literal.closingFrom escape quote (more ++ rest) passed last =
      Literal.closingFrom escape quote rest (passed + more.length) last := by
  induction more generalizing passed with
  | nil => rfl
  | cons x more ih =>
    have hx := h x (by simp)
    rw [List.cons_append, closingFrom_cons hx.1 hx.2, ih fun y hy => h y (by simp [hy]),
      List.length_cons, Nat.add_assoc, Nat.add_comm 1]

/-- What an escape takes along is passed with it. -/
theorem closingFrom_escape {α : Type} [DecidableEq α] {escape quote : α} (y : α) (rest : List α)
    (passed : Nat) (last : Option Nat) :
    Literal.closingFrom escape quote (escape :: y :: rest) passed last =
      Literal.closingFrom escape quote rest (passed + 2)
        (if y = quote then some (passed + 2) else last) := by
  rw [Literal.closingFrom, if_pos rfl]

/-- A quote closes unless another one follows. -/
theorem closingFrom_quote {α : Type} [DecidableEq α] {escape quote : α} (h : quote ≠ escape)
    (rest : List α) (passed : Nat) (last : Option Nat) :
    Literal.closingFrom escape quote (quote :: rest) passed last =
      if rest.head? = some quote then
        Literal.closingFrom escape quote rest.tail (passed + 2) (some (passed + 1))
      else some (passed + 1) := by
  cases rest with
  | nil => simp [Literal.closingFrom]
  | cons y rest => simp [Literal.closingFrom, h]

/-- Bytes beyond ASCII neither escape nor close. -/
theorem closingFrom_high {quote : Char} (hquote : quote.toNat < 128) {more : Bytes}
    (h : ∀ b ∈ more, 128 ≤ b.toNat) (bytes : Bytes) (passed : Nat) (last : Option Nat) :
    Literal.closingFrom '\\'.toUInt8 quote.toUInt8 (more ++ bytes) passed last =
      Literal.closingFrom '\\'.toUInt8 quote.toUInt8 bytes (passed + more.length) last := by
  refine closingFrom_append (fun b hb => ⟨?_, ?_⟩) bytes passed last
  · exact Utf8.ne_toUInt8_of_high (h b hb) (by decide)
  · exact Utf8.ne_toUInt8_of_high (h b hb) hquote

theorem width_take_length (passed rest : List Char) :
    Utf8.width ((passed ++ rest).take passed.length) = Utf8.width passed := by
  rw [List.take_left]

/-- From the end of `passed` on, the search for the closing quote of a body over bytes is that over
characters, in widths of the beginnings of the body. -/
def ClosesAlike (quote : Char) (passed rest : List Char) : Prop :=
  ∀ last : Option Nat,
    Literal.closingFrom '\\'.toUInt8 quote.toUInt8 (Utf8.bytesOf rest) (Utf8.width passed)
        (last.map fun n => Utf8.width ((passed ++ rest).take n)) =
      (Literal.closingFrom '\\' quote rest passed.length last).map fun n =>
        Utf8.width ((passed ++ rest).take n)

namespace ClosesAlike

variable {quote x : Char} {passed : List Char}

/-- A character that is no quote and escapes nothing is passed. -/
theorem cons (h : ClosesAlike quote (passed ++ [x]) rest) (hquote : quote.toNat < 128)
    (hescape : x ≠ '\\') (hx : x ≠ quote) : ClosesAlike quote passed (x :: rest) := by
  intro last
  obtain ⟨b, more, hbytes, hb, hmore, hsize⟩ := Utf8.exists_bytes x rest
  have hwidth : Utf8.width (passed ++ [x]) = Utf8.width passed + 1 + more.length := by
    simp only [Utf8.width_append, Utf8.width_cons, Utf8.width_nil, hsize]
    omega
  have hrec := h last
  rw [List.append_assoc, List.singleton_append, hwidth, List.length_append,
    List.length_singleton] at hrec
  rw [hbytes, closingFrom_cons _ _, closingFrom_high hquote hmore, hrec,
    closingFrom_cons hescape hx]
  · exact fun h => hescape ((hb '\\' (by decide)).1 h)
  · exact fun h => hx ((hb quote hquote).1 h)

/-- What an escape takes along is passed with it, and a quote may be the closing one. -/
theorem escape (h : ClosesAlike quote (passed ++ ['\\', x]) rest) (hquote : quote.toNat < 128) :
    ClosesAlike quote passed ('\\' :: x :: rest) := by
  intro last
  obtain ⟨b, more, hbytes, hb, hmore, hsize⟩ := Utf8.exists_bytes x rest
  have hbody : (passed ++ ['\\', x]) ++ rest = passed ++ '\\' :: x :: rest := by simp
  have hwidth : Utf8.width (passed ++ ['\\', x]) = Utf8.width passed + 2 + more.length := by
    simp only [Utf8.width_append, Utf8.width_cons, Utf8.width_nil, hsize,
      Utf8.utf8Size_ascii (c := '\\') (by decide)]
    omega
  have hlast : (if b = quote.toUInt8 then some (Utf8.width passed + 2)
        else last.map fun n => Utf8.width ((passed ++ '\\' :: x :: rest).take n)) =
      (if x = quote then some (passed.length + 2) else last).map fun n =>
        Utf8.width ((passed ++ '\\' :: x :: rest).take n) := by
    by_cases hx : x = quote
    · have hlength : more.length = 0 := by
        rw [hx, Utf8.utf8Size_ascii hquote] at hsize
        omega
      have htake := width_take_length (passed ++ ['\\', x]) rest
      rw [hbody, hwidth, hlength, List.length_append] at htake
      rw [if_pos ((hb quote hquote).2 hx), if_pos hx, Option.map_some]
      exact congrArg some htake.symm
    · rw [if_neg fun h => hx ((hb quote hquote).1 h), if_neg hx]
  have hrec := h (if x = quote then some (passed.length + 2) else last)
  rw [hbody, hwidth, List.length_append] at hrec
  rw [Utf8.bytesOf_cons_ascii (by decide), hbytes, closingFrom_escape, closingFrom_escape,
    closingFrom_high hquote hmore, hlast, hrec]
  rfl

/-- A quote closes unless another one follows, with which it is passed. -/
theorem closing (h : ∀ tail, rest = quote :: tail → ClosesAlike quote (passed ++ [quote, quote]) tail)
    (hquote : quote.toNat < 128) (hne : quote ≠ '\\') :
    ClosesAlike quote passed (quote :: rest) := by
  intro last
  have hnebyte : quote.toUInt8 ≠ '\\'.toUInt8 := fun h =>
    hne ((Utf8.toUInt8_inj hquote (by decide)).1 h)
  have hfirst : (passed ++ [quote]) ++ rest = passed ++ quote :: rest := by simp
  have htake := width_take_length (passed ++ [quote]) rest
  rw [hfirst, List.length_append, List.length_singleton, Utf8.width_append, Utf8.width_cons,
    Utf8.utf8Size_ascii hquote, Utf8.width_nil] at htake
  rw [Utf8.bytesOf_cons_ascii hquote, closingFrom_quote hnebyte, closingFrom_quote hne]
  simp only [Utf8.head?_bytesOf_eq_iff hquote]
  split
  · next hhead =>
    obtain ⟨tail, rfl⟩ : ∃ tail, rest = quote :: tail := by
      cases rest with
      | nil => simp at hhead
      | cons y tail => exact ⟨tail, by simpa using hhead⟩
    have hboth : (passed ++ [quote, quote]) ++ tail = passed ++ quote :: quote :: tail := by simp
    have hwidth : Utf8.width (passed ++ [quote, quote]) = Utf8.width passed + 2 := by
      simp only [Utf8.width_append, Utf8.width_cons, Utf8.width_nil, Utf8.utf8Size_ascii hquote]
    have hrec := h tail rfl (some (passed.length + 1))
    rw [hboth, Option.map_some, htake, hwidth, List.length_append] at hrec
    rw [Utf8.bytesOf_cons_ascii hquote]
    exact hrec
  · exact congrArg some htake.symm

end ClosesAlike

/-- **The search for the closing quote over bytes is that over characters.** -/
theorem closesAlike {quote : Char} (hquote : quote.toNat < 128) (hne : quote ≠ '\\')
    (passed rest : List Char) : ClosesAlike quote passed rest := by
  have hnebyte : quote.toUInt8 ≠ '\\'.toUInt8 := fun h =>
    hne ((Utf8.toUInt8_inj hquote (by decide)).1 h)
  -- an escape and a doubled quote take two characters at once
  induction h : rest.length using Nat.strongRecOn generalizing rest passed with
  | _ n ih =>
    subst h
    match rest with
    | [] => exact fun _ => rfl
    | x :: rest =>
      by_cases hescape : x = '\\'
      · subst hescape
        match rest with
        | [] =>
          intro last
          rw [Utf8.bytesOf_cons_ascii (by decide)]
          simp [Literal.closingFrom, hne.symm, hnebyte.symm]
        | y :: rest =>
          exact .escape (ih rest.length (by simp only [List.length_cons]; omega) _ _ rfl) hquote
      · by_cases hx : x = quote
        · subst hx
          refine .closing (fun tail htail => ih tail.length ?_ _ _ rfl) hquote hne
          rw [htail]
          simp only [List.length_cons]
          omega
        · exact .cons (ih rest.length (by simp) _ _ rfl) hquote hescape hx

theorem closing?_bytesOf {quote : Char} (hquote : quote.toNat < 128) (hne : quote ≠ '\\')
    (body : List Char) :
    Literal.closing? '\\'.toUInt8 quote.toUInt8 (Utf8.bytesOf body) =
      (Literal.closing? '\\' quote body).map fun n => Utf8.width (body.take n) :=
  closesAlike hquote hne [] body none

theorem splitLineBreak_eq {c : Char} (h : ¬ (c = '\r' ∧ rest.head? = some '\n')) :
    splitLineBreak (c :: rest) = ([c], rest) := by
  unfold splitLineBreak
  split
  · next hcr =>
    simp only [List.cons.injEq] at hcr
    obtain ⟨rfl, rfl⟩ := hcr
    exact absurd ⟨rfl, rfl⟩ h
  · next hc =>
    simp only [List.cons.injEq] at hc
    obtain ⟨rfl, rfl⟩ := hc
    rfl
  · next hnil => exact absurd hnil (by simp)

/-- A line break is ASCII, so it ends where a character does. -/
theorem breakEnd_eq (h : Utf8.Reads text offset rest) (hrest : ∀ c ∈ rest.head?, isLineBreak c) :
    breakEnd (Utf8.bytesOf text) offset = offset + Utf8.width (splitLineBreak rest).1 := by
  rw [breakEnd, h.getElem?]
  cases rest with
  | nil => rfl
  | cons c after =>
    have hc : c.toNat < 128 := by
      refine Nat.lt_of_not_le fun hhigh => ?_
      have hbreak := hrest c rfl
      rw [isLineBreak_of_high hhigh] at hbreak
      exact Bool.false_ne_true hbreak
    rw [(h.cons hc).getElem?, Utf8.bytesOf_cons_ascii hc, List.head?_cons]
    simp only [Utf8.toUInt8_inj (d := '\r') hc (by decide),
      Utf8.head?_bytesOf_eq_iff (c := '\n') (by decide)]
    split
    · next hcrlf =>
      obtain ⟨rfl, hlf⟩ := hcrlf
      cases after with
      | nil => simp at hlf
      | cons d after =>
        obtain rfl : d = '\n' := by simpa using hlf
        rfl
    · next hother =>
      rw [splitLineBreak_eq hother, Utf8.width_cons, Utf8.utf8Size_ascii hc, Utf8.width_nil]

theorem closeAt?_eq (h : Utf8.Reads text offset rest) :
    closeAt? (Utf8.bytesOf text) offset =
      (closeTemplate? rest).map fun (other, _) => offset + Utf8.width other := by
  have hclose := reads_dropWhile (fun c => !isLineBreak c && c != '}') h
  rw [closeAt?, runEnd_eq (fun _ => inTemplate_of_high) h]
  simp only [hclose.getElem?, Utf8.head?_bytesOf_eq_iff (c := '}') (by decide), closeTemplate?]
  cases rest.dropWhile fun c => !isLineBreak c && c != '}' with
  | nil => rfl
  | cons c after =>
    by_cases hc : c = '}'
    · simp [hc]
    · simp [hc]

end ByteScan

namespace Token

/-- Where the parts of a token are that begins at an offset. -/
def found (start : Nat) : Token → Found Stretch
  | placeholder (.position digits) =>
    let stop := start + Utf8.width ('?' :: digits)
    .position ⟨start, stop⟩ ⟨start + 1, stop⟩
  | placeholder (.name text) => .name ⟨start, start + Utf8.width text⟩
  | verbatim _ => .verbatim
  | note body _ => .note ⟨start, start + Utf8.width body⟩
  | ifSeq gap data other =>
    let dataStart := start + 7 + Utf8.width gap
    let dataEnd := dataStart + Utf8.width data
    .ifSeq ⟨dataStart, dataEnd⟩ ⟨dataEnd, dataEnd + Utf8.width other⟩
  | next gap name other =>
    let nameStart := start + 5 + Utf8.width gap
    let nameEnd := nameStart + Utf8.width name
    .next ⟨nameStart, nameEnd⟩ ⟨nameEnd, nameEnd + Utf8.width other⟩

/-- The token with the parts that it keeps. -/
def taken : Token → Found (List Char)
  | placeholder (.position digits) => .position ('?' :: digits) digits
  | placeholder (.name text) => .name text
  | verbatim _ => .verbatim
  | note body _ => .note body
  | ifSeq _ data other => .ifSeq data other
  | next _ name other => .next name other

/-- The token at the beginning of a text, whatever its position. -/
def unlimited? : List Char → Option (Token × List Char)
  | [] => none
  | c :: rest =>
    if c = '?' then
      if rest.takeWhile Char.isDigit = [] then none
      else some (placeholder (.position (rest.takeWhile Char.isDigit)), rest.dropWhile Char.isDigit)
    else scan? (c :: rest)

variable {text rest : List Char} {offset : Nat} {c : Char}

theorem inRange_of_scan? {after : List Char} {t : Token} (hc : c ≠ '?')
    (h : scan? (c :: rest) = some (t, after)) : t.taken.inRange = true := by
  obtain ⟨hq, -⟩ | ⟨-, -, rfl, -⟩ | ⟨-, h⟩ | ⟨-, h⟩ | ⟨-, -, inside, -, rfl⟩ | ⟨-, -, h⟩ |
    ⟨-, -, rfl, -⟩ | ⟨-, h⟩ := scan?_cases h
  · exact absurd hq hc
  · rfl
  · obtain ⟨rfl, -⟩ := name?_eq_some h
    rfl
  · obtain ⟨n, rfl, -⟩ := literal?_eq_some h
    rfl
  · rfl
  · cases h
    rfl
  · rfl
  · obtain ⟨gap, data, other, rfl⟩ | ⟨gap, name, other, rfl⟩ := template?_cases h <;> rfl

/-- A position that is out of range is all that the scan turns down. -/
theorem scan?_eq_filter (text : List Char) :
    scan? text = (unlimited? text).filter fun (t, _) => t.taken.inRange := by
  cases text with
  | nil => rfl
  | cons c rest =>
    rw [unlimited?]
    split
    · next hc =>
      subst hc
      change position? rest = _
      by_cases hdigits : rest.takeWhile Char.isDigit = []
      · simp [position?, hdigits]
      · by_cases hlimit : positionLimit ≤ Text.Decimal.value (rest.takeWhile Char.isDigit)
        · have hrange : ¬ Text.Decimal.value (rest.takeWhile Char.isDigit) < positionLimit := by
            omega
          simp [position?, hdigits, hlimit, Option.filter_some, taken, Found.inRange, hrange]
        · have hrange : Text.Decimal.value (rest.takeWhile Char.isDigit) < positionLimit := by
            omega
          simp [position?, hdigits, hlimit, Option.filter_some, taken, Found.inRange, hrange]
    · next hc =>
      cases hscan : scan? (c :: rest) with
      | none => rfl
      | some found =>
        have hrange := inRange_of_scan? hc hscan
        rw [Option.filter_some, if_pos hrange]

theorem unlimited?_source {after : List Char} {t : Token} (h : unlimited? text = some (t, after)) :
    text = t.source ++ after := by
  cases text with
  | nil => cases h
  | cons c rest =>
    rw [unlimited?] at h
    split at h
    · next hc =>
      split at h <;> cases h
      simp [hc, source, Placeholder.text]
    · exact scan?_source h

theorem width_source_ifSeq (gap data other : List Char) :
    Utf8.width (ifSeq gap data other).source =
      7 + Utf8.width gap + Utf8.width data + Utf8.width other + 1 := by
  have hword : Utf8.width ifSeqWord = 6 := by decide
  simp only [source, Utf8.width_cons, Utf8.width_append, Utf8.width_nil, hword,
    Utf8.utf8Size_ascii (c := '{') (by decide), Utf8.utf8Size_ascii (c := '}') (by decide)]
  omega

theorem width_source_next (gap name other : List Char) :
    Utf8.width (next gap name other).source =
      5 + Utf8.width gap + Utf8.width name + Utf8.width other + 1 := by
  have hword : Utf8.width nextWord = 4 := by decide
  simp only [source, Utf8.width_cons, Utf8.width_append, Utf8.width_nil, hword,
    Utf8.utf8Size_ascii (c := '{') (by decide), Utf8.utf8Size_ascii (c := '}') (by decide)]
  omega

theorem templateAt?_eq (h : Utf8.Reads text offset ('{' :: rest)) :
    ByteScan.templateAt? (Utf8.bytesOf text) offset =
      (template? rest).map fun (t, _) => (t.found offset, offset + Utf8.width t.source) := by
  have hrest : Utf8.Reads text (offset + 1) rest := h.cons (by decide)
  have hascii : ∀ c ∈ ifSeqWord ++ nextWord, c.toNat < 128 := by simp [ifSeqWord, nextWord]
  rw [ByteScan.templateAt?,
    ByteScan.wordAt_eq (fun c hc => hascii c (List.mem_append_left _ hc)) hrest,
    ByteScan.wordAt_eq (fun c hc => hascii c (List.mem_append_right _ hc)) hrest, template?]
  cases hifSeq : ifSeqWord.isPrefixOf? rest with
  | some body =>
    obtain rfl := eq_append_of_isPrefixOf? hifSeq
    have hbody : Utf8.Reads text (offset + 7) body := hrest.append
    have hdata := ByteScan.reads_dropWhile Text.isAsciiBlank hbody
    have hother := ByteScan.reads_dropWhile (fun c => c != ',' && c != '}') hdata
    simp only [Option.isSome_some, if_true, List.isEmpty_iff,
      ByteScan.runEnd_eq (fun _ => ByteScan.isAsciiBlank_of_high) hbody,
      ByteScan.runEnd_eq (fun _ => ByteScan.inData_of_high) hdata, ByteScan.closeAt?_eq hother,
      ByteScan.add_width_eq_self_iff]
    split
    · rfl
    · cases closeTemplate? _ with
      | none => rfl
      | some found =>
        simp only [Option.map_some, Token.found, width_source_ifSeq, ← Nat.add_assoc]
  | none =>
    cases hnext : nextWord.isPrefixOf? rest with
    | some body =>
      obtain rfl := eq_append_of_isPrefixOf? hnext
      have hbody : Utf8.Reads text (offset + 5) body := hrest.append
      have hname := ByteScan.reads_dropWhile Text.isAsciiBlank hbody
      have hother := ByteScan.reads_dropWhile isWordChar hname
      simp only [Option.isSome_some, Option.isSome_none, Bool.false_eq_true, if_false, if_true,
        List.isEmpty_iff, ByteScan.runEnd_eq (fun _ => ByteScan.isAsciiBlank_of_high) hbody,
        ByteScan.runEnd_eq (fun _ => ByteScan.isWordChar_of_high) hname,
        ByteScan.closeAt?_eq hother, ByteScan.add_width_eq_self_iff]
      split
      · rfl
      · cases closeTemplate? _ with
        | none => rfl
        | some found =>
          simp only [Option.map_some, Token.found, width_source_next, ← Nat.add_assoc]
    | none => rfl

/-- A byte beyond ASCII begins no token. -/
theorem scanAt?_of_high {b : UInt8} (h : (Utf8.bytesOf text)[offset]? = some b)
    (hb : 128 ≤ b.toNat) : ByteScan.scanAt? (Utf8.bytesOf text) offset = none := by
  have hne : ∀ d : Char, d.toNat < 128 → b ≠ d.toUInt8 := fun d => Utf8.ne_toUInt8_of_high hb
  simp [ByteScan.scanAt?, h, hne]

theorem lineEnd_eq (h : Utf8.Reads text offset rest) :
    ByteScan.lineEnd (Utf8.bytesOf text) offset = offset + Utf8.width (lineOf rest) :=
  ByteScan.runEnd_eq (fun _ => ByteScan.inLine_of_high) h

theorem positionAt_eq (h : Utf8.Reads text offset ('?' :: rest)) :
    ByteScan.runEnd Char.isDigit (Utf8.bytesOf text) (offset + 1) =
      offset + Utf8.width ('?' :: rest.takeWhile Char.isDigit) := by
  have hrest : Utf8.Reads text (offset + 1) rest := h.cons (by decide)
  rw [ByteScan.runEnd_eq (fun _ => ByteScan.isDigit_of_high) hrest, Utf8.width_cons,
    Utf8.utf8Size_ascii (by decide), Nat.add_assoc]

theorem nameAt_eq (hc : c.toNat < 128) (h : Utf8.Reads text offset (c :: rest)) :
    ByteScan.runEnd isWordChar (Utf8.bytesOf text) (offset + 1) =
      offset + Utf8.width (c :: rest.takeWhile isWordChar) := by
  rw [ByteScan.runEnd_eq (fun _ => ByteScan.isWordChar_of_high) (h.cons hc), Utf8.width_cons,
    Utf8.utf8Size_ascii hc, Nat.add_assoc]

/-- An ASCII character and a part of no bytes. -/
theorem add_width_cons_eq_iff (hc : c.toNat < 128) {part : List Char} :
    offset + Utf8.width (c :: part) = offset + 1 ↔ part = [] := by
  rw [Utf8.width_cons, Utf8.utf8Size_ascii hc, ← Nat.add_assoc, ByteScan.add_width_eq_self_iff]

theorem literalAt_eq (hc : c = '\'' ∨ c = '"') (h : Utf8.Reads text offset (c :: rest)) :
    ((Literal.closing? '\\'.toUInt8 c.toUInt8 ((Utf8.bytesOf text).drop (offset + 1))).map fun n =>
        (Found.verbatim, offset + 1 + n)) =
      (literal? c rest).map fun (t, _) => (t.found offset, offset + Utf8.width t.source) := by
  have hascii : c.toNat < 128 := by rcases hc with rfl | rfl <;> decide
  have hne : c ≠ '\\' := by rcases hc with rfl | rfl <;> decide
  rw [(h.cons hascii).drop, ByteScan.closing?_bytesOf hascii hne, literal?]
  cases Literal.closing? '\\' c rest with
  | none => rfl
  | some n =>
    simp only [Option.map_some, found, source, Utf8.width_cons, Utf8.utf8Size_ascii hascii,
      Nat.add_assoc]

theorem commentAt_eq (h : Utf8.Reads text offset ('/' :: '*' :: rest)) :
    ((ByteScan.commentLength? ((Utf8.bytesOf text).drop (offset + 2))).map fun n =>
        ((Found.verbatim : Found Stretch), offset + 2 + n)) =
      ((closeComment? rest).map fun (inside, after) =>
        (verbatim ('/' :: '*' :: inside), after)).map fun (t, _) =>
          (t.found offset, offset + Utf8.width t.source) := by
  have hrest : Utf8.Reads text (offset + 2) rest := (h.cons (by decide)).cons (by decide)
  rw [hrest.drop, ByteScan.commentLength?_bytesOf]
  cases closeComment? rest with
  | none => rfl
  | some split =>
    simp only [Option.map_some, found, source, Utf8.width_cons, Utf8.utf8Size_ascii (c := '/')
      (by decide), Utf8.utf8Size_ascii (c := '*') (by decide), ← Nat.add_assoc]

theorem noteAt_eq (h : Utf8.Reads text offset ('/' :: '/' :: rest)) :
    let bodyEnd := ByteScan.lineEnd (Utf8.bytesOf text) offset
    some (Found.note ⟨offset, bodyEnd⟩, ByteScan.breakEnd (Utf8.bytesOf text) bodyEnd) =
      (some (lineNote rest)).map fun (t, _) => (t.found offset, offset + Utf8.width t.source) := by
  intro bodyEnd
  have hbody : bodyEnd = offset + Utf8.width ('/' :: '/' :: lineOf rest) := lineEnd_eq h
  have hbreak : Utf8.Reads text bodyEnd (rest.dropWhile fun c => !isLineBreak c) := by
    have hline := ByteScan.reads_dropWhile (fun c => !isLineBreak c) h
    rw [hbody]
    exact hline
  have hhead : ∀ c ∈ (rest.dropWhile fun c => !isLineBreak c).head?, isLineBreak c := by
    intro c hc
    have hnot := List.head?_dropWhile_not (fun c => !isLineBreak c) rest
    rw [Option.mem_def.1 hc] at hnot
    simpa using hnot
  rw [ByteScan.breakEnd_eq hbreak hhead, hbody]
  simp only [Option.map_some, lineNote, found, source, Utf8.width_append, Nat.add_assoc]

/-- The scan by bytes at an ASCII character. -/
theorem scanAt?_of_ascii (hc : c.toNat < 128) (h : Utf8.Reads text offset (c :: rest)) :
    ByteScan.scanAt? (Utf8.bytesOf text) offset =
      (unlimited? (c :: rest)).map fun (t, _) => (t.found offset, offset + Utf8.width t.source) := by
  have hrest : Utf8.Reads text (offset + 1) rest := h.cons hc
  have heq : ∀ d : Char, d.toNat < 128 → (c.toUInt8 = d.toUInt8 ↔ c = d) := fun d =>
    Utf8.toUInt8_inj hc
  have hnext : ∀ d : Char, d.toNat < 128 →
      ((Utf8.bytesOf rest).head? = some d.toUInt8 ↔ rest.head? = some d) := fun d hd =>
    Utf8.head?_bytesOf_eq_iff hd rest
  rw [ByteScan.scanAt?, h.getElem?, Utf8.bytesOf_cons_ascii hc, List.head?_cons,
    hrest.getElem?, unlimited?]
  simp only [heq, hnext, (by decide : '?'.toNat < 128), (by decide : ':'.toNat < 128),
    (by decide : '@'.toNat < 128), (by decide : '$'.toNat < 128), (by decide : '\''.toNat < 128),
    (by decide : '"'.toNat < 128), (by decide : '/'.toNat < 128), (by decide : '*'.toNat < 128),
    (by decide : '-'.toNat < 128), (by decide : '{'.toNat < 128)]
  by_cases hq : c = '?'
  · subst hq
    simp only [if_true, positionAt_eq h, add_width_cons_eq_iff hc]
    split <;> rfl
  rw [if_neg hq, if_neg hq, scan?, if_neg hq]
  split
  · next hcast =>
    obtain ⟨rfl, -⟩ := hcast
    rfl
  split
  · simp only [nameAt_eq hc h, add_width_cons_eq_iff hc, name?, List.isEmpty_iff]
    split <;> rfl
  split
  · next hquote => exact literalAt_eq hquote h
  split
  · next hopen =>
    obtain ⟨rfl, hstar⟩ := hopen
    rw [eq_cons_tail hstar] at h
    exact commentAt_eq h
  split
  · next hopen =>
    obtain ⟨rfl, hslash⟩ := hopen
    rw [eq_cons_tail hslash] at h
    exact noteAt_eq h
  split
  · next hopen =>
    obtain ⟨rfl, -⟩ := hopen
    rw [lineEnd_eq h]
    rfl
  split
  · next hbrace =>
    subst hbrace
    exact templateAt?_eq h
  · rfl

theorem unlimited?_of_high (hc : 128 ≤ c.toNat) : unlimited? (c :: rest) = none := by
  have hne : ∀ d : Char, d.toNat < 128 → c ≠ d := by
    rintro d hd rfl
    omega
  simp [unlimited?, scan?, hne]

/-- **Where a text reads a character, the scan by bytes finds its token.** -/
theorem scanAt?_eq (h : Utf8.Reads text offset (c :: rest)) :
    ByteScan.scanAt? (Utf8.bytesOf text) offset =
      (unlimited? (c :: rest)).map fun (t, _) => (t.found offset, offset + Utf8.width t.source) := by
  rcases Nat.lt_or_ge c.toNat 128 with hc | hc
  · exact scanAt?_of_ascii hc h
  · obtain ⟨b, more, hbytes, hb, -, -⟩ := Utf8.exists_bytes_of_high hc rest
    rw [scanAt?_of_high (by rw [h.getElem?, hbytes, List.head?_cons]) hb, unlimited?_of_high hc,
      Option.map_none]

theorem source_ne_nil_of_unlimited? {after : List Char} {t : Token}
    (h : unlimited? text = some (t, after)) : t.source ≠ [] := by
  cases text with
  | nil => cases h
  | cons c rest =>
    rw [unlimited?] at h
    split at h
    · split at h <;> cases h
      simp [source, Placeholder.text]
    · exact source_ne_nil_of_scan? h

end Token

/-! ## Cutting out the parts -/

variable {text : String} {part rest : List Char} {offset : Nat}

theorem Stretch.fits_of_reads (h : Utf8.Reads text.toList offset (part ++ rest)) :
    Stretch.Fits ⟨offset, offset + Utf8.width part⟩ text :=
  ⟨Nat.le_add_right _ _, h.isValid, h.append.isValid⟩

theorem Stretch.cut?_of_reads (h : Utf8.Reads text.toList offset (part ++ rest)) :
    Stretch.cut? text ⟨offset, offset + Utf8.width part⟩ = some part := by
  rw [Stretch.cut?, if_pos (Stretch.fits_of_reads h), Utf8.encode_eq_bytesOf, h.drop,
    Nat.add_sub_cancel_left, Utf8.bytesOf_append, ← Utf8.length_bytesOf part, List.take_left,
    Utf8.decode?_bytesOf, Option.map_some, String.toList_ofList]

namespace Found

/-- The same kind of token, with parts that are related one by one. -/
inductive Matches {α β : Type} (R : α → β → Prop) : Found α → Found β → Prop where
  | position {a b c d} : R a b → R c d → Matches R (.position a c) (.position b d)
  | name {a b} : R a b → Matches R (.name a) (.name b)
  | verbatim : Matches R .verbatim .verbatim
  | note {a b} : R a b → Matches R (.note a) (.note b)
  | ifSeq {a b c d} : R a b → R c d → Matches R (.ifSeq a c) (.ifSeq b d)
  | next {a b c d} : R a b → R c d → Matches R (.next a c) (.next b d)

namespace Matches

variable {α β : Type} {R : α → β → Prop} {first : Found α} {second : Found β}

theorem imp {Q : α → β → Prop} (h : Matches R first second) (himp : ∀ a b, R a b → Q a b) :
    Matches Q first second := by
  cases h with
  | position h h' => exact .position (himp _ _ h) (himp _ _ h')
  | name h => exact .name (himp _ _ h)
  | verbatim => exact .verbatim
  | note h => exact .note (himp _ _ h)
  | ifSeq h h' => exact .ifSeq (himp _ _ h) (himp _ _ h')
  | next h h' => exact .next (himp _ _ h) (himp _ _ h')

theorem exists_of_mem_parts (h : Matches R first second) {a : α} (ha : a ∈ first.parts) :
    ∃ b, R a b := by
  cases h <;> simp only [parts, List.mem_cons, List.not_mem_nil, or_false] at ha
  case position h h' => obtain rfl | rfl := ha <;> exact ⟨_, ‹_›⟩
  case ifSeq h h' => obtain rfl | rfl := ha <;> exact ⟨_, ‹_›⟩
  case next h h' => obtain rfl | rfl := ha <;> exact ⟨_, ‹_›⟩
  case name h => exact ha ▸ ⟨_, h⟩
  case note h => exact ha ▸ ⟨_, h⟩

/-- If every part can be cut out, so can the token. -/
theorem cut?_eq {first : Found Stretch} {second : Found (List Char)}
    (h : Matches (fun s part => s.cut? text = some part) first second) :
    first.cut? text = some second := by
  cases h <;> simp_all [cut?]

end Matches

end Found

namespace Token

/-- A part of a source, and where it is when the source begins at an offset. -/
def Within (source : List Char) (offset : Nat) (s : Stretch) (part : List Char) : Prop :=
  ∃ before behind, source = before ++ (part ++ behind) ∧
    s = ⟨offset + Utf8.width before, offset + Utf8.width before + Utf8.width part⟩

/-- The parts of a token are within its source. -/
theorem matches_found (t : Token) (offset : Nat) :
    Found.Matches (Within t.source offset) (t.found offset) t.taken := by
  have hquestion : Utf8.width ['?'] = 1 := by decide
  have hifSeq : Utf8.width ('{' :: ifSeqWord) = 7 := by decide
  have hnext : Utf8.width ('{' :: nextWord) = 5 := by decide
  cases t with
  | placeholder p =>
    cases p with
    | position digits =>
      refine .position ⟨[], [], by simp [source, Placeholder.text], by simp⟩
        ⟨['?'], [], by simp [source, Placeholder.text], ?_⟩
      rw [hquestion, ← List.singleton_append, Utf8.width_append, hquestion, Nat.add_assoc]
    | name text => exact .name ⟨[], [], by simp [source, Placeholder.text], by simp⟩
  | verbatim body => exact .verbatim
  | note body lineBreak => exact .note ⟨[], lineBreak, by simp [source], by simp⟩
  | ifSeq gap data other =>
    refine .ifSeq ⟨'{' :: ifSeqWord ++ gap, other ++ ['}'], by simp [source], ?_⟩
      ⟨'{' :: ifSeqWord ++ gap ++ data, ['}'], by simp [source], ?_⟩
    · rw [Utf8.width_append, hifSeq, Nat.add_assoc]
    · simp only [Utf8.width_append, hifSeq, Nat.add_assoc]
  | next gap name other =>
    refine .next ⟨'{' :: nextWord ++ gap, other ++ ['}'], by simp [source], ?_⟩
      ⟨'{' :: nextWord ++ gap ++ name, ['}'], by simp [source], ?_⟩
    · rw [Utf8.width_append, hnext, Nat.add_assoc]
    · simp only [Utf8.width_append, hnext, Nat.add_assoc]

variable {t : Token} {after : List Char}

theorem Within.reads {s : Stretch} {part : List Char} (hs : Within t.source offset s part)
    (h : Utf8.Reads text.toList offset (t.source ++ after)) :
    ∃ behind, Utf8.Reads text.toList s.start (part ++ behind) ∧
      s = ⟨s.start, s.start + Utf8.width part⟩ := by
  obtain ⟨before, behind, hsource, rfl⟩ := hs
  refine ⟨behind ++ after, Utf8.Reads.append ?_, rfl⟩
  rw [hsource] at h
  simpa using h

/-- Both ends of each part of a token are boundaries within the token. -/
theorem fits_found (h : Utf8.Reads text.toList offset (t.source ++ after)) {s : Stretch}
    (hs : s ∈ (t.found offset).parts) :
    s.Fits text ∧ offset ≤ s.start ∧ s.stop ≤ offset + Utf8.width t.source := by
  obtain ⟨part, hpart⟩ := (t.matches_found offset).exists_of_mem_parts hs
  obtain ⟨behind, hreads, hs⟩ := hpart.reads h
  rw [hs]
  refine ⟨Stretch.fits_of_reads hreads, ?_⟩
  obtain ⟨before, behind, hsource, rfl⟩ := hpart
  simp only [hsource, Utf8.width_append]
  omega

/-- **No part of a token is cut badly.** -/
theorem cut?_found (h : Utf8.Reads text.toList offset (t.source ++ after)) :
    (t.found offset).cut? text = some t.taken := by
  refine ((t.matches_found offset).imp ?_).cut?_eq
  intro s part hpart
  obtain ⟨behind, hreads, hs⟩ := hpart.reads h
  rw [hs]
  exact Stretch.cut?_of_reads hreads

end Token

/-! ## Tokens at offsets -/

/-- Where the text reads a character, the token there is the one that the scan takes off. -/
theorem tokenAt?_of_reads {c : Char} (h : Utf8.Reads text.toList offset (c :: rest)) :
    tokenAt? text offset =
      some ((Token.scan? (c :: rest)).map fun (t, _) =>
        (t.taken, offset + Utf8.width t.source)) := by
  rw [tokenAt?, Utf8.encode_eq_bytesOf, Token.scanAt?_eq h, Token.scan?_eq_filter]
  cases hscan : Token.unlimited? (c :: rest) with
  | none => rfl
  | some found =>
    obtain ⟨t, after⟩ := found
    have hsource := Token.unlimited?_source hscan
    rw [hsource] at h
    simp only [Option.map_some, Token.cut?_found h, Option.filter_some]
    split <;> rfl

theorem tokenAt?_of_scan? {t : Token} {after : List Char} (h : Utf8.Reads text.toList offset rest)
    (hscan : Token.scan? rest = some (t, after)) :
    tokenAt? text offset = some (some (t.taken, offset + Utf8.width t.source)) := by
  cases rest with
  | nil => cases hscan
  | cons c rest => rw [tokenAt?_of_reads h, hscan, Option.map_some]

/-- In the middle of a character there is no token. -/
theorem tokenAt?_of_high {b : UInt8} (h : (Utf8.bytesOf text.toList)[offset]? = some b)
    (hb : 128 ≤ b.toNat) : tokenAt? text offset = some none := by
  rw [tokenAt?, Utf8.encode_eq_bytesOf, Token.scanAt?_of_high h hb]

/-- **A token that is found begins where the text reads its source.** -/
theorem exists_token_of_scanAt? {found : Found Stretch} {stop : Nat}
    (h : ByteScan.scanAt? (Utf8.encode text) offset = some (found, stop)) :
    ∃ (t : Token) (after : List Char), Utf8.Reads text.toList offset (t.source ++ after) ∧
      t.source ≠ [] ∧ found = t.found offset ∧ stop = offset + Utf8.width t.source := by
  rw [Utf8.encode_eq_bytesOf] at h
  by_cases hlt : offset < Utf8.width text.toList
  · obtain ⟨c, rest, hreads⟩ | ⟨b, hb, hhigh⟩ := Utf8.boundary_or_high hlt
    · rw [Token.scanAt?_eq hreads, Option.map_eq_some_iff] at h
      obtain ⟨⟨t, after⟩, hscan, heq⟩ := h
      cases heq
      rw [Token.unlimited?_source hscan] at hreads
      exact ⟨t, after, hreads, Token.source_ne_nil_of_unlimited? hscan, rfl, rfl⟩
    · rw [Token.scanAt?_of_high hb hhigh] at h
      cases h
  · have hnone : (Utf8.bytesOf text.toList)[offset]? = none :=
      List.getElem?_eq_none (Nat.le_of_not_lt hlt)
    rw [ByteScan.scanAt?, hnone] at h
    cases h

theorem exists_scan_of_tokenAt? {token : Found (List Char)} {stop : Nat}
    (h : tokenAt? text offset = some (some (token, stop))) :
    ∃ (rest : List Char) (t : Token) (after : List Char), Utf8.Reads text.toList offset rest ∧
      Token.scan? rest = some (t, after) ∧ token = t.taken ∧
      stop = offset + Utf8.width t.source := by
  by_cases hlt : offset < Utf8.width text.toList
  · obtain ⟨c, rest, hreads⟩ | ⟨b, hb, hhigh⟩ := Utf8.boundary_or_high hlt
    · rw [tokenAt?_of_reads hreads, Option.some.injEq, Option.map_eq_some_iff] at h
      obtain ⟨⟨t, after⟩, hscan, heq⟩ := h
      cases heq
      exact ⟨c :: rest, t, after, hreads, hscan, rfl, rfl⟩
    · rw [tokenAt?_of_high hb hhigh] at h
      cases h
  · have hnone : (Utf8.bytesOf text.toList)[offset]? = none :=
      List.getElem?_eq_none (Nat.le_of_not_lt hlt)
    rw [tokenAt?, Utf8.encode_eq_bytesOf, ByteScan.scanAt?, hnone] at h
    cases h

/-- **Nothing that a token keeps is cut badly.** -/
theorem tokenAt?_isSome (text : String) (offset : Nat) : (tokenAt? text offset).isSome = true := by
  rw [tokenAt?]
  cases hscan : ByteScan.scanAt? (Utf8.encode text) offset with
  | none => rfl
  | some found =>
    obtain ⟨found, stop⟩ := found
    obtain ⟨t, after, hreads, -, rfl, -⟩ := exists_token_of_scanAt? hscan
    simp only [Token.cut?_found hreads, Option.map_some, Option.isSome_some]

end PortableSql
