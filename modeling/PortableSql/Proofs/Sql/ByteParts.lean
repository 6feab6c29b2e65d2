import Mathlib.Data.List.Chain
import PortableSql.Proofs.Sql.ByteLoop

/-!
# The parts of a text

The tokens that the loop stops at and the gaps between them are the parts of a text. They cover it
byte by byte, and the text is rendered by rendering them in order. Gaps and verbatim tokens are
written as they stand, comments up to their line breaks; the dialect is asked about none of these.
-/
namespace PortableSql

open Text

/-- A token, or a gap without tokens, by byte offsets. -/
structure Part where
  start : Nat
  stop : Nat
  token? : Option (Found (List Char))

namespace Part

/-- The bytes of the part. -/
def bytes (text : String) (p : Part) : Bytes :=
  ((Utf8.encode text).drop p.start).take (p.stop - p.start)

/-- What is written for the part. -/
def render? (dialect : Dialect) (mode : ParameterMode) (text : String) (slots : SlotMap)
    (p : Part) : Option Rendered :=
  match p.token? with
  | none | some .verbatim => (Stretch.cut? text ⟨p.start, p.stop⟩).map (.copy · slots)
  | some token => (renderData dialect mode slots token).map (token.emit dialect mode slots)

/-- The part is written as these characters, whatever the dialect, which is asked nothing. -/
def Written (text : String) (p : Part) (shown : List Char) : Prop :=
  ∀ (dialect : Dialect) (mode : ParameterMode) (slots : SlotMap),
    p.render? dialect mode text slots = some (.copy shown slots)

end Part

/-- What is written for parts, in order. -/
def renderParts (dialect : Dialect) (mode : ParameterMode) (text : String) (slots : SlotMap) :
    List Part → Option Rendered
  | [] => some (.copy [] slots)
  | p :: rest => do
    let first ← p.render? dialect mode text slots
    let more ← renderParts dialect mode text first.slots rest
    return first.append more

/-- The parts of a text from an offset on. -/
inductive CutsFrom (text : String) : Nat → List Part → Prop where
  | nil : CutsFrom text text.utf8ByteSize []
  | gap {start stop : Nat} {rest : List Part} : start < stop → Stretch.Fits ⟨start, stop⟩ text →
      (∀ idx, start ≤ idx → idx < stop → tokenAt? text idx = some none) →
      (∀ p ∈ rest.head?, p.token? ≠ none) → CutsFrom text stop rest →
      CutsFrom text start (⟨start, stop, none⟩ :: rest)
  | token {start stop : Nat} {token : Found (List Char)} {rest : List Part} : start < stop →
      Stretch.Fits ⟨start, stop⟩ text → tokenAt? text start = some (some (token, stop)) →
      CutsFrom text stop rest → CutsFrom text start (⟨start, stop, some token⟩ :: rest)

/-- The parts cover the text: each token is one that begins there, and the gaps, no two of which
meet, hold none. -/
structure CutsInto (text : String) (parts : List Part) : Prop where
  covers : parts.flatMap (fun p => List.range' p.start (p.stop - p.start)) =
    List.range text.utf8ByteSize
  forward : ∀ p ∈ parts, p.start < p.stop
  fits : ∀ p ∈ parts, Stretch.Fits ⟨p.start, p.stop⟩ text
  token : ∀ p ∈ parts, ∀ token, p.token? = some token →
    tokenAt? text p.start = some (some (token, p.stop))
  gap : ∀ p ∈ parts, p.token? = none →
    ∀ idx, p.start ≤ idx → idx < p.stop → tokenAt? text idx = some none
  apart : parts.IsChain fun p q => p.token? = none → q.token? ≠ none

variable {text : String} {start stop : Nat} {parts : List Part}

/-! ## Cutting at boundaries -/

/-- **Between boundaries there are characters.** -/
theorem Stretch.Fits.exists_reads (h : Stretch.Fits ⟨start, stop⟩ text) :
    ∃ part behind, Utf8.Reads text.toList start (part ++ behind) ∧
      stop = start + Utf8.width part := by
  obtain ⟨hle, hstart, hstop⟩ := h
  obtain ⟨before, after, htext, rfl⟩ := Utf8.isValid_iff.1 hstart
  obtain ⟨before', after', htext', rfl⟩ := Utf8.isValid_iff.1 hstop
  obtain ⟨part, rfl, rfl⟩ | ⟨part, rfl, rfl⟩ := List.append_eq_append_iff.1 (htext.symm.trans htext')
  · exact ⟨part, after', ⟨before, htext, rfl⟩, Utf8.width_append before part⟩
  · -- the second end is not before the first, so nothing is between them
    refine ⟨[], after, ⟨before' ++ part, htext, rfl⟩, ?_⟩
    simp only [Utf8.width_append, Utf8.width_nil] at hle ⊢
    omega

/-- The bytes of a part whose characters are known. -/
theorem Part.bytes_of_reads {p : Part} {shown behind : List Char}
    (h : Utf8.Reads text.toList p.start (shown ++ behind))
    (hstop : p.stop = p.start + Utf8.width shown) : p.bytes text = Utf8.bytesOf shown := by
  rw [Part.bytes, Utf8.encode_eq_bytesOf, h.drop, hstop, Nat.add_sub_cancel_left,
    Utf8.bytesOf_append, ← Utf8.length_bytesOf shown, List.take_left]

/-! ## The parts cover the text -/

namespace CutsFrom

theorem start_le (h : CutsFrom text start parts) : start ≤ text.utf8ByteSize := by
  induction h with
  | nil => exact Nat.le_refl _
  | gap hlt _ _ _ _ ih => omega
  | token hlt _ _ _ ih => omega

theorem flatMap_range' (h : CutsFrom text start parts) :
    parts.flatMap (fun p => List.range' p.start (p.stop - p.start)) =
      List.range' start (text.utf8ByteSize - start) := by
  have hjoin : ∀ {start stop : Nat}, start < stop → stop ≤ text.utf8ByteSize →
      List.range' start (stop - start) ++ List.range' stop (text.utf8ByteSize - stop) =
        List.range' start (text.utf8ByteSize - start) := by
    intro start stop hlt hle
    have hsum : text.utf8ByteSize - start = (stop - start) + (text.utf8ByteSize - stop) := by omega
    have hstop : start + (stop - start) = stop := by omega
    rw [hsum, ← List.range'_append_1, hstop]
  induction h with
  | nil => simp
  | gap hlt _ _ _ hrest ih => rw [List.flatMap_cons, ih, hjoin hlt hrest.start_le]
  | token hlt _ _ hrest ih => rw [List.flatMap_cons, ih, hjoin hlt hrest.start_le]

theorem of_mem (h : CutsFrom text start parts) {p : Part} (hp : p ∈ parts) :
    p.start < p.stop ∧ Stretch.Fits ⟨p.start, p.stop⟩ text ∧
      (∀ token, p.token? = some token → tokenAt? text p.start = some (some (token, p.stop))) ∧
      (p.token? = none →
        ∀ idx, p.start ≤ idx → idx < p.stop → tokenAt? text idx = some none) := by
  induction h with
  | nil => cases hp
  | gap hlt hfits hgap _ _ ih =>
    rcases List.mem_cons.1 hp with rfl | hp
    · exact ⟨hlt, hfits, fun token htoken => (by cases htoken), fun _ => hgap⟩
    · exact ih hp
  | token hlt hfits htoken _ ih =>
    rcases List.mem_cons.1 hp with rfl | hp
    · refine ⟨hlt, hfits, fun token heq => ?_, fun hnone => (by cases hnone)⟩
      cases heq
      exact htoken
    · exact ih hp

theorem isChain (h : CutsFrom text start parts) :
    parts.IsChain fun p q => p.token? = none → q.token? ≠ none := by
  induction h with
  | nil => exact .nil
  | gap _ _ _ hhead _ ih => exact List.isChain_cons.2 ⟨fun q hq _ => hhead q hq, ih⟩
  | token _ _ _ _ ih => exact List.isChain_cons.2 ⟨fun q _ hnone => (by cases hnone), ih⟩

theorem cutsInto (h : CutsFrom text 0 parts) : CutsInto text parts where
  covers := by rw [h.flatMap_range', Nat.sub_zero, List.range_eq_range']
  forward p hp := (h.of_mem hp).1
  fits p hp := (h.of_mem hp).2.1
  token p hp := (h.of_mem hp).2.2.1
  gap p hp := (h.of_mem hp).2.2.2
  apart := h.isChain

end CutsFrom

/-! ## What the parts are rendered to -/

variable {dialect : Dialect} {mode : ParameterMode} {slots : SlotMap} {rest : List Char}

/-- A gap or a verbatim token is written as it stands. -/
theorem Part.written_of_reads {p : Part} {shown behind : List Char}
    (h : Utf8.Reads text.toList p.start (shown ++ behind))
    (hstop : p.stop = p.start + Utf8.width shown)
    (htoken : p.token? = none ∨ p.token? = some .verbatim) : p.Written text shown := by
  intro dialect mode slots
  have hcut : Stretch.cut? text ⟨p.start, p.stop⟩ = some shown := by
    rw [hstop]
    exact Stretch.cut?_of_reads h
  rcases htoken with htoken | htoken <;> rw [Part.render?, htoken, hcut, Option.map_some]

theorem renderParts_cons {p : Part} {first more : Rendered}
    (hp : p.render? dialect mode text slots = some first)
    (hmore : renderParts dialect mode text first.slots parts = some more) :
    renderParts dialect mode text slots (p :: parts) = some (first.append more) := by
  simp [renderParts, hp, hmore]

/-- The parts render what the pieces of the characters render. -/
def Renders (text : String) (parts : List Part) (rest : List Char) : Prop :=
  ∀ (dialect : Dialect) (mode : ParameterMode) (slots : SlotMap),
    renderParts dialect mode text slots parts =
      some (renderPieces dialect mode slots (pieces rest))

/-- The parts of `rest` behind its first characters `shown`, which are in a gap. -/
def RendersBehind (text : String) (shown : List Char) (parts : List Part) (rest : List Char) :
    Prop :=
  ∀ (dialect : Dialect) (mode : ParameterMode) (slots : SlotMap), ∃ r,
    renderParts dialect mode text slots parts = some r ∧
      renderPieces dialect mode slots (pieces rest) = (Rendered.copy shown slots).append r

theorem Renders.behind_nil (h : Renders text parts rest) : RendersBehind text [] parts rest :=
  fun dialect mode slots => ⟨_, h dialect mode slots, rfl⟩

/-- A gap at the beginning of the parts is written first. -/
theorem Renders.behind_gap {shown behind : List Char}
    (h : Renders text (⟨start, stop, none⟩ :: parts) rest)
    (hreads : Utf8.Reads text.toList start (shown ++ behind))
    (hstop : stop = start + Utf8.width shown) : RendersBehind text shown parts rest := by
  intro dialect mode slots
  have hwritten : Part.render? dialect mode text slots ⟨start, stop, none⟩ =
      some (.copy shown slots) := Part.written_of_reads hreads hstop (.inl rfl) dialect mode slots
  have hall := h dialect mode slots
  rw [renderParts, hwritten] at hall
  cases hmore : renderParts dialect mode text slots parts with
  | none =>
    simp only [Option.bind_eq_bind, Option.bind_some, Rendered.copy, hmore] at hall
    cases hall
  | some r =>
    simp only [Option.bind_eq_bind, Option.bind_some, Rendered.copy, hmore] at hall
    exact ⟨r, rfl, (Option.some.inj hall).symm⟩

/-- A character goes to the beginning of the gap behind it. -/
theorem RendersBehind.renders {c : Char} {shown behind : List Char}
    (h : RendersBehind text shown parts rest) (hscan : Token.scan? (c :: rest) = none)
    (hreads : Utf8.Reads text.toList start (c :: shown ++ behind))
    (hstop : stop = start + Utf8.width (c :: shown)) :
    Renders text (⟨start, stop, none⟩ :: parts) (c :: rest) := by
  intro dialect mode slots
  have hwritten : Part.render? dialect mode text slots ⟨start, stop, none⟩ =
      some (.copy (c :: shown) slots) :=
    Part.written_of_reads hreads hstop (.inl rfl) dialect mode slots
  obtain ⟨r, hmore, hpieces⟩ := h dialect mode slots
  rw [renderParts_cons hwritten hmore, pieces_of_scan?_eq_none hscan, renderPieces, Piece.render]
  dsimp only [Rendered.copy] at hpieces ⊢
  rw [hpieces]
  exact congrArg some (Rendered.copy_append_copy [c] shown slots slots r).symm

/-- A character that begins no token is in a gap, with the characters behind it if they are. -/
theorem CutsFrom.plain {c : Char} {next : Nat} (h : Utf8.Reads text.toList start (c :: rest))
    (hscan : Token.scan? (c :: rest) = none) (hnext : next = start + c.utf8Size)
    (hcuts : CutsFrom text next parts) (hrenders : Renders text parts rest) :
    ∃ parts', CutsFrom text start parts' ∧ Renders text parts' (c :: rest) := by
  have hpos := c.utf8Size_pos
  have hlt : start < next := by omega
  have hgap : ∀ idx, start ≤ idx → idx < next → tokenAt? text idx = some none := by
    intro idx hle hlt
    have htoken := tokenAt?_of_plain h hscan (k := idx - start) (by omega)
    rwa [Nat.add_sub_cancel' hle] at htoken
  have hwidth : Utf8.width [c] = c.utf8Size := by rw [Utf8.width_cons, Utf8.width_nil, Nat.add_zero]
  have hrest : Utf8.Reads text.toList next rest := by
    rw [hnext, ← hwidth]
    exact Utf8.Reads.append h
  -- in front of anything but a gap the character is a gap of its own
  have hnew : (∀ p ∈ parts.head?, p.token? ≠ none) →
      ∃ parts', CutsFrom text start parts' ∧ Renders text parts' (c :: rest) := fun hhead =>
    ⟨⟨start, next, none⟩ :: parts,
      .gap hlt ⟨hlt.le, h.isValid, hrest.isValid⟩ hgap hhead hcuts,
      hrenders.behind_nil.renders hscan h (by rw [hwidth, hnext])⟩
  cases hcuts with
  | nil => exact hnew (by simp)
  | token hlt hfits htoken hmore => exact hnew (by simp)
  | @gap _ stop more hlt' hfits hgap' hhead hmore =>
    obtain ⟨shown, behind, hreads, hstop⟩ := hfits.exists_reads
    refine ⟨⟨start, stop, none⟩ :: more,
      .gap (hlt.trans hlt') ⟨(hlt.trans hlt').le, h.isValid, hfits.2.2⟩ ?_ hhead hmore, ?_⟩
    · intro idx hle hidx
      rcases Nat.lt_or_ge idx next with hin | hbehind
      · exact hgap idx hle hin
      · exact hgap' idx hbehind hidx
    · have hrest' : rest = shown ++ behind := hrest.unique hreads
      rw [hrest'] at h
      refine (hrenders.behind_gap hreads hstop).renders hscan h ?_
      rw [Utf8.width_cons, hstop, hnext, Nat.add_assoc]

theorem Part.render?_of_token {p : Part} {token : Found (List Char)} (htoken : p.token? = some token)
    (hne : token ≠ .verbatim) : p.render? dialect mode text slots =
      (renderData dialect mode slots token).map (token.emit dialect mode slots) := by
  rw [Part.render?, htoken]
  split
  · simp_all
  · simp_all
  · next heq => rw [Option.some.inj heq]

/-- The part of a token is rendered to what its piece is. -/
theorem Part.render?_of_scan? {p : Part} {t : Token} {after : List Char}
    (h : Utf8.Reads text.toList p.start (t.source ++ after))
    (hstop : p.stop = p.start + Utf8.width t.source) (htoken : p.token? = some t.taken) :
    p.render? dialect mode text slots = some (t.piece.render dialect mode slots) := by
  by_cases hverbatim : t.taken = .verbatim
  · obtain ⟨body, rfl⟩ := t.eq_verbatim_of_taken hverbatim
    rw [Token.piece, Piece.render]
    exact Part.written_of_reads h hstop (.inr htoken) dialect mode slots
  · obtain ⟨data, hdata, hemit⟩ : ∃ data, renderData dialect mode slots t.taken = some data ∧
        t.taken.emit dialect mode slots data = t.piece.render dialect mode slots := by
      refine Token.exists_emit_eq hverbatim fun gap data other _ => ?_
      rw [renderFrom_zero, String.toList_ofList]
    rw [Part.render?_of_token htoken hverbatim, hdata, Option.map_some, hemit]

/-- **A text is cut into parts that render it.** -/
theorem exists_cutsFrom (h : Utf8.Reads text.toList start rest) :
    ∃ parts, CutsFrom text start parts ∧ Renders text parts rest := by
  induction rest using Token.scan_induction generalizing start with
  | nil =>
    have hsize := h.width_eq
    rw [← Utf8.utf8ByteSize_eq_width, Utf8.width_nil, Nat.add_zero] at hsize
    refine ⟨[], hsize ▸ .nil, fun dialect mode slots => ?_⟩
    rw [pieces_nil, renderParts, renderPieces]
  | plain c rest hscan ih =>
    have hwidth : Utf8.width [c] = c.utf8Size := by
      rw [Utf8.width_cons, Utf8.width_nil, Nat.add_zero]
    have hnext : Utf8.Reads text.toList (start + Utf8.width [c]) rest := Utf8.Reads.append h
    obtain ⟨parts, hcuts, hrenders⟩ := ih hnext
    exact hcuts.plain h hscan (by rw [hwidth]) hrenders
  | token rest t after hscan hdata ih =>
    have htoken := tokenAt?_of_scan? h hscan
    have hsource := Token.scan?_source hscan
    rw [hsource] at h
    obtain ⟨parts, hcuts, hrenders⟩ := ih h.append
    refine ⟨⟨start, start + Utf8.width t.source, some t.taken⟩ :: parts,
      .token (lt_of_tokenAt? htoken) (Stretch.fits_of_reads h) htoken hcuts, ?_⟩
    intro dialect mode slots
    have hpart : Part.render? dialect mode text slots
        ⟨start, start + Utf8.width t.source, some t.taken⟩ =
          some (t.piece.render dialect mode slots) := Part.render?_of_scan? h rfl rfl
    rw [renderParts_cons hpart (hrenders dialect mode _), pieces_of_scan?_eq_some hscan, renderPieces]

/-! ## What the dialect is not asked about -/

/-- A gap or a verbatim token of a text is written byte by byte. -/
theorem CutsInto.exists_written (h : CutsInto text parts) {p : Part} (hp : p ∈ parts)
    (htoken : p.token? = none ∨ p.token? = some .verbatim) :
    ∃ shown, Utf8.bytesOf shown = p.bytes text ∧ p.Written text shown := by
  obtain ⟨shown, behind, hreads, hstop⟩ := (h.fits p hp).exists_reads
  exact ⟨shown, (Part.bytes_of_reads hreads hstop).symm, Part.written_of_reads hreads hstop htoken⟩

theorem Token.eq_note_of_taken {t : Token} {body : List Char} (h : t.taken = .note body) :
    ∃ lineBreak, t = .note body lineBreak := by
  match t with
  | .placeholder (.position _) => cases h
  | .placeholder (.name _) => cases h
  | .verbatim _ => cases h
  | .note _ lineBreak =>
    cases h
    exact ⟨lineBreak, rfl⟩
  | .ifSeq _ _ _ => cases h
  | .next _ _ _ => cases h

/-- The line break of a text that begins with one. -/
theorem isLineBreak_of_mem_splitLineBreak (h : ∀ c ∈ rest.head?, isLineBreak c = true) :
    ∀ c ∈ (splitLineBreak rest).1, isLineBreak c = true := by
  unfold splitLineBreak
  split
  · intro c hc
    simp only [List.mem_cons, List.not_mem_nil, or_false] at hc
    obtain rfl | rfl := hc <;> decide
  · intro c hc
    exact h c (List.mem_singleton.1 hc ▸ rfl)
  · intro c hc
    cases hc

/-- A comment has no line break in it, and nothing but one behind it. -/
theorem Token.isLineBreak_of_scan? {body lineBreak after : List Char}
    (h : Token.scan? rest = some (.note body lineBreak, after)) :
    (∀ c ∈ body, isLineBreak c = false) ∧ ∀ c ∈ lineBreak, isLineBreak c = true := by
  cases rest with
  | nil => cases h
  | cons d rest =>
    obtain ⟨-, h⟩ | ⟨-, -, h, -⟩ | ⟨-, h⟩ | ⟨-, h⟩ | ⟨-, -, inside, -, h⟩ | ⟨-, -, h⟩ |
      ⟨-, -, h, -⟩ | ⟨-, h⟩ := Token.scan?_cases h
    · cases (Token.position?_eq_some h).1
    · cases h
    · cases (Token.name?_eq_some h).1
    · obtain ⟨n, h, -⟩ := Token.literal?_eq_some h
      cases h
    · cases h
    · cases h
      refine ⟨?_, isLineBreak_of_mem_splitLineBreak ?_⟩
      · intro c hc
        simp only [List.mem_cons] at hc
        obtain rfl | rfl | hc := hc
        · decide
        · decide
        · have hall := List.all_takeWhile (p := fun c => !isLineBreak c) (l := rest.tail)
          simpa using List.all_eq_true.1 hall c hc
      · intro c hc
        have hnot := List.head?_dropWhile_not (fun c => !isLineBreak c) rest.tail
        rw [Option.mem_def.1 hc] at hnot
        simpa using hnot
    · cases h
    · obtain ⟨gap, data, other, h⟩ | ⟨gap, name, other, h⟩ := Token.template?_cases h <;> cases h

/-- A comment is written up to its line break, which becomes one newline. -/
theorem CutsInto.exists_note (h : CutsInto text parts) {p : Part} (hp : p ∈ parts)
    {body : List Char} (htoken : p.token? = some (.note body)) :
    ∃ lineBreak, Utf8.bytesOf (body ++ lineBreak) = p.bytes text ∧
      (∀ c ∈ body, isLineBreak c = false) ∧ (∀ c ∈ lineBreak, isLineBreak c = true) ∧
      p.Written text (body ++ ['\n']) := by
  obtain ⟨rest, t, after, hreads, hscan, ht, hstop⟩ :=
    exists_scan_of_tokenAt? (h.token p hp _ htoken)
  obtain ⟨lineBreak, rfl⟩ := Token.eq_note_of_taken ht.symm
  obtain ⟨hbody, hbreak⟩ := Token.isLineBreak_of_scan? hscan
  rw [Token.scan?_source hscan] at hreads
  refine ⟨lineBreak, (Part.bytes_of_reads hreads hstop).symm, hbody, hbreak,
    fun dialect mode slots => ?_⟩
  rw [Part.render?_of_scan? hreads hstop htoken, Token.piece, Piece.render]

/-- **Rendering loses no text, invents none and cuts no character.** A token that begins somewhere
ends further on, and all offsets that it needs are boundaries within it, so nothing that is cut out
of the text can fail to be. The tokens that the loop stops at and the gaps between them cover the
text, byte by byte and in order, and what is rendered is what they are rendered to, one after the
other: gaps and verbatim tokens as they stand, comments with one newline behind them, and the
dialect is asked about neither of these. -/
theorem parts_cover_and_render (sql : String) :
    (∀ idx found stop, ByteScan.scanAt? (Utf8.encode sql) idx = some (found, stop) →
      idx < stop ∧ stop ≤ sql.utf8ByteSize ∧ Stretch.Fits ⟨idx, stop⟩ sql ∧
      ∀ s ∈ found.parts, s.Fits sql ∧ idx ≤ s.start ∧ s.stop ≤ stop) ∧
    (∀ idx, (tokenAt? sql idx).isSome = true) ∧
    ∃ parts, CutsInto sql parts ∧
      (∀ p ∈ parts, (p.token? = none ∨ p.token? = some .verbatim) →
        ∃ shown, Utf8.bytesOf shown = p.bytes sql ∧ p.Written sql shown) ∧
      (∀ p ∈ parts, ∀ body, p.token? = some (.note body) →
        ∃ lineBreak, Utf8.bytesOf (body ++ lineBreak) = p.bytes sql ∧
          (∀ c ∈ body, isLineBreak c = false) ∧ (∀ c ∈ lineBreak, isLineBreak c = true) ∧
          p.Written sql (body ++ ['\n'])) ∧
      ∀ (dialect : Dialect) (mode : ParameterMode),
        (∀ slots, ∃ rendered, renderFrom dialect mode sql 0 0 slots = some rendered ∧
          renderParts dialect mode sql slots parts = some rendered) ∧
        renderFrom dialect mode sql 0 0 .empty = some (render dialect mode sql.toList) := by
  obtain ⟨parts, hcuts, hrenders⟩ := exists_cutsFrom (Utf8.Reads.zero sql.toList)
  have hinto := hcuts.cutsInto
  refine ⟨?_, tokenAt?_isSome sql, parts, hinto, fun p hp => hinto.exists_written hp,
    fun p hp body => hinto.exists_note hp, ?_⟩
  · intro idx found stop hscan
    obtain ⟨t, after, hreads, hne, rfl, rfl⟩ := exists_token_of_scanAt? hscan
    have hpos : 0 < Utf8.width t.source := by
      obtain ⟨c, source, hsource⟩ := List.exists_cons_of_ne_nil hne
      rw [hsource]
      exact Utf8.width_cons_pos c source
    have hsize := hreads.width_eq
    rw [← Utf8.utf8ByteSize_eq_width, Utf8.width_append] at hsize
    exact ⟨by omega, by omega, Stretch.fits_of_reads hreads, fun s hs => Token.fits_found hreads hs⟩
  · intro dialect mode
    refine ⟨fun slots => ⟨_, renderFrom_zero dialect mode sql slots, hrenders dialect mode slots⟩, ?_⟩
    exact renderFrom_zero dialect mode sql .empty

end PortableSql
