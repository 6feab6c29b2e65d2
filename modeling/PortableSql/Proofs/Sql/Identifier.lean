import PortableSql.Proofs.Text.LowerCase
import PortableSql.Proofs.Text.Utf8
import PortableSql.Sql.Identifier

/-!
# Equal identifiers

Identifiers are the same exactly when they are filed under the same key: texts that differ in the
case of ASCII letters only have one lower-case form, so the shortcut for them decides nothing that
the fold would decide otherwise. Sameness is therefore an equivalence, and hashes, which are fed the
fold alone, agree with it.
-/
namespace PortableSql.Identifier

/-- The ASCII shortcut never says more than the fold. -/
theorem foldName_eq_of_sameAscii {a b : String} (h : sameAscii a b = true) :
    foldName a = foldName b :=
  Text.lower_congr_ascii (beq_iff_eq.1 h)

/-- The byte of the small form of an ASCII letter. -/
def lowerByte (b : UInt8) : UInt8 :=
  if 65 ≤ b ∧ b ≤ 90 then b + 32 else b

/-- The bytes of a text whose ASCII letters are made small are those of the text, each of them made
small. -/
theorem bytesOf_map_toLower (text : List Char) :
    Text.Utf8.bytesOf (text.map Char.toLower) = (Text.Utf8.bytesOf text).map lowerByte := by
  induction text with
  | nil => rfl
  | cons c text ih =>
    obtain hascii | hhigh := Nat.lt_or_ge c.toNat 128
    · have hbyte : ∀ n < 128, (Char.ofNat n).toLower.toNat < 128 ∧
          (Char.ofNat n).toLower.toUInt8 = lowerByte (Char.ofNat n).toUInt8 := by decide +kernel
      have hc := hbyte c.toNat hascii
      rw [Char.ofNat_toNat] at hc
      rw [List.map_cons, Text.Utf8.bytesOf_cons_ascii hc.1, Text.Utf8.bytesOf_cons_ascii hascii,
        List.map_cons, ih, hc.2]
    · have hlower : c.toLower = c := by
        obtain hc | ⟨n, hn, rfl⟩ := Text.toLower_eq_or_capital c
        · exact hc
        · have hcapital : ∀ n < 26, (Char.ofNat (65 + n)).toNat < 128 := by decide
          exact absurd (hcapital n hn) (Nat.not_lt.2 hhigh)
      have hkept : (String.utf8EncodeChar c).map lowerByte = String.utf8EncodeChar c := by
        refine (List.map_congr_left fun b hb => if_neg fun hletter => ?_).trans (List.map_id _)
        have hle : b.toNat ≤ 90 := UInt8.le_iff_toNat_le.1 hletter.2
        have := Text.Utf8.high_of_mem_utf8EncodeChar hhigh b hb
        omega
      rw [List.map_cons, hlower, Text.Utf8.bytesOf_cons, Text.Utf8.bytesOf_cons, List.map_append,
        hkept, ih]

/-- The shortcut can be taken byte by byte: the bytes of characters beyond ASCII are no letters. -/
theorem sameAscii_iff_bytes {a b : String} :
    sameAscii a b = true ↔
      (Text.Utf8.encode a).map lowerByte = (Text.Utf8.encode b).map lowerByte := by
  rw [sameAscii, beq_iff_eq, Text.Utf8.encode_eq_bytesOf, Text.Utf8.encode_eq_bytesOf,
    ← bytesOf_map_toLower, ← bytesOf_map_toLower]
  exact ⟨congrArg _, Text.Utf8.bytesOf_injective⟩

/-- Identifiers are the same when they have one key. -/
theorem same_iff {a b : Identifier} : a.same b = true ↔ a.key = b.key := by
  cases a with
  | position m => cases b <;> simp
  | name s =>
    cases b with
    | position n => simp
    | name t =>
      have hfold : sameAscii s t = true → foldName s = foldName t := foldName_eq_of_sameAscii
      simpa [same] using hfold

theorem same_eq_decide_key (a b : Identifier) : a.same b = decide (a.key = b.key) := by
  rw [Bool.eq_iff_iff, same_iff, decide_eq_true_iff]

theorem same_refl (a : Identifier) : a.same a = true :=
  same_iff.2 rfl

theorem same_comm (a b : Identifier) : a.same b = b.same a := by
  simp only [same_eq_decide_key, eq_comm]

/-- The same identifiers are the same as the same others. -/
theorem same_congr_left {a b : Identifier} (h : a.same b = true) (c : Identifier) :
    a.same c = b.same c := by
  simp only [same_eq_decide_key, same_iff.1 h]

/-! ## Hashes -/

variable {σ : Type}

/-- The same identifiers leave a hash in the same state. -/
theorem feed_congr {a b : Identifier} (hsame : a.same b = true) (h : Hasher σ) (s : σ) :
    a.feed h s = b.feed h s := by
  have hkey := same_iff.1 hsame
  cases a with
  | position m =>
    cases b with
    | position n =>
      cases hkey
      rfl
    | name t => cases hkey
  | name u =>
    cases b with
    | position n => cases hkey
    | name t =>
      have hfold : foldName u = foldName t := Identifier.name.inj hkey
      rw [feed, feed, hfold]

/-- The hash that keeps the last part it is fed, as a key. -/
def lastPart : Hasher (Option Identifier) where
  byte _ s := s
  word n _ := some (position n)
  text t _ := some (name t)

theorem feed_lastPart (a : Identifier) (s : Option Identifier) : a.feed lastPart s = some a.key := by
  cases a <;> rfl

/-- **Equality of identifiers agrees with their hashes.** Identifiers are the same if they are one
position, or two names with the same lower-case form; this is an equivalence under which a position is
never a name. Every hash is fed the same by identifiers that are the same, and by no others. Names that
differ in the case of ASCII letters only have the same lower-case form, whatever stands around the
letters whose form depends on that. -/
theorem same_agrees_with_hashes :
    (∀ a b : Identifier, a.same b = true ↔
      (∃ n, a = position n ∧ b = position n) ∨
        ∃ s t, a = name s ∧ b = name t ∧ foldName s = foldName t) ∧
    Equivalence (fun a b : Identifier => a.same b = true) ∧
    (∀ a b : Identifier, a.same b = true ↔
      ∀ (σ : Type) (h : Hasher σ) (s : σ), a.feed h s = b.feed h s) ∧
    (∀ n s, (position n).same (name s) = false ∧ (name s).same (position n) = false) ∧
    ∀ s t : String, (Text.Utf8.encode s).map lowerByte = (Text.Utf8.encode t).map lowerByte →
      foldName s = foldName t := by
  refine ⟨fun a b => ?_, ⟨same_refl, ?_, ?_⟩, fun a b => ⟨?_, ?_⟩, fun n s => ⟨rfl, rfl⟩, ?_⟩
  · rw [same_iff]
    cases a <;> cases b <;> simp [eq_comm]
  · intro a b h
    rwa [same_comm]
  · intro a b c hab hbc
    rwa [same_congr_left hab]
  · exact fun hsame σ => feed_congr hsame
  · intro hfed
    have hlast := hfed _ lastPart none
    rw [feed_lastPart, feed_lastPart] at hlast
    exact same_iff.2 (Option.some.inj hlast)
  · intro s t hbytes
    exact foldName_eq_of_sameAscii (sameAscii_iff_bytes.2 hbytes)

/-- A capital sigma at the end of a word has a form of its own, which the case of the letters before it
does not change. -/
example : foldName "xΣ" = "xς" ∧ foldName "XΣ" = "xς" ∧ foldName "XΣX" = "xσx" := by
  decide +kernel

end PortableSql.Identifier
