import PortableSql.Proofs.Sql.Closing

/-!
# Where a quoted literal ends

What follows an opening quote is read in items: an escape with the symbol behind it, a quote written
twice, or a single symbol. The first quote that is an item by itself ends the literal. If there is
none, the last quote inside of an item does, so the search for the end gives up only if no quote
follows at all.

## Main definitions

* `Literal.items` — the items of a text.
* `Literal.EndsAt` — where a literal with these items ends.
* `ByteScan.literalEnd?` — the end as an offset into the bytes.
-/
namespace PortableSql

namespace Literal

/-- What a text behind an opening quote is read in. -/
inductive Item (α : Type) where
  /-- An escape, and the symbol behind it. -/
  | escaped (y : α)
  /-- A quote written twice. -/
  | doubled
  | single (x : α)
  deriving DecidableEq

variable {α : Type}

namespace Item

/-- The symbols of an item. -/
def source (escape quote : α) : Item α → List α
  | escaped y => [escape, y]
  | doubled => [quote, quote]
  | single x => [x]

/-- Number of symbols of an item. -/
def size : Item α → Nat
  | escaped _ | doubled => 2
  | single _ => 1

theorem length_source (escape quote : α) (item : Item α) :
    (item.source escape quote).length = item.size := by
  cases item <;> rfl

end Item

/-- Number of symbols of items. -/
def width : List (Item α) → Nat
  | [] => 0
  | item :: rest => item.size + width rest

@[simp] theorem width_nil : width ([] : List (Item α)) = 0 := rfl

@[simp] theorem width_cons (item : Item α) (rest : List (Item α)) :
    width (item :: rest) = item.size + width rest := rfl

theorem length_sources (escape quote : α) (its : List (Item α)) :
    (its.flatMap (Item.source escape quote)).length = width its := by
  induction its with
  | nil => rfl
  | cons item rest ih =>
    rw [List.flatMap_cons, List.length_append, ih, Item.length_source, width_cons]

variable [DecidableEq α]

/-- The items of a text, from left to right. -/
def items (escape quote : α) : List α → List (Item α)
  | [] => []
  | [x] => [.single x]
  | x :: y :: rest =>
    if x = escape then .escaped y :: items escape quote rest
    else if x = quote ∧ y = quote then .doubled :: items escape quote rest
    else .single x :: items escape quote (y :: rest)

/-- Number of symbols of an item up to and including a quote that does not stand alone. -/
def Item.innerQuote? (quote : α) : Item α → Option Nat
  | escaped y => if y = quote then some 2 else none
  | doubled => some 1
  | single _ => none

/-- There is no quote in any item. -/
def Quoteless (quote : α) (items : List (Item α)) : Prop :=
  ∀ item ∈ items, item ≠ .single quote ∧ item.innerQuote? quote = none

/-- Number of symbols of a literal with these items, the closing quote included. -/
inductive EndsAt (quote : α) (items : List (Item α)) : Nat → Prop
  /-- The first quote that stands alone. -/
  | alone {before after : List (Item α)} (hitems : items = before ++ .single quote :: after)
      (hfirst : .single quote ∉ before) : EndsAt quote items (width before + 1)
  /-- Without one, the last quote of all; of two in a row the first. -/
  | inner {before after : List (Item α)} {item : Item α} {n : Nat}
      (hitems : items = before ++ item :: after) (hnone : .single quote ∉ items)
      (hquote : item.innerQuote? quote = some n)
      (hlast : ∀ later ∈ after, later.innerQuote? quote = none) :
      EndsAt quote items (width before + n)

variable {escape quote : α} {rest : List (Item α)} {item : Item α} {n : Nat}

/-! ## The items of a text -/

/-- Nothing is lost in items. -/
theorem sources_items (escape quote : α) (body : List α) :
    (items escape quote body).flatMap (Item.source escape quote) = body := by
  fun_induction items escape quote body with
  | case1 => rfl
  | case2 x => rfl
  | case3 y rest ih =>
    rw [List.flatMap_cons, ih]
    rfl
  | case4 x y rest hescape hquote ih =>
    rw [List.flatMap_cons, ih, hquote.1, hquote.2]
    rfl
  | case5 x y rest hescape hquote ih =>
    rw [List.flatMap_cons, ih]
    rfl

theorem items_escape (y : α) (body : List α) :
    items escape quote (escape :: y :: body) = .escaped y :: items escape quote body := by
  rw [items, if_pos rfl]

theorem items_other {x : α} (hescape : x ≠ escape) (hquote : x ≠ quote) (body : List α) :
    items escape quote (x :: body) = .single x :: items escape quote body := by
  cases body with
  | nil => rfl
  | cons y body => rw [items, if_neg hescape, if_neg fun h => hquote h.1]

theorem items_quote (hne : quote ≠ escape) (body : List α) :
    items escape quote (quote :: body) =
      if body.head? = some quote then .doubled :: items escape quote body.tail
      else .single quote :: items escape quote body := by
  cases body with
  | nil => rfl
  | cons y body => simp [items, hne]

/-! ## One more item in front -/

theorem EndsAt.cons (h : EndsAt quote rest n) (hitem : item ≠ .single quote) :
    EndsAt quote (item :: rest) (item.size + n) := by
  cases h with
  | alone hitems hfirst =>
    rw [← Nat.add_assoc, ← width_cons, hitems, ← List.cons_append]
    exact .alone rfl (by simp [hitem.symm, hfirst])
  | inner hitems hnone hquote hlast =>
    rw [← Nat.add_assoc, ← width_cons]
    exact .inner (by rw [hitems, List.cons_append]) (by simp [hitem.symm, hnone]) hquote hlast

theorem endsAt_of_quoteless (hitem : item ≠ .single quote) (hrest : Quoteless quote rest)
    (hquote : item.innerQuote? quote = some n) : EndsAt quote (item :: rest) n := by
  have hnone : .single quote ∉ item :: rest := by
    intro h
    rcases List.mem_cons.1 h with heq | hmem
    · exact hitem heq.symm
    · exact (hrest _ hmem).1 rfl
  rw [← Nat.zero_add n, ← width_nil]
  exact .inner rfl hnone hquote fun later hlater => (hrest later hlater).2

/-- A lone quote ends the literal. -/
theorem endsAt_alone_cons : EndsAt quote (.single quote :: rest) n ↔ n = 1 := by
  constructor
  · intro h
    cases h with
    | @alone before after hitems hfirst =>
      cases before with
      | nil => rfl
      | cons first before =>
        obtain ⟨rfl, -⟩ := List.cons.inj hitems
        exact absurd List.mem_cons_self hfirst
    | inner hitems hnone => exact absurd List.mem_cons_self hnone
  · rintro rfl
    rw [← Nat.zero_add 1, ← width_nil]
    exact .alone rfl List.not_mem_nil

/-- Behind any other item the search goes on, and comes back to the item if it finds nothing. -/
theorem endsAt_cons_iff (hitem : item ≠ .single quote) :
    EndsAt quote (item :: rest) n ↔
      (∃ m, EndsAt quote rest m ∧ n = item.size + m) ∨
        Quoteless quote rest ∧ item.innerQuote? quote = some n := by
  constructor
  · intro h
    cases h with
    | @alone before after hitems hfirst =>
      cases before with
      | nil => exact absurd (List.cons.inj hitems).1 hitem
      | cons first before =>
        obtain ⟨rfl, hrest⟩ := List.cons.inj hitems
        have hbefore : .single quote ∉ before := fun h => hfirst (List.mem_cons_of_mem _ h)
        exact .inl ⟨_, .alone hrest hbefore, by rw [width_cons, Nat.add_assoc]⟩
    | @inner before after other k hitems hnone hquote hlast =>
      have hrest : .single quote ∉ rest := fun h => hnone (List.mem_cons_of_mem _ h)
      cases before with
      | nil =>
        -- the last quote is in the item itself, so there is none behind it
        obtain ⟨rfl, rfl⟩ := List.cons.inj hitems
        refine .inr ⟨fun later hlater => ⟨?_, hlast later hlater⟩, by simpa using hquote⟩
        rintro rfl
        exact hrest hlater
      | cons first before =>
        obtain ⟨rfl, hbehind⟩ := List.cons.inj hitems
        exact .inl ⟨_, .inner hbehind hrest hquote hlast, by rw [width_cons, Nat.add_assoc]⟩
  · rintro (⟨m, h, rfl⟩ | ⟨hrest, hquote⟩)
    · exact h.cons hitem
    · exact endsAt_of_quoteless hitem hrest hquote

theorem quoteless_cons : Quoteless quote (item :: rest) ↔
    (item ≠ .single quote ∧ item.innerQuote? quote = none) ∧ Quoteless quote rest :=
  List.forall_mem_cons

/-! ## The search -/

/-- What a search through items answers that has passed some symbols, and a last quote among them. -/
def Finds (quote : α) (items : List (Item α)) (passed : Nat) (last : Option Nat) (n : Nat) : Prop :=
  (∃ m, EndsAt quote items m ∧ n = passed + m) ∨ Quoteless quote items ∧ last = some n

theorem finds_nil {passed : Nat} {last : Option Nat} :
    Finds quote [] passed last n ↔ last = some n := by
  have hnever : ∀ m, ¬EndsAt quote ([] : List (Item α)) m := by
    intro m h
    cases h with
    | alone hitems => simp at hitems
    | inner hitems => simp at hitems
  simp [Finds, Quoteless, hnever]

theorem finds_alone_cons {passed : Nat} {last : Option Nat} :
    Finds quote (.single quote :: rest) passed last n ↔ n = passed + 1 := by
  simp [Finds, endsAt_alone_cons, quoteless_cons]

/-- An item that is no lone quote is passed, and a quote in it is the last one from then on. -/
theorem finds_cons (hitem : item ≠ .single quote) {passed : Nat} {last : Option Nat} :
    Finds quote (item :: rest) passed last n ↔
      Finds quote rest (passed + item.size)
        (((item.innerQuote? quote).map (passed + ·)).or last) n := by
  have hends : (∃ m, EndsAt quote (item :: rest) m ∧ n = passed + m) ↔
      (∃ m, EndsAt quote rest m ∧ n = passed + item.size + m) ∨
        Quoteless quote rest ∧ (item.innerQuote? quote).map (passed + ·) = some n := by
    constructor
    · rintro ⟨m, hm, rfl⟩
      rcases (endsAt_cons_iff hitem).1 hm with ⟨k, hk, rfl⟩ | ⟨hrest, hquote⟩
      · exact .inl ⟨k, hk, (Nat.add_assoc ..).symm⟩
      · exact .inr ⟨hrest, by rw [hquote, Option.map_some]⟩
    · rintro (⟨m, hm, rfl⟩ | ⟨hrest, hquote⟩)
      · exact ⟨_, hm.cons hitem, Nat.add_assoc ..⟩
      · obtain ⟨k, hk, rfl⟩ := Option.map_eq_some_iff.1 hquote
        exact ⟨k, endsAt_of_quoteless hitem hrest hk, rfl⟩
  rw [Finds, Finds, hends, quoteless_cons]
  cases item.innerQuote? quote with
  | none => simp [hitem]
  | some k => simp

open ByteScan

/-- **The search finds where the items end**, or what it has been given as the last quote if there is
no other one. -/
theorem closingFrom_eq_some_iff (hne : quote ≠ escape) (body : List α) (passed : Nat)
    (last : Option Nat) :
    closingFrom escape quote body passed last = some n ↔
      Finds quote (items escape quote body) passed last n := by
  induction body using closing_induction escape quote generalizing passed last with
  | nil => rw [items, finds_nil, closingFrom]
  | other x body hescape hquote ih =>
    have hitem : Item.single x ≠ .single quote := by simp [hquote]
    rw [closingFrom_cons hescape hquote, items_other hescape hquote, finds_cons hitem, ih]
    rfl
  | alone =>
    -- an escape with nothing behind it is a symbol like any other
    have hitem : Item.single escape ≠ .single quote := by simp [hne.symm]
    rw [items, finds_cons hitem, finds_nil]
    simp [closingFrom, hne.symm, Item.innerQuote?]
  | escaped y body ih =>
    have hitem : Item.escaped y ≠ .single quote := by simp
    rw [closingFrom_escape, items_escape, finds_cons hitem, ih]
    by_cases hquote : y = quote <;> simp [Item.innerQuote?, Item.size, hquote]
  | closing body ih =>
    rw [closingFrom_quote hne, items_quote hne]
    by_cases hdoubled : body.head? = some quote
    · have hitem : (Item.doubled : Item α) ≠ .single quote := by simp
      rw [if_pos hdoubled, if_pos hdoubled, finds_cons hitem, ih]
      rfl
    · rw [if_neg hdoubled, if_neg hdoubled, finds_alone_cons, Option.some.injEq, eq_comm]

/-- **A literal ends where its items say.** -/
theorem closing?_eq_some_iff (hne : quote ≠ escape) {body : List α} :
    closing? escape quote body = some n ↔ EndsAt quote (items escape quote body) n := by
  rw [closing?, closingFrom_eq_some_iff hne]
  simp [Finds]

/-- A quote in an item shows among its symbols. -/
theorem mem_source_iff (hne : quote ≠ escape) (item : Item α) :
    quote ∈ item.source escape quote ↔ ¬(item ≠ .single quote ∧ item.innerQuote? quote = none) := by
  cases item with
  | escaped y => simp [Item.source, Item.innerQuote?, hne, eq_comm]
  | doubled => simp [Item.source, Item.innerQuote?]
  | single x => simp [Item.source, Item.innerQuote?, eq_comm]

/-- **A quote ends no literal exactly if there is none in the items**, that is, in the text. -/
theorem quoteless_items_iff (hne : quote ≠ escape) (body : List α) :
    Quoteless quote (items escape quote body) ↔ quote ∉ body := by
  have hmem : quote ∈ body ↔ ∃ item ∈ items escape quote body, quote ∈ item.source escape quote := by
    rw [← List.mem_flatMap, sources_items]
  simp [hmem, mem_source_iff hne, Quoteless]

/-- A literal closes with its quote. -/
theorem EndsAt.getElem? (h : EndsAt quote rest n) (escape : α) :
    ∃ i, n = i + 1 ∧ (rest.flatMap (Item.source escape quote))[i]? = some quote := by
  cases h with
  | @alone before after hitems hfirst =>
    refine ⟨width before, rfl, ?_⟩
    rw [hitems, List.flatMap_append, List.flatMap_cons, ← length_sources escape quote before]
    simp [Item.source]
  | @inner before after item k hitems hnone hquote hlast =>
    rw [hitems, List.flatMap_append, List.flatMap_cons, ← length_sources escape quote before]
    cases item with
    | escaped y =>
      obtain ⟨rfl, rfl⟩ : y = quote ∧ 2 = k := by simpa [Item.innerQuote?] using hquote
      exact ⟨_ + 1, rfl, by simp [Item.source]⟩
    | doubled =>
      obtain rfl : 1 = k := by simpa [Item.innerQuote?] using hquote
      exact ⟨_, rfl, by simp [Item.source]⟩
    | single x => cases hquote

end Literal

namespace ByteScan

/-- The end of the literal whose opening quote is at `start`, if it is one. -/
def literalEnd? (bytes : Bytes) (start : Nat) : Option Nat :=
  bytes[start]?.bind fun quote =>
    (Literal.closing? '\\'.toUInt8 quote (bytes.drop (start + 1))).map (start + 1 + ·)

variable {bytes : Bytes} {start : Nat} {quote : UInt8}

theorem literalEnd?_eq (hstart : bytes[start]? = some quote) :
    literalEnd? bytes start =
      (Literal.closing? '\\'.toUInt8 quote (bytes.drop (start + 1))).map (start + 1 + ·) := by
  rw [literalEnd?, hstart, Option.bind_some]

/-- The scanner takes a literal as it stands, up to its end. -/
theorem scanAt?_quote (hquote : quote = '\''.toUInt8 ∨ quote = '"'.toUInt8)
    (hstart : bytes[start]? = some quote) :
    scanAt? bytes start = (literalEnd? bytes start).map fun stop => (.verbatim, stop) := by
  rw [literalEnd?_eq hstart, Option.map_map]
  rcases hquote with rfl | rfl <;> simp [scanAt?, hstart] <;> rfl

end ByteScan

/-- **Where a quoted literal ends.** The bytes behind an opening quote are read in items: a backslash
with the byte behind it, two quotes, or one byte. The first quote that is an item by itself ends the
literal; if there is none, the last quote in an item does, of two quotes the first. There is no end
exactly if no quote follows, and what ends a literal is a quote behind the opening one. -/
theorem literal_ends_at_quote (bytes : Bytes) (start : Nat) {quote : UInt8}
    (hquote : quote = '\''.toUInt8 ∨ quote = '"'.toUInt8) (hstart : bytes[start]? = some quote) :
    let body := bytes.drop (start + 1)
    let items := Literal.items '\\'.toUInt8 quote body
    let stop? := ByteScan.literalEnd? bytes start
    ByteScan.scanAt? bytes start = stop?.map (fun stop => (.verbatim, stop)) ∧
      items.flatMap (Literal.Item.source '\\'.toUInt8 quote) = body ∧
      (∀ stop, stop? = some stop ↔ ∃ n, Literal.EndsAt quote items n ∧ stop = start + 1 + n) ∧
      (stop? = none ↔ Literal.Quoteless quote items) ∧ (stop? = none ↔ quote ∉ body) ∧
      ∀ stop, stop? = some stop →
        start + 2 ≤ stop ∧ stop ≤ bytes.length ∧ bytes[stop - 1]? = some quote := by
  intro body items stop?
  have hne : quote ≠ '\\'.toUInt8 := by rcases hquote with rfl | rfl <;> decide
  have hstop : stop? = (Literal.closing? '\\'.toUInt8 quote body).map (start + 1 + ·) :=
    ByteScan.literalEnd?_eq hstart
  have hends : ∀ stop, stop? = some stop ↔
      ∃ n, Literal.EndsAt quote items n ∧ stop = start + 1 + n := by
    intro stop
    rw [hstop, Option.map_eq_some_iff]
    constructor
    · rintro ⟨n, hn, rfl⟩
      exact ⟨n, (Literal.closing?_eq_some_iff hne).1 hn, rfl⟩
    · rintro ⟨n, hn, rfl⟩
      exact ⟨n, (Literal.closing?_eq_some_iff hne).2 hn, rfl⟩
  have hnone : stop? = none ↔ quote ∉ body := by
    rw [hstop, Option.map_eq_none_iff, Literal.closing?_eq_none_iff hne]
  refine ⟨ByteScan.scanAt?_quote hquote hstart, Literal.sources_items _ _ body, hends, ?_, hnone,
    ?_⟩
  · rw [hnone, Literal.quoteless_items_iff hne]
  · intro stop hsome
    obtain ⟨n, hn, rfl⟩ := (hends stop).1 hsome
    obtain ⟨i, rfl, hi⟩ := hn.getElem? '\\'.toUInt8
    rw [Literal.sources_items, List.getElem?_drop] at hi
    have hlt : start + 1 + i < bytes.length := (List.getElem?_eq_some_iff.1 hi).1
    exact ⟨by omega, hlt, hi⟩

/-- No quote stands alone behind the first one: the literal ends with the first of the two in a
row. -/
theorem literal_ends_at_quote_of_two :
    let bytes : Bytes := "a'b\\'c''d".toList.map Char.toUInt8
    let quote := '\''.toUInt8
    (quote = '\''.toUInt8 ∨ quote = '"'.toUInt8) ∧ bytes[1]? = some quote ∧
      ByteScan.scanAt? bytes 1 = some (.verbatim, 7) := by
  intro bytes quote
  have hquote : quote = '\''.toUInt8 ∨ quote = '"'.toUInt8 := .inl rfl
  have hstart : bytes[1]? = some quote := by decide
  obtain ⟨hscan, -, hends, -⟩ := literal_ends_at_quote bytes 1 hquote hstart
  let before : List (Literal.Item UInt8) :=
    [.single 'b'.toUInt8, .escaped quote, .single 'c'.toUInt8]
  have hitems : Literal.items '\\'.toUInt8 quote (bytes.drop 2) =
      before ++ .doubled :: [.single 'd'.toUInt8] := by decide
  have hnone : .single quote ∉ Literal.items '\\'.toUInt8 quote (bytes.drop 2) := by decide
  have hend : Literal.EndsAt quote (Literal.items '\\'.toUInt8 quote (bytes.drop 2))
      (Literal.width before + 1) := .inner hitems hnone rfl (by decide)
  refine ⟨hquote, hstart, ?_⟩
  rw [hscan, (hends 7).2 ⟨_, hend, by decide⟩]
  rfl

end PortableSql
