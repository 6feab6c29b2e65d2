import PortableSql.Proofs.Sql.SlotMap
import PortableSql.Sql.Placeholders

/-!
# Rendering gives slots to the parameters in order

The parameters of a text are those of its pieces from left to right, with the ones in the data of a
template where the template stands. Rendering in portable syntax assigns slots to them in this order
and asks the dialect for exactly these placements.
-/
namespace PortableSql

namespace Rendered

variable (dialect : Dialect) (slots : SlotMap)

@[simp] theorem slots_copy (text : List Char) : (copy text slots).slots = slots := rfl

@[simp] theorem placed_copy (text : List Char) : (copy text slots).placed = [] := rfl

@[simp] theorem slots_append (first second : Rendered) :
    (first.append second).slots = second.slots := rfl

@[simp] theorem placed_append (first second : Rendered) :
    (first.append second).placed = first.placed ++ second.placed :=
  List.filterMap_append

@[simp] theorem slots_inTemplate (data : Rendered) (other : List Char) :
    (data.inTemplate dialect other).slots = data.slots := rfl

@[simp] theorem placed_inTemplate (data : Rendered) (other : List Char) :
    (data.inTemplate dialect other).placed = data.placed := by
  simp [placed, inTemplate, Dialect.Call.placement?]

end Rendered

mutual

/-- The parameters of a piece, in order. -/
def Piece.parameters : Piece → List Identifier
  | .placeholder p => [p.identifier]
  | .ifSeq _ data _ => parameters data
  | .plain _ | .verbatim _ | .note _ _ | .next _ _ _ => []

/-- The parameters of pieces, in order. -/
def parameters : List Piece → List Identifier
  | [] => []
  | p :: rest => p.parameters ++ parameters rest

end

/-- A rendered part made the placements that assigning slots to the identifiers makes. -/
def Rendered.Assigns (coalescing : Bool) (ids : List Identifier) (slots : SlotMap) (r : Rendered) :
    Prop :=
  (r.placed, r.slots) = slots.assignAll coalescing ids

variable {dialect : Dialect} {coalescing : Bool}

theorem Rendered.Assigns.append {ids ids' : List Identifier} {slots : SlotMap} {r r' : Rendered}
    (h : r.Assigns coalescing ids slots) (h' : r'.Assigns coalescing ids' r.slots) :
    (r.append r').Assigns coalescing (ids ++ ids') slots := by
  have hfirst : SlotMap.assignAll coalescing ids slots = (r.placed, r.slots) := h.symm
  have hsecond : SlotMap.assignAll coalescing ids' r.slots = (r'.placed, r'.slots) := h'.symm
  rw [Rendered.Assigns, SlotMap.assignAll_append, hfirst]
  simp [hsecond]

theorem Rendered.Assigns.inTemplate {ids : List Identifier} {slots : SlotMap} {r : Rendered}
    (h : r.Assigns coalescing ids slots) (other : List Char) :
    (r.inTemplate dialect other).Assigns coalescing ids slots := by
  rwa [Rendered.Assigns, Rendered.placed_inTemplate, Rendered.slots_inTemplate]

theorem renderParameter_assigns (id : Identifier) (text : List Char) (slots : SlotMap) :
    (renderParameter dialect ⟨false, coalescing⟩ id text slots).Assigns coalescing [id] slots := rfl

mutual

theorem Piece.render_assigns (slots : SlotMap) : (p : Piece) →
    (p.render dialect ⟨false, coalescing⟩ slots).Assigns coalescing p.parameters slots
  | .placeholder p => by
    rw [Piece.render, Piece.parameters]
    exact renderParameter_assigns p.identifier p.text slots
  | .ifSeq _ data other => by
    rw [Piece.render, Piece.parameters]
    exact (renderPieces_assigns slots data).inTemplate other
  | .plain _ | .verbatim _ | .note _ _ | .next _ _ _ => by
    rw [Piece.render, Piece.parameters]
    rfl

/-- **Rendering pieces assigns slots to their parameters in order.** -/
theorem renderPieces_assigns (slots : SlotMap) : (ps : List Piece) →
    (renderPieces dialect ⟨false, coalescing⟩ slots ps).Assigns coalescing (parameters ps) slots
  | [] => by
    rw [renderPieces, parameters]
    rfl
  | p :: rest => by
    rw [renderPieces, parameters]
    exact (p.render_assigns slots).append (renderPieces_assigns _ rest)

end

/-- The slots of a rendered text. -/
theorem slots_renderSql (dialect : Dialect) (coalescing : Bool) (sql : String) :
    (renderSql dialect ⟨false, coalescing⟩ sql).slots =
      (SlotMap.empty.assignAll coalescing (parameters (pieces sql.toList))).2 :=
  congrArg Prod.snd (renderPieces_assigns SlotMap.empty (pieces sql.toList))

/-- The placements made while a text is rendered. -/
theorem placed_render (dialect : Dialect) (coalescing : Bool) (text : List Char) :
    (render dialect ⟨false, coalescing⟩ text).placed =
      (SlotMap.empty.assignAll coalescing (parameters (pieces text))).1 :=
  congrArg Prod.fst (renderPieces_assigns SlotMap.empty (pieces text))

/-! ## Native parameters -/

mutual

theorem Piece.slots_render_native (dialect : Dialect) (coalescing : Bool) (slots : SlotMap) :
    (p : Piece) → (p.render dialect ⟨true, coalescing⟩ slots).slots = slots
  | .placeholder p => by
    rw [Piece.render, renderParameter, if_pos rfl, Rendered.slots_copy]
  | .ifSeq _ data other => by
    rw [Piece.render, Rendered.slots_inTemplate]
    exact slots_renderPieces_native dialect coalescing slots data
  | .plain _ | .verbatim _ | .note _ _ | .next _ _ _ => by
    rw [Piece.render]
    rfl

/-- With native parameters no slots are given out. -/
theorem slots_renderPieces_native (dialect : Dialect) (coalescing : Bool) (slots : SlotMap) :
    (ps : List Piece) → (renderPieces dialect ⟨true, coalescing⟩ slots ps).slots = slots
  | [] => by
    rw [renderPieces, Rendered.slots_copy]
  | p :: rest => by
    rw [renderPieces, Rendered.slots_append, p.slots_render_native,
      slots_renderPieces_native dialect coalescing slots rest]

end

theorem slots_renderSql_native (dialect : Dialect) (coalescing : Bool) (sql : String) :
    (renderSql dialect ⟨true, coalescing⟩ sql).slots = .empty :=
  slots_renderPieces_native dialect coalescing .empty (pieces sql.toList)

end PortableSql
