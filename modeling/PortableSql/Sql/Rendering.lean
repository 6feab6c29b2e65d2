import PortableSql.Sql.Dialect
import PortableSql.Sql.Piece
import PortableSql.Sql.SlotMap

/-!
# Rendering portable SQL

`renderSql` turns portable SQL into the SQL of a dialect. Plain characters, literals and comments
are copied, a `//` comment ends with one newline, and placeholders and templates are rendered. With
native parameters the placeholders are copied too and no slots are given out.
-/
namespace PortableSql

/-- What has been rendered: the text, the slots given out so far, and what the dialect was asked to
write in this part, in order. -/
structure Rendered where
  text : List Char
  slots : SlotMap
  calls : List Dialect.Call

namespace Rendered

/-- Text that the dialect has no say in. -/
def copy (text : List Char) (slots : SlotMap) : Rendered :=
  ⟨text, slots, []⟩

/-- Text that the dialect writes. -/
def written (dialect : Dialect) (call : Dialect.Call) (slots : SlotMap) : Rendered :=
  ⟨dialect.write call, slots, [call]⟩

/-- Two parts, the second of which was rendered after the first. -/
def append (first second : Rendered) : Rendered :=
  ⟨first.text ++ second.text, second.slots, first.calls ++ second.calls⟩

/-- A key column around what its data was rendered to. -/
def inTemplate (dialect : Dialect) (data : Rendered) (other : List Char) : Rendered :=
  let call := .ifSeq data.text other
  ⟨dialect.write call, data.slots, data.calls ++ [call]⟩

/-- The identifiers and slots of the placeholders, in order. -/
def placed (r : Rendered) : List (Identifier × Nat) :=
  r.calls.filterMap Dialect.Call.placement?

end Rendered

/-- How the parameters of a text are treated. -/
structure ParameterMode where
  /-- Placeholders are already those of the product. -/
  native : Bool
  /-- A repeated identifier takes its first slot again. -/
  coalescing : Bool
  deriving DecidableEq, Repr

/-- Renders a parameter against the slot of its identifier. -/
def renderParameter (dialect : Dialect) (mode : ParameterMode) (id : Identifier) (text : List Char)
    (slots : SlotMap) : Rendered :=
  if mode.native then .copy text slots
  else
    let (slot, slots') := slots.assign id mode.coalescing
    .written dialect (.parameter id text slot) slots'

mutual

/-- Renders one piece. -/
def Piece.render (dialect : Dialect) (mode : ParameterMode) (slots : SlotMap) : Piece → Rendered
  | .plain c => .copy [c] slots
  | .placeholder p => renderParameter dialect mode p.identifier p.text slots
  | .verbatim text => .copy text slots
  | .note body _ => .copy (body ++ ['\n']) slots
  | .ifSeq _ data other => (renderPieces dialect mode slots data).inTemplate dialect other
  | .next _ name other => .written dialect (.next name other) slots

/-- Renders pieces from left to right. -/
def renderPieces (dialect : Dialect) (mode : ParameterMode) (slots : SlotMap) :
    List Piece → Rendered
  | [] => .copy [] slots
  | p :: rest =>
    let first := p.render dialect mode slots
    first.append (renderPieces dialect mode first.slots rest)

end

/-- Renders a text. -/
def render (dialect : Dialect) (mode : ParameterMode) (text : List Char) : Rendered :=
  renderPieces dialect mode .empty (pieces text)

/-- SQL of a dialect with the slots of its parameters. -/
structure RenderedSql where
  sql : String
  slots : SlotMap
  deriving DecidableEq, Repr

/-- Renders portable SQL in a dialect. -/
def renderSql (dialect : Dialect) (mode : ParameterMode) (sql : String) : RenderedSql :=
  let rendered := render dialect mode sql.toList
  ⟨String.ofList rendered.text, rendered.slots⟩

end PortableSql
