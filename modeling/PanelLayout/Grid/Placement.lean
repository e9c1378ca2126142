import PanelLayout.Grid.Basic

/-!
The placement of a grid child on both axes: its lines are read from its style, names are replaced by
the bounds of their areas, and the lines are resolved among the tracks.
-/
namespace PanelLayout.Grid

abbrev Sides := GridLine × GridLine

inductive Axis where
  | row
  | column
  deriving DecidableEq, Repr

namespace Axis

def properties : Axis → Property × Property × Property
  | row => (.gridRow, .gridRowStart, .gridRowEnd)
  | column => (.gridColumn, .gridColumnStart, .gridColumnEnd)

def bounds : Axis → GridArea → Nat × Nat
  | row, a => (a.rowStart, a.rowEnd)
  | column, a => (a.columnStart, a.columnEnd)

/-- The sides of an axis among the sides of an area property, which lists the row start, the column
start, the row end and the column end. A single name stands for all of them. -/
def ofAreaSides (axis : Axis) (sides : List GridLine) : Sides :=
  match sides with
  | [.named name] => (.named name, .auto)
  | _ =>
    let side (i : Nat) : GridLine := sides[i]?.getD .auto
    match axis with
    | row => (side 0, side 2)
    | column => (side 1, side 3)

def sides (axis : Axis) (style : Style) : Sides :=
  let (both, start, finish) := axis.properties
  match style.get both with
  | some v => GridLine.pairOfValue v
  | none =>
    let side (p : Property) : GridLine := ((style.get p).map GridLine.ofValue).getD .auto
    if (style.get start).isSome || (style.get finish).isSome then (side start, side finish)
    else
      match style.get .gridArea with
      | some v => axis.ofAreaSides (GridLine.listOfValue v)
      | none => (.auto, .auto)

end Axis

/-- The line before the track of an index. The number of the line fits 32 bits with a sign while the
index is below `2 ^ 31 - 1`. -/
def lineBefore (index : Nat) : GridLine := .line (index + 1 : Nat)

def linesOf? (g : Grid) (axis : Axis) (name : String) : Option (GridLine × GridLine) :=
  (g.area? name).map fun a => (lineBefore (axis.bounds a).1, lineBefore (axis.bounds a).2)

/-- Replaces names by the bounds of their areas. A name with nothing behind it stands for both
bounds, and an unknown name for nothing. -/
def expandNames (g : Grid) (axis : Axis) : Sides → Sides
  | (.named name, .auto) => (g.linesOf? axis name).getD (.auto, .auto)
  | (start, finish) =>
    let start := match start with
      | .named name => ((g.linesOf? axis name).map Prod.fst).getD .auto
      | l => l
    let finish := match finish with
      | .named name => ((g.linesOf? axis name).map Prod.snd).getD .auto
      | l => l
    (start, finish)

def trackCount (g : Grid) : Axis → Nat
  | .row => g.totalRows
  | .column => g.totalColumns

def placement (g : Grid) (axis : Axis) (style : Style) : AxisPlacement :=
  let (start, finish) := g.expandNames axis (axis.sides style)
  AxisPlacement.resolve start finish (g.trackCount axis)

/-- The cell of a new child, and the grid after it. A child that gives neither index goes where the
flow stands and moves it on; a missing single index is taken from where the flow stands. -/
def cellFor (g : Grid) (row column : AxisPlacement) : Cell × Grid :=
  match row.start, column.start with
  | some r, some c => (⟨r, c⟩, g)
  | none, none => g.nextCell row.span column.span
  | none, some c => (⟨g.cursor.row, c⟩, g)
  | some r, none => (⟨r, g.cursor.column⟩, g)

def slotFor (u : CssUnits) (g : Grid) (style : Style) : GridSlot × Grid :=
  let row := g.placement .row style
  let column := g.placement .column style
  let (cell, next) := g.cellFor row column
  let slot : GridSlot := ⟨cell.row, cell.column, row.span, column.span, .filling⟩
  ({ slot with seat := next.seat u style slot }, next)

/-- The slot of a child whose style has changed. An index that is not given stays. -/
def moveSlot (u : CssUnits) (g : Grid) (style : Style) (s : GridSlot) : GridSlot :=
  let row := g.placement .row style
  let column := g.placement .column style
  let slot : GridSlot :=
    ⟨row.start.getD s.row, column.start.getD s.column, row.span, column.span, s.seat⟩
  { slot with seat := g.seat u style slot }

end PanelLayout.Grid
