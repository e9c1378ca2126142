import PanelLayout.Container.Config
import PanelLayout.Container.Panel
import PanelLayout.Grid.Axis
import PanelLayout.Grid.Track
import PanelLayout.Style.Spacing

/-!
Grid layout: the tracks, areas and gaps of a container, the cells that children are put into, and
the seat of a child in its cell.
-/
namespace PanelLayout

inductive AutoFlow where
  | row
  | column
  deriving DecidableEq, Repr

structure Cell where
  row : Nat
  column : Nat
  deriving DecidableEq, Repr

/-- A rectangle of cells; the ends are the indices behind the last ones. -/
structure GridArea where
  rowStart : Nat
  rowEnd : Nat
  columnStart : Nat
  columnEnd : Nat
  deriving DecidableEq, Repr

namespace GridArea

def ofCell (c : Cell) : GridArea := ⟨c.row, c.row + 1, c.column, c.column + 1⟩

def cover (a : GridArea) (c : Cell) : GridArea :=
  ⟨min a.rowStart c.row, max a.rowEnd (c.row + 1), min a.columnStart c.column,
    max a.columnEnd (c.column + 1)⟩

def ofCells? : List Cell → Option GridArea
  | [] => none
  | c :: cs => some (cs.foldl cover (ofCell c))

end GridArea

/-- The cells of a name in rows of names. There are fewer than `2 ^ 32` rows with fewer than `2 ^ 32`
names each, so that every index fits 32 bits. -/
def cellsNamed (areas : List (List String)) (name : String) : List Cell :=
  areas.zipIdx.flatMap fun (cells, row) =>
    cells.zipIdx.filterMap fun (cell, column) =>
      if cell = name then some ⟨row, column⟩ else none

structure Grid where
  columns : List Track
  rows : List Track
  areas : List (List String)
  cursor : Cell
  gaps : Gaps
  alignItems : Option AlignKeyword
  justifyItems : Option AlignKeyword
  flow : AutoFlow
  deriving DecidableEq, Repr

namespace Grid

def fontSize (u : CssUnits) (config : Config) (style : Style) : Float32 :=
  match style.get .fontSize with
  | some v => if 0 < u.pixels style none v then u.pixels style none v else config.defaultFontSize
  | none => config.defaultFontSize

def tracks (u : TrackUnits) (p : Property) (short : Option (List Char)) : List Track :=
  match u.style.get p with
  | some v => Track.listOfText u v.display.toList
  | none =>
    match short with
    | some s => Track.listOfText u s
    | none => []

def areasOfStyle (style : Style) : List (List String) :=
  match (style.get .gridTemplateAreas).bind Value.text? with
  | some s => Template.areas s
  | none => []

def orShares (ts : List Track) (n : Nat) : List Track :=
  if ts.isEmpty then List.replicate n (.fr 1) else ts

def width (areas : List (List String)) : Nat :=
  (areas.map List.length).foldl max 0

def flowOfStyle (style : Style) : AutoFlow :=
  match style.keyword? .gridAutoFlow with
  | some s => if (Text.words s.toList).contains "column".toList then .column else .row
  | none => .row

def ofStyle (u : CssUnits) (config : Config) (style : Style) : Grid :=
  let trackUnits : TrackUnits := ⟨fontSize u config style, u, style⟩
  let short := match style.get .gridTemplate with
    | some v => Template.shorthand v.display.toList
    | none => (none, none)
  let areas := areasOfStyle style
  let (align, justify) := style.alignPair .placeItems
  { columns := orShares (tracks trackUnits .gridTemplateColumns short.2) (width areas)
    rows := orShares (tracks trackUnits .gridTemplateRows short.1) areas.length
    areas := areas
    cursor := ⟨0, 0⟩
    gaps := u.gaps style
    alignItems := (style.align? .alignItems).or align
    justifyItems := (style.align? .justifyItems).or justify
    flow := flowOfStyle style }

/-- The number of columns, which fits 32 bits while there are fewer than `2 ^ 32`. -/
def totalColumns (g : Grid) : Nat := g.columns.length

/-- The number of rows, which fits 32 bits while there are fewer than `2 ^ 32`. -/
def totalRows (g : Grid) : Nat := g.rows.length

def panel (g : Grid) : GridPanel := ⟨Track.fills g.columns, Track.fills g.rows⟩

def area? (g : Grid) (name : String) : Option GridArea :=
  GridArea.ofCells? (cellsNamed g.areas name)

def sameTracks (a b : Grid) : Bool :=
  Track.sameList a.columns b.columns && Track.sameList a.rows b.rows

/-- A step of the flow along a line of `count` tracks: the position of the next child, given as its
line and its place in the line, and the position after it. A child that does not fit begins a new
line, and so does the child behind a full line. -/
def advance (count : Nat) (line place span : Nat) : (Nat × Nat) × (Nat × Nat) :=
  let (line, place) :=
    if 0 < place ∧ count < addSaturating place span then (addSaturating line 1, 0)
    else (line, place)
  let next := addSaturating place span
  ((line, place), if count ≤ next then (addSaturating line 1, 0) else (line, next))

def nextCell (g : Grid) (rowSpan columnSpan : Nat) : Cell × Grid :=
  match g.flow with
  | .row =>
    let ((row, column), (nextRow, nextColumn)) :=
      advance (max g.totalColumns 1) g.cursor.row g.cursor.column columnSpan
    (⟨row, column⟩, { g with cursor := ⟨nextRow, nextColumn⟩ })
  | .column =>
    let ((column, row), (nextColumn, nextRow)) :=
      advance (max g.totalRows 1) g.cursor.column g.cursor.row rowSpan
    (⟨row, column⟩, { g with cursor := ⟨nextRow, nextColumn⟩ })

/-- The seat of a child in its cell. Gaps are split in halves between neighbouring cells, so the
outer sides of the grid get none. -/
def seat (u : CssUnits) (g : Grid) (style : Style) (s : GridSlot) : Seat :=
  let own := SelfAlignment.ofStyle style
  let horizontal := match g.justifyItems with
    | some k => k.horizontal
    | none => .fill
  let vertical := match g.alignItems with
    | some k => k.vertical
    | none => .fill
  let margin := u.margin style
  let halfColumn := g.gaps.column / 2
  let halfRow := g.gaps.row / 2
  ⟨{ left := if 0 < s.column then margin.left + halfColumn else margin.left
     top := if 0 < s.row then margin.top + halfRow else margin.top
     right := if addSaturating s.column s.columnSpan < g.totalColumns then margin.right + halfColumn
       else margin.right
     bottom := if addSaturating s.row s.rowSpan < g.totalRows then margin.bottom + halfRow
       else margin.bottom },
    own.horizontal horizontal, own.vertical vertical⟩

def reseat (u : CssUnits) (g : Grid) (style : Style) : Slot → Slot
  | .grid s => .grid { s with seat := g.seat u style s }
  | s => s

end Grid

end PanelLayout
