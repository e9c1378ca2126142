import PanelLayout.Grid.Line

/-!
Placements along one axis: from a pair of grid lines to the first track and the number of tracks.
Where there are tracks a placement stays inside them, and it always covers at least one.
-/
namespace PanelLayout

/-- A placement along one axis; without a start it is left to the flow. -/
structure AxisPlacement where
  start : Option Nat
  span : Nat
  deriving DecidableEq, Repr

def addSaturating (a b : Nat) : Nat :=
  min (a + b) 0xFFFFFFFF

namespace AxisPlacement

/-- The index of a line, in 32 bits. Zero stands for the line behind the last one, from which
negative numbers count back; lines before the first one count as the first. -/
def lineIndex (i : Int) (count : Nat) : Nat :=
  if 0 < i then (i - 1).toNat else ((count : Int) + 1 + i).toNat % UInt32.size

def endIndex (i : Int) (count : Nat) : Nat :=
  if 0 < count then min (lineIndex i count) count else lineIndex i count

def clamp (p : AxisPlacement) (count : Nat) : AxisPlacement :=
  if count = 0 then ⟨p.start, max p.span 1⟩
  else
    let start := p.start.map fun s => min s (count - 1)
    ⟨start, max (min (max p.span 1) (count - start.getD 0)) 1⟩

/-- The placement of two sides before it is kept inside the tracks. Two lines are taken in their
order, and a span before an end line reaches back from it. -/
def ofLines (start finish : GridLine) (count : Nat) : AxisPlacement :=
  match start, finish with
  | .line s, .line e =>
    let s := lineIndex s count
    let e := endIndex e count
    ⟨some (min s e), max s e - min s e⟩
  | .line s, .span n => ⟨some (lineIndex s count), n⟩
  | .line s, _ => ⟨some (lineIndex s count), 1⟩
  | .span n, .line e => ⟨some (endIndex e count - max n 1), max n 1⟩
  | .span n, _ => ⟨none, n⟩
  | _, .span n => ⟨none, n⟩
  | _, .line e => ⟨some (endIndex e count - 1), 1⟩
  | _, _ => ⟨none, 1⟩

def resolve (start finish : GridLine) (count : Nat) : AxisPlacement :=
  (ofLines start finish count).clamp count

end AxisPlacement

end PanelLayout
