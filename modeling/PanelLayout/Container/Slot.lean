import PanelLayout.Alignment.Keyword
import PanelLayout.Geometry.Anchors

/-!
Slots: what a panel records for each child. All slots but those of a canvas have a seat, that is a
padding and an alignment on both axes.
-/
namespace PanelLayout

structure Seat where
  padding : Margin
  horizontal : HorizontalAlignment
  vertical : VerticalAlignment
  deriving DecidableEq, Repr

namespace Seat

def filling : Seat := ⟨.zero, .fill, .fill⟩

def alignSelf (seat : Seat) (style : Style) (horizontal : HorizontalAlignment)
    (vertical : VerticalAlignment) : Seat :=
  let own := SelfAlignment.ofStyle style
  { seat with horizontal := own.horizontal horizontal, vertical := own.vertical vertical }

end Seat

structure BoxSlot where
  seat : Seat
  size : SizeRule
  deriving DecidableEq, Repr

structure WrapSlot where
  seat : Seat
  fillEmptySpace : Bool
  fillSpanWhenLessThan : Float32
  deriving DecidableEq, Repr

structure GridSlot where
  row : Nat
  column : Nat
  rowSpan : Nat
  columnSpan : Nat
  seat : Seat
  deriving DecidableEq, Repr

/-- A child of a canvas. Pinned children use the position and the size, stretched ones the offsets
from the edges of their anchors. The pivot is in fractions of the size of the child. -/
structure CanvasSlot where
  anchors : Anchors
  offsets : Margin
  position : Point
  size : Point
  pivot : Point
  autoSize : Bool
  zOrder : Int
  deriving DecidableEq, Repr

structure UniformGridSlot where
  row : Nat
  column : Nat
  seat : Seat
  deriving DecidableEq, Repr

inductive Slot where
  | box (s : BoxSlot)
  | wrap (s : WrapSlot)
  | grid (s : GridSlot)
  | canvas (s : CanvasSlot)
  | overlay (s : Seat)
  | uniformGrid (s : UniformGridSlot)
  deriving DecidableEq, Repr

def CanvasSlot.initial : CanvasSlot := ⟨.topLeft, .zero, .zero, .zero, .zero, false, 0⟩

namespace Slot

def seat? : Slot → Option Seat
  | box s => some s.seat
  | wrap s => some s.seat
  | grid s => some s.seat
  | canvas _ => none
  | overlay s => some s
  | uniformGrid s => some s.seat

def mapSeat (f : Seat → Seat) : Slot → Slot
  | box s => box { s with seat := f s.seat }
  | wrap s => wrap { s with seat := f s.seat }
  | grid s => grid { s with seat := f s.seat }
  | canvas s => canvas s
  | overlay s => overlay (f s)
  | uniformGrid s => uniformGrid { s with seat := f s.seat }

def setPadding (padding : Margin) : Slot → Slot :=
  mapSeat fun seat => { seat with padding := padding }

def alignSelf (style : Style) (horizontal : HorizontalAlignment) (vertical : VerticalAlignment) :
    Slot → Slot :=
  mapSeat fun seat => seat.alignSelf style horizontal vertical

def box? : Slot → Option BoxSlot
  | box s => some s
  | _ => none

def wrap? : Slot → Option WrapSlot
  | wrap s => some s
  | _ => none

def grid? : Slot → Option GridSlot
  | grid s => some s
  | _ => none

def canvas? : Slot → Option CanvasSlot
  | canvas s => some s
  | _ => none

def overlay? : Slot → Option Seat
  | overlay s => some s
  | _ => none

def uniformGrid? : Slot → Option UniformGridSlot
  | uniformGrid s => some s
  | _ => none

end Slot

end PanelLayout
