import PanelLayout.Geometry.Size

/-!
Anchors: the part of a canvas, in fractions of its size, that a child is attached to. A child is
pinned on an axis where both fractions agree, and stretched on an axis where they differ.
-/
namespace PanelLayout

structure Anchors where
  minimum : Point
  maximum : Point
  deriving DecidableEq, Repr

namespace Anchors

def ofBounds (minX minY maxX maxY : Float32) : Anchors :=
  ⟨⟨minX, minY⟩, ⟨maxX, maxY⟩⟩

def isStretchedHorizontally (a : Anchors) : Bool :=
  a.minimum.x != a.maximum.x

def isStretchedVertically (a : Anchors) : Bool :=
  a.minimum.y != a.maximum.y

def isStretched (a : Anchors) : Bool :=
  a.isStretchedHorizontally || a.isStretchedVertically

def topLeft : Anchors := ofBounds 0 0 0 0

end Anchors

end PanelLayout
