import PanelLayout.Number.Single

/-! Extents and points in the plane of the panel, in pixels. -/
namespace PanelLayout

structure Size where
  width : Float32
  height : Float32
  deriving DecidableEq, Repr

namespace Size

def zero : Size := ⟨0, 0⟩

def isPositive (s : Size) : Bool :=
  0 < s.width && 0 < s.height

def same (a b : Size) : Bool :=
  a.width == b.width && a.height == b.height

end Size

structure Point where
  x : Float32
  y : Float32
  deriving DecidableEq, Repr

namespace Point

def zero : Point := ⟨0, 0⟩

def same (a b : Point) : Bool :=
  a.x == b.x && a.y == b.y

end Point

end PanelLayout
