import PanelLayout.Geometry.Size
import PanelLayout.Style.Basic

/-!
The pixel values of lengths. Relative lengths refer to a font size, the viewport or a reference
extent; what cannot be read counts as zero.
-/
namespace PanelLayout

structure CssUnits where
  rootFontSize : Float32
  viewport : Size
  pointsToPixels : Float32
  deriving DecidableEq, Repr

namespace CssUnits

def standard : CssUnits := ⟨16, ⟨1920, 1080⟩, 4 / 3⟩

/-- The font size of an element. Font sizes relative to a font refer to the root element. -/
def fontSize (u : CssUnits) (style : Style) : Float32 :=
  match style.get .fontSize with
  | some (.number x) => x
  | some (.text s) =>
    match Length.ofText? s.toList with
    | some (.amount x .px) => x
    | some (.amount x .pt) => x * u.pointsToPixels
    | some (.amount x .em) => x * u.rootFontSize
    | some (.amount x .rem) => x * u.rootFontSize
    | some (.amount x .percent) => x / 100 * u.rootFontSize
    | _ => u.rootFontSize
  | _ => u.rootFontSize

/-- The pixels of a length. Percentages refer to the reference extent and are zero without one. -/
def resolve (u : CssUnits) (style : Style) (reference : Option Float32) : Length → Float32
  | .auto => 0
  | .amount x .px => x
  | .amount x .pt => x * u.pointsToPixels
  | .amount x .em => x * u.fontSize style
  | .amount x .rem => x * u.rootFontSize
  | .amount x .vw => x / 100 * u.viewport.width
  | .amount x .vh => x / 100 * u.viewport.height
  | .amount x .percent =>
    match reference with
    | some extent => x / 100 * extent
    | none => 0
  | .amount _ .fr => 0

def pixels (u : CssUnits) (style : Style) (reference : Option Float32) : Value → Float32
  | .number x => x
  | .text s =>
    match Length.ofText? s.toList with
    | some l => u.resolve style reference l
    | none => 0
  | .spacing _ => 0

def definitePixels? (u : CssUnits) (style : Style) (reference : Option Float32) (p : Property) :
    Option Float32 :=
  (style.definite? p).map (u.pixels style reference)

end CssUnits

end PanelLayout
